import RouteBus.Proofs.Bus.Connected
import RouteBus.Proofs.Bus.SingleFlight
import RouteBus.Proofs.Task.Traces

/-!
# What calls do and answer

Which steps an open and a close make on their own, whatever is done between them: an open claims
its key, connects as the host does and stores the connection; a close takes connections out of the
table and disconnects each of them as the host does. What a call answers tells which of these
steps it has made.
-/

namespace RouteBus

open Connections (Covers)
open RouteBus.Task (Trace Walks own)

variable {ε ν κ α : Type} {hub hub' : Hub ε ν κ} {host : Host ε ν κ}

def Claims (key : String) (hub hub' : Hub ε ν κ) : Prop :=
  (¬ ∃ other ∈ hub.bus.connections.keys ++ hub.bus.connections.pending, Covers key other) ∧
    hub' = (hub.withConnections { hub.bus.connections with
      pending := key :: hub.bus.connections.pending }).record (.openStarted key)

def Inserts (key : String) (hub hub' : Hub ε ν κ) : Prop :=
  ∃ handle count, handle.key = key ∧
    hub'.bus.connections.opened = Connections.insertSorted handle hub.bus.connections.opened ∧
    hub'.history = .event (.opened handle count) :: .event (.connected handle) :: hub.history

/-- The step takes these out of the table, or leaves it alone since the target is wanted. -/
def Removes (handles : List Handle) (hub hub' : Hub ε ν κ) : Prop :=
  (handles ++ hub'.bus.connections.opened).Perm hub.bus.connections.opened ∧
    (hub'.history = .event (.withdrawn handles) :: hub.history ∨
      handles = [] ∧ ∃ template key,
        hub'.history = .event (.closeSkipped template key) :: hub.history)

/-- The steps that an open has made, and what it has answered if it has ended. -/
inductive Opens (host : Host ε ν κ) (key : String) :
    List (Hub ε ν κ × Hub ε ν κ) → Option (Except TransportFailure Bool) → Prop
  | unbegun : Opens host key [] none
  | covered {s} : (∃ other ∈ s.bus.connections.keys ++ s.bus.connections.pending, Covers key other) →
      Opens host key [(s, s.record (.openSkipped key))] (some (.ok false))
  | connecting {s s'} : Claims key s s' →
      Walks (host.connect key (Bus.receiveChunk host key)) steps rest →
      Opens host key ((s, s') :: steps) none
  | refused {s s' r} {failure : TransportFailure} : Claims key s s' →
      Walks (host.connect key (Bus.receiveChunk host key)) steps (.done (.error failure)) →
      Opens host key ((s, s') :: steps ++ [(r, Bus.abandon key failure r)]) (some (.error failure))
  | stored {s s' r r'} : Claims key s s' →
      Walks (host.connect key (Bus.receiveChunk host key)) steps (.done (.ok ())) →
      Inserts key r r' →
      Opens host key ((s, s') :: steps ++ [(r, r')]) (some (.ok true))

/-- The steps with which the host disconnects connections one after another, and which of them
are left. The first of those that are left may be on its way out, the others wait. -/
inductive Disconnects (host : Host ε ν κ) (t : Template) :
    List Handle → List (Hub ε ν κ × Hub ε ν κ) → List Handle → Prop
  | waiting : Disconnects host t handles [] handles
  | leaving {s} : Walks (host.disconnect handle) steps rest →
      Disconnects host t (handle :: handles) ((s, s.record (.closing handle)) :: steps)
        (handle :: handles)
  | closed {s r} : Walks (host.disconnect handle) steps (.done ()) →
      Disconnects host t handles others left →
      Disconnects host t (handle :: handles)
        ((s, s.record (.closing handle)) :: steps ++ (r, r.record (.closed t.raw handle)) :: others)
        left

inductive Closes (host : Host ε ν κ) (t : Template) :
    List (Hub ε ν κ × Hub ε ν κ) → Option (List String) → Prop
  | unbegun : Closes host t [] none
  | disconnecting {s s'} : Removes handles s s' → Disconnects host t handles steps left → left ≠ [] →
      Closes host t ((s, s') :: steps) none
  | ended {s s'} : Removes handles s s' → Disconnects host t handles steps [] →
      Closes host t ((s, s') :: steps) (some (handles.map Handle.key))

inductive Call.Did (host : Host ε ν κ) :
    Call → List (Hub ε ν κ × Hub ε ν κ) → Option Call.Result → Prop
  | opens : resolve template args = .ok target → Opens host target.uri steps answer →
      Did host (.openStream template args) steps
        (answer.map fun result => .opened (result.mapError .transport))
  | closes : Template.parse template = .ok t → Closes host t steps keys →
      Did host (.closeStreams template args) steps (keys.map fun keys => .closed (.ok keys))
  | unresolved : resolve template args = .error e →
      Did host (.openStream template args) [] (some (.opened (.error (.template e))))
  | unparsed : Template.parse template = .error e →
      Did host (.closeStreams template args) [] (some (.closed (.error (.template e))))

def Unopened (hub hub' : Hub ε ν κ) : Prop :=
  ∀ entries handle, hub'.history = entries ++ hub.history → .event (.connected handle) ∈ entries →
    handle.key ∉ hub.bus.connections.keys

/-- What is connected to was claimed, so it was not open. -/
theorem unopened_of_trace {tasks tasks' : List (Task (Hub ε ν κ) α)} {trace}
    (clients : ∀ t ∈ tasks, Client t) (idle : Idle hub) (h : Trace tasks hub trace tasks' hub')
    {s s' : Hub ε ν κ} (hm : (i, s, s') ∈ trace) : Unopened s s' := by
  obtain ⟨mid, mid', before, move, -⟩ := h.moves hm
  obtain ⟨shares, hs, ha⟩ := accounted_of_reaches clients idle before
  intro entries handle he hh
  obtain ⟨shares', -, hd⟩ := move.settles hs
  exact ((ha.news (hd.imp_right And.left) he).2 handle hh).1

namespace Bus

-- ---------------------------------------------------------------------------
-- Opening
-- ---------------------------------------------------------------------------

theorem inserts_store (h : (store (mint key hub).1 (mint key hub).2).1 = none) :
    Inserts key hub (store (mint key hub).1 (mint key hub).2).2 := by
  by_cases hk : key ∈ hub.bus.connections.keys
  · rw [store_mint_back hk] at h
    cases h
  · rw [store_mint hk, Connections.store_eq_none (h := (mint key hub).1) hk]
    exact ⟨_, _, rfl, rfl, rfl⟩

theorem given_back (h : (store (mint key hub).1 (mint key hub).2).1 = some handle) :
    ¬ Unopened hub (store (mint key hub).1 (mint key hub).2).2 := by
  by_cases hk : key ∈ hub.bus.connections.keys
  · intro unopened
    refine unopened [.event (.connected (mint key hub).1)] (mint key hub).1 ?_ (by simp) hk
    rw [store_mint_back hk]
    rfl
  · rw [store_mint hk] at h
    cases h

theorem claims_claim (free : hub.bus.connections.isConnected key = false) :
    Claims key hub (claim key hub).2 := by
  have uncovered := mt Connections.isConnected_iff.mpr (Bool.eq_false_iff.mp free)
  refine ⟨uncovered, ?_⟩
  simp [claim_eq, free]

theorem opens_of_walks (unopened : ∀ step ∈ steps, Unopened step.1 step.2)
    (hw : Walks (openTarget host key) steps u) : Opens host key steps u.value? := by
  rcases Task.walks_atomically_or hw with ⟨rfl, hu⟩ | ⟨s, rest, rfl, claimed⟩
  · rw [hu]
    exact .unbegun
  cases hc : s.bus.connections.isConnected key with
  | true =>
    have skipped : claim key s = (false, s.record (.openSkipped key)) := by simp [claim_eq, hc]
    rw [skipped] at claimed ⊢
    cases claimed
    exact .covered (Connections.isConnected_iff.mp hc)
  | false =>
    have claims := claims_claim hc
    have free : (claim key s).1 = true := by simp [claim_eq, hc]
    rw [free] at claimed
    rcases Task.walks_bind_or claimed with
      ⟨left, connecting, -, hu⟩ | ⟨answer, during, after, rfl, connects, answered⟩
    · rw [hu]
      exact .connecting claims connecting
    -- The connect has ended. Unless its end has been put into the table it is still underway.
    cases answer with
    | error failure =>
      rcases Task.walks_modify_or answered with ⟨rfl, hu⟩ | ⟨r, last, rfl, abandoned⟩
      · rw [hu, List.append_nil]
        exact .connecting claims connects
      · cases abandoned
        exact .refused claims connects
    | ok =>
      rcases Task.walks_atomically_or answered with ⟨rfl, hu⟩ | ⟨r, last, rfl, stored⟩
      · rw [hu, List.append_nil]
        exact .connecting claims connects
      cases hs : (store (mint key r).1 (mint key r).2).1 with
      | none =>
        simp only [hs] at stored
        cases stored
        exact .stored claims connects (inserts_store hs)
      | some handle => exact absurd (unopened (r, _) (by simp)) (given_back hs)

-- ---------------------------------------------------------------------------
-- Closing
-- ---------------------------------------------------------------------------

theorem disconnects_of_walks {t : Template} {handles : List Handle}
    (hw : Walks (disconnectAll host t handles) steps u) :
    ∃ left, Disconnects host t handles steps left ∧
      (left = [] ∧ u.value? = some () ∨ left ≠ [] ∧ u.value? = none) := by
  induction handles generalizing steps with
  | nil =>
    cases hw
    exact ⟨[], .waiting, .inl ⟨rfl, rfl⟩⟩
  | cons handle handles ih =>
    rcases Task.walks_bind_or hw with ⟨rest, first, -, hu⟩ | ⟨_, during, after, rfl, first, others⟩
    · refine ⟨handle :: handles, ?_, .inr ⟨by simp, hu⟩⟩
      rcases Task.walks_modify_or first with ⟨rfl, -⟩ | ⟨s, during, rfl, disconnecting⟩
      · exact .waiting
      · exact .leaving disconnecting
    · obtain ⟨s, during, rfl, disconnected⟩ := Task.walks_modify first
      rcases Task.walks_modify_or others with ⟨rfl, hu⟩ | ⟨r, after, rfl, rest⟩
      · rw [List.append_nil]
        exact ⟨handle :: handles, .leaving disconnected, .inr ⟨by simp, hu⟩⟩
      · obtain ⟨left, leaves, hu⟩ := ih rest
        exact ⟨left, .closed disconnected leaves, hu⟩

theorem removes_withdraw (template : Template) (target : Target) (hub : Hub ε ν κ) :
    Removes (withdraw template target hub).1 hub (withdraw template target hub).2 := by
  unfold withdraw
  split
  · exact ⟨.refl _, .inr ⟨rfl, _, _, rfl⟩⟩
  · exact ⟨hub.bus.connections.takeMatching_perm template, .inl rfl⟩

theorem closes_of_walks {t : Template} {target : Target}
    (hw : Walks (closeTarget host t target) steps u) : Closes host t steps u.value? := by
  rcases Task.walks_atomically_or hw with ⟨rfl, hu⟩ | ⟨s, rest, rfl, withdrawn⟩
  · rw [hu]
    exact .unbegun
  have removes := removes_withdraw t target s
  rcases Task.walks_bind_or withdrawn with
    ⟨left, disconnecting, unended, hu⟩ | ⟨_, during, last, rfl, disconnected, listed⟩
  · obtain ⟨left, leaves, ⟨-, ended⟩ | ⟨some_left, -⟩⟩ := disconnects_of_walks disconnecting
    · simp [unended] at ended
    · rw [hu]
      exact .disconnecting removes leaves some_left
  · obtain ⟨left, leaves, ⟨rfl, -⟩ | ⟨-, unended⟩⟩ := disconnects_of_walks disconnected
    · cases listed
      rw [List.append_nil]
      exact .ended removes leaves
    · cases unended

end Bus

theorem Call.did {call : Call} (unopened : ∀ step ∈ steps, Unopened step.1 step.2)
    (hw : Walks (call.task host) steps u) : call.Did host steps u.value? := by
  cases call with
  | openStream template args =>
    obtain ⟨rest, ho, hu⟩ := Task.walks_map_or hw
    rw [hu]
    unfold Bus.openStream at ho
    split at ho
    · cases ho
      exact .unresolved ‹_›
    · obtain ⟨left, ho, hl⟩ := Task.walks_map_or ho
      rw [hl, Option.map_map]
      exact .opens ‹_› (Bus.opens_of_walks unopened ho)
  | closeStreams template args =>
    obtain ⟨rest, hc, hu⟩ := Task.walks_map_or hw
    rw [hu]
    unfold Bus.closeStreams at hc
    split at hc
    · cases hc
      exact .unparsed ‹_›
    · obtain ⟨left, hc, hl⟩ := Task.walks_map_or hc
      rw [hl, Option.map_map]
      exact .closes ‹_› (Bus.closes_of_walks hc)

theorem Call.did_of_trace (lawful : host.Lawful) (calls : List Call) (idle : Idle hub)
    {tasks : List (Task (Hub ε ν κ) Call.Result)} {trace : List (Nat × Hub ε ν κ × Hub ε ν κ)}
    (h : Trace (calls.map (Call.task host)) hub trace tasks hub') {i : Nat} {call : Call}
    (called : calls[i]? = some call) :
    ∃ t, tasks[i]? = some t ∧ call.Did host (own i trace) t.value? := by
  have begun : (calls.map (Call.task host))[i]? = some (call.task host) := by
    simp [called]
  obtain ⟨t, left, walks⟩ := h.walks begun
  refine ⟨t, left, Call.did (fun step hm => ?_) walks⟩
  exact unopened_of_trace (Call.clients lawful calls) idle h (Task.mem_of_mem_own hm)

end RouteBus
