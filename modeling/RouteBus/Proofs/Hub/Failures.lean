import Mathlib
import RouteBus.Navigation.Router
import RouteBus.Proofs.Bus.Connections
import RouteBus.Proofs.Bus.SingleFlight
import RouteBus.Proofs.Rehearsal.Lawful

/-!
# Failures

What a caller asks for is checked before anything is done about it: the template is read first,
a body is decoded as a whole before the first of its messages is dispatched, and what an open
claims it gives up when its connect is refused. So a request that fails leaves bus and router as
they were.
-/

namespace RouteBus

open RouteBus.Task (Runs)

-- ---------------------------------------------------------------------------
-- What may fail
-- ---------------------------------------------------------------------------

/-- What a caller may ask for and be refused. A route is registered for its first chain and for
each further one alike. -/
inductive Fallible (κ : Type) where
  | subscribe (template : String) (listener : Listener)
  | onReceive (template : String)
  | openStream (template : String) (args : List String)
  | closeStreams (template : String) (args : List String)
  | fetch (template : String) (args : List String)
  | receiveRaw (text : String)
  | register (template : String) (chains : List (RouteChain κ))
  | go (template : String) (args : List String)

def Fallible.refusal (tell : ω → StreamError) (answer : Except ω α) : Except StreamError Unit :=
  (answer.map fun _ => ()).mapError tell

def Fallible.task (host : Host ε ν κ) : Fallible κ → Task (Hub ε ν κ) (Except StreamError Unit)
  | .subscribe template l => refusal .template <$> Bus.subscribe template l
  | .onReceive template => refusal .template <$> Bus.onReceive template
  | .openStream template args => refusal id <$> Bus.openStream host template args
  | .closeStreams template args => refusal id <$> Bus.closeStreams host template args
  | .fetch template args => refusal id <$> Bus.fetch host template args
  | .receiveRaw text => refusal id <$> Bus.receiveRaw host text
  | .register template chains => refusal .template <$> Router.register host template chains
  | .go template args => refusal .template <$> Router.go template args

def Entry.isAction : Entry ν → Bool
  | .event (.sourceMissing) | .event (.sourceUnmatched _) | .event (.groupEmpty ..) => true
  | .event (.delivering ..) | .event (.handed ..) => true
  | .event (.chainStarted ..) | .event (.closing _) => true
  | _ => false

/-- Bus and router are as they were, and nothing was run meanwhile. -/
structure Untouched (hub hub' : Hub ε ν κ) : Prop where
  bus : hub'.bus = hub.bus
  router : hub'.router = hub.router
  history : ∃ entries, hub'.history = entries ++ hub.history ∧
    ∀ entry ∈ entries, entry.isAction = false

structure Apart (hub hub' : Hub ε ν κ) : Prop where
  bus : hub'.bus = hub.bus
  router : hub'.router = hub.router
  notes : ∃ notes : List ν, hub'.history = notes.map .note ++ hub.history

/-- By itself the transport of the host is apart from bus and router, and it hands over no chunk
before a connect fails. -/
structure Host.Reticent (host : Host ε ν κ) : Prop where
  request : ∀ uri, (host.request uri).Keeps Apart
  connect : ∀ key, (host.connect key fun _ => .done ()).Keeps Apart
  hands_over_nothing : ∀ key deliver hub failure hub',
    Runs Eq (host.connect key deliver) hub (.error failure) hub' →
    Runs Eq (host.connect key fun _ => .done ()) hub (.error failure) hub'

variable {ε ν κ α β ω : Type} {hub hub' last : Hub ε ν κ} {host : Host ε ν κ}

theorem untouched_refl (hub : Hub ε ν κ) : Untouched hub hub := ⟨rfl, rfl, [], rfl, by simp⟩

theorem Untouched.trans (h : Untouched hub hub') (h' : Untouched hub' last) : Untouched hub last := by
  obtain ⟨before, hb, quiet⟩ := h.history
  obtain ⟨after, ha, quiet'⟩ := h'.history
  refine ⟨h'.bus.trans h.bus, h'.router.trans h.router, after ++ before, ?_, ?_⟩
  · simp [ha, hb]
  · intro entry he
    rcases List.mem_append.mp he with he | he
    · exact quiet' entry he
    · exact quiet entry he

theorem untouched_record {event : Event} (h : (Entry.event event : Entry ν).isAction = false)
    (hub : Hub ε ν κ) : Untouched hub (hub.record event) :=
  ⟨rfl, rfl, [.event event], rfl, by simpa using h⟩

theorem apart_refl (hub : Hub ε ν κ) : Apart hub hub := ⟨rfl, rfl, [], rfl⟩

theorem Apart.trans (h : Apart hub hub') (h' : Apart hub' last) : Apart hub last := by
  obtain ⟨before, hb⟩ := h.notes
  obtain ⟨after, ha⟩ := h'.notes
  exact ⟨h'.bus.trans h.bus, h'.router.trans h.router, after ++ before, by simp [ha, hb]⟩

theorem Apart.untouched (h : Apart hub hub') : Untouched hub hub' := by
  obtain ⟨notes, hn⟩ := h.notes
  refine ⟨h.bus, h.router, notes.map .note, hn, fun entry he => ?_⟩
  obtain ⟨note, -, rfl⟩ := List.mem_map.mp he
  rfl

theorem apart_of_runs {t : Task (Hub ε ν κ) α} (apart : t.Keeps Apart) (h : Runs Eq t hub a hub') :
    Apart hub hub' := by
  have step : ∀ s s', Apart s s' → Apart hub s → Apart hub s' := fun _ _ hs hp => hp.trans hs
  have company : ∀ s s' : Hub ε ν κ, s = s' → Apart hub s → Apart hub s' := by
    rintro s _ rfl
    exact id
  exact apart.ensures step company hub a hub' (apart_refl hub) h

@[simp] theorem runs_tell_bind {k : Unit → Task (Hub ε ν κ) α} {event : Event} :
    Runs rely (Hub.tell event >>= k) hub a hub' ↔ Runs rely (k ()) (hub.record event) a hub' :=
  Task.runs_modify_bind

/-- What is refused is refused by the task itself. -/
theorem runs_refusal {tell : ω → StreamError} {t : Task (Hub ε ν κ) (Except ω α)}
    (h : Runs Eq (Fallible.refusal tell <$> t) hub (.error e) hub') :
    ∃ reason, e = tell reason ∧ Runs Eq t hub (.error reason) hub' := by
  rw [map_eq_pure_bind] at h
  obtain ⟨answer, mid, ht, hd⟩ := Task.runs_bind.mp h
  obtain ⟨he, rfl⟩ := Task.runs_done.mp hd
  cases answer with
  | ok value => cases he
  | error reason => exact ⟨reason, Except.error.inj he, ht⟩

-- ---------------------------------------------------------------------------
-- Listeners, closes and locations
-- ---------------------------------------------------------------------------

namespace Bus

theorem register_error {l : Listener} (h : (register template l hub).1 = .error e) :
    (register template l hub).2 = hub := by
  unfold register at h ⊢
  split
  · rfl
  · rename_i hs
    simp [hs] at h

theorem untouched_subscribe (h : Runs Eq (subscribe template l) hub (.error e) hub') :
    Untouched hub hub' := by
  rw [subscribe, Task.atomically, Task.runs_act, Task.runs_done] at h
  rw [h.2, register_error h.1.symm]
  exact untouched_refl hub

theorem untouched_onReceive (h : Runs Eq (onReceive template) hub (.error e) hub') :
    Untouched hub hub' := by
  rw [onReceive, Task.atomically, Task.runs_act, Task.runs_done] at h
  obtain ⟨he, rfl⟩ := h
  dsimp only at he ⊢
  split at he
  · cases he
  · exact untouched_refl hub

theorem untouched_closeStreams (h : Runs Eq (closeStreams host template args) hub (.error e) hub') :
    Untouched hub hub' := by
  unfold closeStreams at h
  split at h
  · obtain ⟨-, rfl⟩ := Task.runs_done.mp h
    exact untouched_refl _
  · rw [map_eq_pure_bind] at h
    obtain ⟨_, _, -, hd⟩ := Task.runs_bind.mp h
    simp at hd

theorem untouched_receiveRaw (h : Runs Eq (receiveRaw host text) hub (.error e) hub') :
    Untouched hub hub' := by
  unfold receiveRaw at h
  split at h
  · obtain ⟨-, rfl⟩ := Task.runs_done.mp h
    exact untouched_refl _
  · rw [map_eq_pure_bind] at h
    obtain ⟨_, _, -, hd⟩ := Task.runs_bind.mp h
    simp at hd

end Bus

namespace Router

theorem untouched_go (h : Runs Eq (go template args) hub (.error e) hub') : Untouched hub hub' := by
  unfold go at h
  split at h
  · obtain ⟨-, rfl⟩ := Task.runs_done.mp h
    exact untouched_refl _
  · simp at h

theorem untouched_register (h : Runs Eq (register host template chains) hub (.error e) hub') :
    Untouched hub hub' := by
  unfold register at h
  split at h
  · obtain ⟨-, rfl⟩ := Task.runs_done.mp h
    exact untouched_refl _
  · rw [Task.runs_atomically_bind] at h
    obtain ⟨location, _, -, h⟩ := Task.runs_bind.mp h
    obtain ⟨fired, _, -, h⟩ := Task.runs_bind.mp h
    cases fired <;> simp at h

end Router

-- ---------------------------------------------------------------------------
-- Opens
-- ---------------------------------------------------------------------------

structure Free (key : String) (c : Connections) : Prop where
  uncovered : c.isConnected key = false
  unopened : key ∉ c.keys
  unclaimed : key ∉ c.pending

namespace Bus

theorem free_of_claim (h : (claim key hub).1 = true) : Free key hub.bus.connections := by
  unfold claim at h
  split at h
  · cases h
  · rename_i uncovered
    cases hr : hub.bus.connections.reserve key with
    | none => simp [hr] at h
    | some connections =>
      obtain ⟨unopened, unclaimed, -⟩ := Connections.reserve_eq_some_iff.mp hr
      exact ⟨by simpa using uncovered, unopened, unclaimed⟩

theorem claim_free (h : Free key hub.bus.connections) :
    claim key hub = (true, (hub.withConnections { hub.bus.connections with
      pending := key :: hub.bus.connections.pending }).record (.openStarted key)) := by
  have reserved := Connections.reserve_eq_some_iff.mpr ⟨h.unopened, h.unclaimed, rfl⟩
  simp [claim, h.uncovered, reserved]

/-- An open that fails had claimed its key, and gave the claim up when its connect was refused. -/
theorem runs_openTarget_error {failure : TransportFailure}
    (h : Runs Eq (openTarget host key) hub (.error failure) hub') :
    Free key hub.bus.connections ∧ ∃ mid,
      Runs Eq (host.connect key (receiveChunk host key)) (claim key hub).2 (.error failure) mid ∧
        hub' = abandon key failure mid := by
  rw [openTarget, Task.runs_atomically_bind] at h
  cases hc : (claim key hub).1 with
  | false => simp [hc] at h
  | true =>
    rw [hc] at h
    obtain ⟨answer, mid, connects, h⟩ := Task.runs_bind.mp h
    refine ⟨free_of_claim hc, ?_⟩
    cases answer with
    | error refused =>
      rw [Task.runs_modify_bind] at h
      obtain ⟨he, rfl⟩ := Task.runs_done.mp h
      obtain rfl := Except.error.inj he
      exact ⟨mid, connects, rfl⟩
    | ok =>
      rw [Task.runs_atomically_bind] at h
      cases hs : (store (mint key mid).1 (mint key mid).2).1 with
      | none => simp [hs] at h
      | some duplicate =>
        rw [hs] at h
        obtain ⟨_, _, -, hd⟩ := Task.runs_bind.mp h
        simp at hd

theorem untouched_openTarget {failure : TransportFailure} (reticent : host.Reticent)
    (h : Runs Eq (openTarget host key) hub (.error failure) hub') : Untouched hub hub' := by
  obtain ⟨free, mid, connects, rfl⟩ := runs_openTarget_error h
  have apart := apart_of_runs (reticent.connect key)
    (reticent.hands_over_nothing key _ _ failure mid connects)
  obtain ⟨notes, hn⟩ := apart.notes
  have bus := apart.bus
  rw [claim_free free] at hn bus
  have others : (key :: hub.bus.connections.pending).filter (· ≠ key) =
      hub.bus.connections.pending := by
    rw [List.filter_cons_of_neg (by simp), List.filter_eq_self]
    intro other ho
    simpa using fun he : other = key => free.unclaimed (he ▸ ho)
  have released : ({ hub.bus.connections with
      pending := key :: hub.bus.connections.pending }.release key) = hub.bus.connections :=
    congrArg (Connections.mk _) others
  constructor
  · simp [abandon, Hub.withConnections, Hub.record, bus, released]
  · exact apart.router.trans (by rw [claim_free free]; rfl)
  · refine ⟨.event (.openFailed key failure) :: (notes.map .note ++ [.event (.openStarted key)]),
      ?_, ?_⟩
    · simp [abandon, Hub.withConnections, Hub.record, hn]
    · intro entry he
      simp only [List.mem_cons, List.mem_append, List.mem_map, List.not_mem_nil, or_false] at he
      rcases he with rfl | ⟨note, -, rfl⟩ | rfl <;> rfl

theorem runs_openStream_error (h : Runs Eq (openStream host template args) hub (.error e) hub') :
    (∃ refusal, e = .template refusal ∧ hub' = hub) ∨
      ∃ target failure, e = .transport failure ∧ resolve template args = .ok target ∧
        Runs Eq (openTarget host target.uri) hub (.error failure) hub' := by
  unfold openStream at h
  split at h
  · rename_i refusal _
    obtain ⟨he, rfl⟩ := Task.runs_done.mp h
    exact .inl ⟨refusal, Except.error.inj he, rfl⟩
  · rename_i target resolved
    rw [map_eq_pure_bind] at h
    obtain ⟨answer, mid, opens, hd⟩ := Task.runs_bind.mp h
    obtain ⟨he, rfl⟩ := Task.runs_done.mp hd
    cases answer with
    | ok made => cases he
    | error failure => exact .inr ⟨target, failure, Except.error.inj he, resolved, opens⟩

structure Attempts (host : Host ε ν κ) (key : String) (hub : Hub ε ν κ) : Prop where
  claims : (claim key hub).1 = true
  refused : ∀ failure mid,
    Runs Eq (host.connect key (receiveChunk host key)) (claim key hub).2 (.error failure) mid →
      Runs Eq (openTarget host key) hub (.error failure) (abandon key failure mid)
  made : ∀ mid, Runs Eq (host.connect key (receiveChunk host key)) (claim key hub).2 (.ok ()) mid →
    key ∉ mid.bus.connections.keys →
      Runs Eq (openTarget host key) hub (.ok true) (store (mint key mid).1 (mint key mid).2).2

theorem attempts_free (free : Free key hub.bus.connections) : Attempts host key hub := by
  have claims : (claim key hub).1 = true := by rw [claim_free free]
  refine ⟨claims, fun failure mid connects => ?_, fun mid connects unopened => ?_⟩
  · rw [openTarget, Task.runs_atomically_bind, claims]
    refine Task.runs_bind.mpr ⟨_, mid, connects, ?_⟩
    simp
  · rw [openTarget, Task.runs_atomically_bind, claims]
    refine Task.runs_bind.mpr ⟨_, mid, connects, ?_⟩
    simp [store_mint unopened]

-- ---------------------------------------------------------------------------
-- Fetches
-- ---------------------------------------------------------------------------

theorem untouched_fetchTarget (reticent : host.Reticent)
    (h : Runs Eq (fetchTarget host uri) hub (.error e) hub') : Untouched hub hub' := by
  rw [fetchTarget, runs_tell_bind] at h
  obtain ⟨answer, mid, requests, h⟩ := Task.runs_bind.mp h
  have asked : Untouched hub mid :=
    (untouched_record rfl hub).trans (apart_of_runs (reticent.request uri) requests).untouched
  cases answer with
  | error failure =>
    obtain ⟨-, rfl⟩ : _ ∧ hub' = mid.record (.fetchFailed uri failure) := by simpa using h
    exact asked.trans (untouched_record rfl mid)
  | ok body =>
    dsimp only at h
    split at h
    · obtain ⟨-, rfl⟩ : _ ∧ hub' = mid.record (.fetchUndecodable uri) := by simpa using h
      exact asked.trans (untouched_record rfl mid)
    · obtain ⟨_, _, -, h⟩ := Task.runs_bind.mp h
      simp at h

theorem untouched_fetch (reticent : host.Reticent)
    (h : Runs Eq (fetch host template args) hub (.error e) hub') : Untouched hub hub' := by
  unfold fetch at h
  split at h
  · obtain ⟨-, rfl⟩ := Task.runs_done.mp h
    exact untouched_refl _
  · exact untouched_fetchTarget reticent h

end Bus

/-- A batch decodes only if its text does, to the last character. -/
theorem Message.decode_of_decodeBatch (h : Message.decodeBatch body = .ok messages) :
    ∃ items, Json.decode body = .ok (.arr items) ∧ messages = items.map Message.ofPayload := by
  unfold Message.decodeBatch at h
  cases ha : Json.decodeArray body with
  | error reason => simp [ha] at h
  | ok items =>
    refine ⟨items, ?_, ?_⟩
    · simp only [Json.decodeArray] at ha
      split at ha
      · cases ha
      · obtain ⟨value, whole, hv⟩ := Token.bind_ok.mp ha
        cases value <;> cases hv
        exact whole
      all_goals cases ha
    · simp [ha] at h
      exact h.symm

/-- The body of a fetch is decoded before any message of it is dispatched. -/
theorem Bus.runs_fetch_undecodable {target : Target}
    (resolved : resolve template args = .ok target)
    (requests : Runs Eq (host.request target.uri) (hub.record (.fetchStarted target.uri)) (.ok body) mid)
    (undecodable : ∀ items, Json.decode body ≠ .ok (.arr items)) :
    ∃ reason, Runs Eq (Bus.fetch host template args) hub (.error (.decode target.uri reason))
      (mid.record (.fetchUndecodable target.uri)) := by
  cases decoded : Message.decodeBatch body with
  | ok messages =>
    obtain ⟨items, whole, -⟩ := Message.decode_of_decodeBatch decoded
    exact absurd whole (undecodable items)
  | error reason =>
    refine ⟨reason, ?_⟩
    rw [Bus.fetch, resolved]
    refine runs_tell_bind.mpr (Task.runs_bind.mpr ⟨_, mid, requests, ?_⟩)
    simp [decoded]

-- ---------------------------------------------------------------------------
-- All of them
-- ---------------------------------------------------------------------------

theorem Fallible.untouched (reticent : host.Reticent) {request : Fallible κ}
    (h : Runs Eq (request.task host) hub (.error e) hub') : Untouched hub hub' := by
  cases request with
  | subscribe =>
    obtain ⟨reason, -, h⟩ := runs_refusal h
    exact Bus.untouched_subscribe h
  | onReceive =>
    obtain ⟨reason, -, h⟩ := runs_refusal h
    exact Bus.untouched_onReceive h
  | openStream =>
    obtain ⟨reason, -, h⟩ := runs_refusal h
    rcases Bus.runs_openStream_error h with ⟨_, -, rfl⟩ | ⟨target, failure, -, -, h⟩
    · exact untouched_refl _
    · exact Bus.untouched_openTarget reticent h
  | closeStreams =>
    obtain ⟨reason, -, h⟩ := runs_refusal h
    exact Bus.untouched_closeStreams h
  | fetch =>
    obtain ⟨reason, -, h⟩ := runs_refusal h
    exact Bus.untouched_fetch reticent h
  | receiveRaw =>
    obtain ⟨reason, -, h⟩ := runs_refusal h
    exact Bus.untouched_receiveRaw h
  | register =>
    obtain ⟨reason, -, h⟩ := runs_refusal h
    exact Router.untouched_register h
  | go =>
    obtain ⟨reason, -, h⟩ := runs_refusal h
    exact Router.untouched_go h

/-- A request that fails leaves bus and router as they were, and nothing was run for it. So does
a fetch whose body does not decode, wherever the fault is; and the key of an open that was
refused is connected to by the next open of it, as long as the connections are the same. -/
theorem failures_leave_no_trace (reticent : host.Reticent) :
    (∀ (request : Fallible κ) (hub hub' : Hub ε ν κ) (e : StreamError),
      (request.task host).run hub = (.error e, hub') → Untouched hub hub') ∧
    (∀ template args target body (hub mid : Hub ε ν κ), resolve template args = .ok target →
      (host.request target.uri).run (hub.record (.fetchStarted target.uri)) = (.ok body, mid) →
      (∀ items, Json.decode body ≠ .ok (.arr items)) →
      ∃ reason hub', (Bus.fetch host template args).run hub =
        (.error (.decode target.uri reason), hub') ∧ Untouched hub hub') ∧
    ∀ template args target failure (hub hub' later : Hub ε ν κ),
      resolve template args = .ok target →
      (Bus.openStream host template args).run hub = (.error (.transport failure), hub') →
      later.bus.connections = hub'.bus.connections → Bus.Attempts host target.uri later := by
  refine ⟨fun request hub hub' e h => ?_, fun template args target body hub mid hr hq hu => ?_,
    fun template args target failure hub hub' later hr ho same => ?_⟩
  · exact Fallible.untouched reticent (Task.runs_eq_iff.mpr h)
  · obtain ⟨reason, h⟩ := Bus.runs_fetch_undecodable hr (Task.runs_eq_iff.mpr hq) hu
    exact ⟨reason, _, Task.runs_eq_iff.mp h, Bus.untouched_fetch reticent h⟩
  · rcases Bus.runs_openStream_error (Task.runs_eq_iff.mpr ho) with
      ⟨refusal, he, -⟩ | ⟨other, refused, -, resolved, opens⟩
    · cases he
    · obtain rfl := Except.ok.inj (hr.symm.trans resolved)
      have untouched := Bus.untouched_openTarget reticent opens
      obtain ⟨free, -⟩ := Bus.runs_openTarget_error opens
      apply Bus.attempts_free
      rwa [same, untouched.bus]

namespace Rehearsal

theorem apart_note (note : Note) : (Rehearsal.note note).Keeps Apart :=
  fun _ => ⟨⟨rfl, rfl, [note], rfl⟩, trivial⟩

theorem apart_read (f : Staging → α) : (Task.read f).Keeps Apart := fun hub => ⟨apart_refl hub, trivial⟩

theorem apart_onWire (f : Wire → α × Wire) : (onWire f).Keeps Apart :=
  fun _ => ⟨⟨rfl, rfl, [], rfl⟩, trivial⟩

theorem keeps_pause (n : Nat) : (Task.pause n : Task Staging Unit).Keeps Apart := by
  induction n with
  | zero => trivial
  | succ n ih => exact ih

theorem host_reticent : Rehearsal.host.Reticent where
  request uri := Task.keeps_bind (apart_note _) fun _ => apart_onWire _
  connect key := by
    refine Task.keeps_bind (apart_note _) fun _ => Task.keeps_bind (apart_read _) fun count => ?_
    refine Task.keeps_bind (keeps_pause count) fun _ => Task.keeps_bind (apart_onWire _) fun answer => ?_
    cases answer with
    | error failure => trivial
    | ok =>
      refine Task.keeps_bind (apart_read _) fun chunks => Task.keeps_bind ?_ fun _ => trivial
      induction chunks with
      | nil => trivial
      | cons chunk chunks ih => exact ih
  hands_over_nothing key deliver hub failure hub' h := by
    change Runs Eq (connect key deliver) hub (.error failure) hub' at h
    change Runs Eq (connect key _) hub (.error failure) hub'
    unfold connect at h ⊢
    obtain ⟨_, s₁, h₁, h⟩ := Task.runs_bind.mp h
    obtain ⟨count, s₂, h₂, h⟩ := Task.runs_bind.mp h
    obtain ⟨_, s₃, h₃, h⟩ := Task.runs_bind.mp h
    obtain ⟨answer, s₄, h₄, h⟩ := Task.runs_bind.mp h
    cases answer with
    | error refused =>
      exact Task.runs_bind.mpr ⟨_, s₁, h₁, Task.runs_bind.mpr ⟨count, s₂, h₂,
        Task.runs_bind.mpr ⟨_, s₃, h₃, Task.runs_bind.mpr ⟨_, s₄, h₄, h⟩⟩⟩⟩
    | ok =>
      obtain ⟨chunks, _, -, h⟩ := Task.runs_bind.mp h
      obtain ⟨_, _, -, hd⟩ := Task.runs_bind.mp h
      simp at hd

def stubborn : Staging :=
  .new "bus" "/" { Scene.new with
    wire := (Wire.new.refuse "k").respond "f" (.ok "[\x7b\x7d,") }

end Rehearsal

open Rehearsal in
theorem failures_leave_no_trace_stubborn :
    ∃ opened fetched reason,
      (Bus.openStream Rehearsal.host "k" []).run stubborn =
        (.error (.transport ⟨"k", "connection refused"⟩), opened) ∧
      Untouched stubborn opened ∧ Bus.Attempts Rehearsal.host "k" opened ∧
      (Bus.fetch Rehearsal.host "f" []).run stubborn = (.error (.decode "f" reason), fetched) ∧
      Untouched stubborn fetched := by
  obtain ⟨untouched, undecodable, attempts⟩ := failures_leave_no_trace host_reticent
  have refused : ((Bus.openStream Rehearsal.host "k" []).run stubborn).1 =
      .error (.transport ⟨"k", "connection refused"⟩) := by cbv
  have asked : ((Fallible.openStream "k" []).task Rehearsal.host).run stubborn =
      (.error (.transport ⟨"k", "connection refused"⟩),
        ((Bus.openStream Rehearsal.host "k" []).run stubborn).2) := by
    rw [Fallible.task, map_eq_pure_bind, Task.run_bind, refused]
    rfl
  have answered : ((Rehearsal.host.request "f").run (stubborn.record (.fetchStarted "f"))).1 =
      .ok "[\x7b\x7d," := by cbv
  have half : Json.decode "[\x7b\x7d," = .error .early := by cbv
  have key : resolve "k" [] = .ok ⟨"k", true⟩ := by cbv
  have uri : resolve "f" [] = .ok ⟨"f", true⟩ := by cbv
  have opened : (Bus.openStream Rehearsal.host "k" []).run stubborn =
      (_, ((Bus.openStream Rehearsal.host "k" []).run stubborn).2) := Prod.ext refused rfl
  obtain ⟨reason, fetched, fetches, kept⟩ := undecodable "f" [] _ _ stubborn _ uri
    (Prod.ext answered rfl) (by simp [half])
  refine ⟨_, fetched, reason, opened, ?_, ?_, fetches, kept⟩
  · exact untouched (.openStream "k" []) stubborn _ _ asked
  · exact attempts "k" [] _ _ stubborn _ _ key opened rfl

end RouteBus
