import RouteBus.Proofs.Bus.Closing
import RouteBus.Proofs.Task.Traces

/-!
# Opens that a close does not see

A close takes out what is open when it looks at the table. A key whose connect is in flight at
that moment is only claimed: there is nothing of it to take out yet, and it is stored when the
connect has ended. So behind a close a key that its template matches is open for one of two
reasons: its open began after the close, or its connect was in flight when the close began.
-/

namespace RouteBus

open RouteBus.Task (Settles Deals Reaches Trace Walks own)

def Entry.flies (key : String) : Entry ν → Bool
  | .event (.openStarted started) => started = key
  | .event (.connected handle) => handle.key = key
  | .event (.openFailed failed _) => failed = key
  | _ => false

/-- The connect in flight by the history was started by an open that began after `before`. -/
def BegunSince (before : List (Entry ν)) (key : String) (history : List (Entry ν)) : Prop :=
  ∃ during between, history = during ++ .event (.openStarted key) :: (between ++ before) ∧
    ∀ entry ∈ during, entry.flies key = false

/-- The connect in flight by the history was in flight by `before` and has not ended since. -/
def UnderwaySince (before : List (Entry ν)) (key : String) (history : List (Entry ν)) : Prop :=
  key ∈ inFlight before ∧ ∃ during, history = during ++ before ∧
    ∀ entry ∈ during, entry.flies key = false

/-- The connection was stored when its connect had ended, and this holds of the history up to
then. -/
def StoredAfter (tells : List (Entry ν) → Prop) (handle : Handle) (history : List (Entry ν)) :
    Prop :=
  ∃ later count older, tells older ∧
    history = later ++ .event (.opened handle count) :: .event (.connected handle) :: older

def TracedTo (before : List (Entry ν)) (key : String) (history : List (Entry ν)) : Prop :=
  BegunSince before key history ∨ UnderwaySince before key history

/-- All that is claimed can be traced to opens that began since the history was `before` or whose
connects were underway then, and so can what is open, as far as the template matches it. -/
structure Tracked (t : Template) (before : List (Entry ν)) (hub : Hub ε ν κ) : Prop where
  history : ∃ entries, hub.history = entries ++ before
  claims : ∀ key ∈ hub.bus.connections.pending, TracedTo before key hub.history
  opens : ∀ handle ∈ hub.bus.connections.opened, t.test handle.key = true →
    StoredAfter (TracedTo before handle.key) handle hub.history

variable {ε ν κ α : Type} {hub hub' s s' : Hub ε ν κ} {host : Host ε ν κ} {t : Template}
  {before older entries : List (Entry ν)}

-- ---------------------------------------------------------------------------
-- Going on with the history
-- ---------------------------------------------------------------------------

theorem flies_of_aside {entry : Entry ν} (h : entry.ofConnection = false) (key : String) :
    entry.flies key = false := by
  match entry with
  | .note _ => rfl
  | .event e => cases e <;> first | rfl | cases h

theorem TracedTo.append (h : TracedTo before key older) (entries : List (Entry ν))
    (quiet : ∀ entry ∈ entries, entry.flies key = false) :
    TracedTo before key (entries ++ older) := by
  have still : ∀ {during : List (Entry ν)}, (∀ entry ∈ during, entry.flies key = false) →
      ∀ entry ∈ entries ++ during, entry.flies key = false := fun hd entry he =>
    (List.mem_append.mp he).elim (quiet entry) (hd entry)
  rcases h with ⟨during, between, rfl, hd⟩ | ⟨hf, during, rfl, hd⟩
  · exact .inl ⟨entries ++ during, between, (List.append_assoc ..).symm, still hd⟩
  · exact .inr ⟨hf, entries ++ during, (List.append_assoc ..).symm, still hd⟩

theorem StoredAfter.append {tells : List (Entry ν) → Prop} (h : StoredAfter tells handle older)
    (entries : List (Entry ν)) : StoredAfter tells handle (entries ++ older) := by
  obtain ⟨later, count, oldest, ht, rfl⟩ := h
  exact ⟨entries ++ later, count, oldest, ht, (List.append_assoc ..).symm⟩

namespace Tracked

/-- What claims nothing and stores nothing leaves all as it was, but for claims that it gives up. -/
theorem later (h : Tracked t before hub) (entries : List (Entry ν))
    (history : hub'.history = entries ++ hub.history)
    (pending : ∀ key ∈ hub'.bus.connections.pending, key ∈ hub.bus.connections.pending ∧
      ∀ entry ∈ entries, entry.flies key = false)
    (opened : ∀ handle ∈ hub'.bus.connections.opened, handle ∈ hub.bus.connections.opened) :
    Tracked t before hub' := by
  obtain ⟨rest, hr⟩ := h.history
  constructor
  · exact ⟨entries ++ rest, by rw [history, hr, List.append_assoc]⟩
  · intro key hk
    obtain ⟨hk, quiet⟩ := pending key hk
    rw [history]
    exact (h.claims key hk).append entries quiet
  · intro handle hh ht
    rw [history]
    exact (h.opens handle (opened handle hh) ht).append entries

theorem claim (h : Tracked t before hub)
    (hr : hub.bus.connections.reserve key = some connections) :
    Tracked t before ((hub.withConnections connections).record (.openStarted key)) := by
  obtain ⟨-, hp, rfl⟩ := Connections.reserve_eq_some_iff.mp hr
  obtain ⟨rest, hrest⟩ := h.history
  constructor
  · exact ⟨_ :: rest, congrArg _ hrest⟩
  · intro other ho
    rcases List.mem_cons.mp ho with rfl | ho
    · exact .inl ⟨[], rest, congrArg _ hrest, by simp⟩
    · have apart : key ≠ other := fun he => hp (he ▸ ho)
      exact (h.claims other ho).append [_] (by simpa [Entry.flies] using apart)
  · intro handle hh ht
    exact (h.opens handle hh ht).append [_]

theorem store (h : Tracked t before hub) (ha : Accounted hub ({.connect key} + rest)) :
    Tracked t before (Bus.store (Bus.mint key hub).1 (Bus.mint key hub).2).2 := by
  obtain ⟨entries, he⟩ := h.history
  rw [Bus.store_mint ha.not_mem_keys,
    Connections.store_eq_none (h := (Bus.mint key hub).1) ha.not_mem_keys]
  constructor
  · exact ⟨_ :: _ :: entries, congrArg (fun older => _ :: _ :: older) he⟩
  · intro other ho
    obtain ⟨ho, different⟩ := List.mem_filter.mp ho
    have apart : key ≠ other := Ne.symm (of_decide_eq_true different)
    exact (h.claims other ho).append [_, _] (by simpa [Entry.flies, Bus.mint] using apart)
  · intro handle hh ht
    rcases Connections.mem_insertSorted.mp hh with rfl | hh
    · exact ⟨[], _, hub.history, h.claims key ha.mem_pending, rfl⟩
    · exact (h.opens handle hh ht).append [_, _]

theorem abandon (h : Tracked t before hub) (refusal : TransportFailure) :
    Tracked t before (Bus.abandon key refusal hub) := by
  refine h.later [_] rfl (fun other ho => ?_) fun _ => id
  obtain ⟨ho, different⟩ := List.mem_filter.mp ho
  have apart : key ≠ other := Ne.symm (of_decide_eq_true different)
  exact ⟨ho, by simpa [Entry.flies] using apart⟩

/-- Every deal of one task keeps track, as all that is held is accounted for. -/
theorem deals (h : Accounted hub held ∧ Tracked t before hub)
    (hd : Deals Deal hub hub' held held') : Accounted hub' held' ∧ Tracked t before hub' := by
  obtain ⟨ha, h⟩ := h
  refine ⟨ha.deals hd, ?_⟩
  obtain ⟨taken, given, rest, rfl, rfl, hd⟩ := hd
  cases hd with
  | aside aside =>
    obtain ⟨entries, he, hc⟩ := aside.history
    refine h.later entries he (fun key hk => ?_) fun handle hh => aside.connections ▸ hh
    exact ⟨aside.connections ▸ hk, fun entry hm => flies_of_aside (hc entry hm) key⟩
  | claim hr => exact h.claim hr
  | store => exact h.store ha
  | giveBack back =>
    -- The key is claimed, so it is not open and nothing is given back.
    rw [Bus.store_mint ha.not_mem_keys] at back
    cases back
  | abandon => exact h.abandon _
  | withdraw hw =>
    cases hw
    refine h.later [_] rfl (fun key hk => ⟨hk, by simp [Entry.flies]⟩) fun handle hh => ?_
    exact (List.mem_filter.mp hh).1
  | disconnect | closed =>
    exact h.later [_] rfl (fun key hk => ⟨hk, by simp [Entry.flies]⟩) fun _ => id

end Tracked

-- ---------------------------------------------------------------------------
-- Behind a close
-- ---------------------------------------------------------------------------

/-- A close that does not keep the connections leaves none open that its template matches. -/
theorem Bus.tracked_withdraw {target : Target} (ha : Accounted hub held)
    (unkept : target.complete = false ∨ hub.bus.connections.isConnected target.uri = false) :
    Tracked t (Bus.withdraw t target hub).2.history (Bus.withdraw t target hub).2 := by
  have taken : Bus.withdraw t target hub = ((hub.bus.connections.takeMatching t).1,
      (hub.withConnections (hub.bus.connections.takeMatching t).2).record
        (.withdrawn (hub.bus.connections.takeMatching t).1)) := by
    unfold Bus.withdraw
    rw [if_neg]
    rcases unkept with h | h <;> simp [h]
  rw [taken]
  constructor
  · exact ⟨[], rfl⟩
  · intro key hk
    exact .inr ⟨ha.started.mem_iff.mpr hk, [], rfl, by simp⟩
  · intro handle hh ht
    have untaken := (Connections.mem_keys_takeMatching.mp (List.mem_map_of_mem hh)).2
    exact absurd ht (by simp [untaken])

theorem Call.close_eq (parsed : Template.parse text = .ok t) (host : Host ε ν κ)
    (args : List String) :
    ∃ next, (Call.closeStreams text args).task host =
      .act (fun hub => (Bus.withdraw t (t.resolve args) hub).2) next := by
  rw [Call.task, Bus.closeStreams, parsed]
  exact ⟨_, rfl⟩

/-- Of what the template of a close matches, only that is open later whose open began after the
close, or whose connect was in flight when the close began. -/
theorem close_outrun_only_in_flight (lawful : host.Lawful) (calls : List Call) (idle : Idle hub)
    {tasks : List (Task (Hub ε ν κ) Call.Result)} {earlier later : List (Nat × Hub ε ν κ × Hub ε ν κ)}
    (h : Trace (calls.map (Call.task host)) hub (earlier ++ (i, s, s') :: later) tasks hub')
    (call : calls[i]? = some (.closeStreams text args)) (begins : own i earlier = [])
    (parsed : Template.parse text = .ok t)
    (unkept : (t.resolve args).complete = false ∨
      s.bus.connections.isConnected (t.resolve args).uri = false) :
    ∀ handle ∈ hub'.bus.connections.opened, t.test handle.key = true →
      StoredAfter (TracedTo s'.history handle.key) handle hub'.history := by
  have clients := Call.clients lawful calls
  -- The first step of the close is the one that takes out what it matches.
  have withdrawn : s' = (Bus.withdraw t (t.resolve args) s).2 := by
    obtain ⟨next, he⟩ := Call.close_eq parsed host args
    have begun : (calls.map (Call.task host))[i]? =
        some ((Call.closeStreams text args).task host) := by
      simp [call]
    obtain ⟨_, -, walks⟩ := h.walks begun
    rw [Task.own_append, begins, Task.own_cons_self, he] at walks
    cases walks
    rfl
  obtain ⟨mid, m, hearlier, hrest⟩ := h.split
  obtain ⟨rfl, mid', taking, hlater⟩ := hrest.first
  obtain ⟨shares, hm, atClose⟩ := accounted_of_reaches clients idle hearlier.reaches
  obtain ⟨shares', hm', behind⟩ := taking.settles (fun hd ha => Accounted.deals ha hd) hm atClose
  have tracked : Tracked t s'.history s' := withdrawn ▸ Bus.tracked_withdraw atClose unkept
  obtain ⟨-, -, -, ended⟩ := hlater.reaches.settles (fun hd kept => Tracked.deals kept hd) hm'
    ⟨behind, tracked⟩
  exact ended.opens

def opener : Call := .openStream "s/:x" ["a"]

def closer : Call := .closeStreams "s/:x" []

def connecting : Rehearsal.Staging := ((opener.task Rehearsal.host).turn slow).2

def passed : Rehearsal.Staging := ((closer.task Rehearsal.host).run connecting).2

def outrun : Rehearsal.Staging := (((opener.task Rehearsal.host).turn slow).1.run passed).2

def sweeps : Rehearsal.Staging := (Bus.withdraw oneSegment (oneSegment.resolve []) connecting).2

theorem trace_outrun :
    ∃ earlier later : List (Nat × Rehearsal.Staging × Rehearsal.Staging),
      Trace ([opener, closer].map (Call.task Rehearsal.host)) slow
        (earlier ++ (1, connecting, sweeps) :: later)
        [.done (.opened (.ok true)), .done (.closed (.ok []))] outrun ∧ own 1 earlier = [] := by
  have parsed : Template.parse "s/:x" = .ok oneSegment := by cbv
  have opened : (((opener.task Rehearsal.host).turn slow).1.run passed).1 = .opened (.ok true) := by
    cbv
  have closed : ((closer.task Rehearsal.host).run connecting).1 = .closed (.ok []) := by cbv
  have first : [opener.task Rehearsal.host, closer.task Rehearsal.host][0]? =
      some (opener.task Rehearsal.host) := rfl
  obtain ⟨before, hbefore⟩ := Task.trace_turn first slow
  obtain ⟨next, he⟩ := Call.close_eq parsed Rehearsal.host []
  have second : [((opener.task Rehearsal.host).turn slow).1, next connecting][1]? =
      some (next connecting) := rfl
  obtain ⟨during, hduring⟩ := Task.trace_run second sweeps
  have third : [((opener.task Rehearsal.host).turn slow).1, .done (.closed (.ok []))][0]? =
      some ((opener.task Rehearsal.host).turn slow).1 := rfl
  obtain ⟨after, hafter⟩ := Task.trace_run third passed
  have rest : (next connecting).run sweeps = (.closed (.ok []), passed) := by
    have whole : (closer.task Rehearsal.host).run connecting = (next connecting).run sweeps := by
      rw [closer, he]
      rfl
    rw [← whole, ← closed]
    rfl
  rw [rest] at hduring
  rw [opened] at hafter
  have begins : [((opener.task Rehearsal.host).turn slow).1, closer.task Rehearsal.host][1]? =
      some (.act (fun hub => (Bus.withdraw oneSegment (oneSegment.resolve []) hub).2) next) :=
    congrArg some he
  have behind : Trace [((opener.task Rehearsal.host).turn slow).1, closer.task Rehearsal.host]
      connecting ((1, connecting, sweeps) :: (during.map (1, ·) ++ after.map (0, ·)))
      [.done (.opened (.ok true)), .done (.closed (.ok []))] outrun :=
    .act begins (hduring.trans hafter)
  exact ⟨before.map (0, ·), _, hbefore.trans behind, by simp [own]⟩

theorem close_outrun_only_in_flight_sweeping :
    outrun.bus.connections.opened = [⟨"s/a", 0⟩] ∧
      StoredAfter (TracedTo sweeps.history "s/a") ⟨"s/a", 0⟩ outrun.history := by
  have parsed : Template.parse "s/:x" = .ok oneSegment := by cbv
  have opened : outrun.bus.connections.opened = [⟨"s/a", 0⟩] := by cbv
  obtain ⟨earlier, later, h, begins⟩ := trace_outrun
  refine ⟨opened, ?_⟩
  exact close_outrun_only_in_flight Rehearsal.host_lawful [opener, closer] (idle_new ..) h rfl begins
    parsed (.inl (by decide)) ⟨"s/a", 0⟩ (by simp [opened]) (by decide)

def Entry.starts : Entry ν → Bool
  | .event (.openStarted _) => true
  | _ => false

/-- A close leaves no time for what is in flight: an open that began before it may outrun it. -/
theorem close_outrun :
    ¬ ∀ (calls : List Call) (hub hub' s s' : Rehearsal.Staging)
        (tasks : List (Task Rehearsal.Staging Call.Result))
        (earlier later : List (Nat × Rehearsal.Staging × Rehearsal.Staging)) (i : Nat)
        (text : String) (args : List String) (t : Template), Idle hub →
      Trace (calls.map (Call.task Rehearsal.host)) hub (earlier ++ (i, s, s') :: later) tasks hub' →
      (∀ t ∈ tasks, ∃ result, t = .done result) → calls[i]? = some (.closeStreams text args) →
      own i earlier = [] → Template.parse text = .ok t →
      ((t.resolve args).complete = false ∨
        s.bus.connections.isConnected (t.resolve args).uri = false) →
        ∀ handle ∈ hub'.bus.connections.opened, t.test handle.key = true →
          StoredAfter (BegunSince s'.history handle.key) handle hub'.history := by
  intro claim
  have parsed : Template.parse "s/:x" = .ok oneSegment := by cbv
  have opened : outrun.bus.connections.opened = [⟨"s/a", 0⟩] := by cbv
  obtain ⟨earlier, later, h, begins⟩ := trace_outrun
  obtain ⟨last, count, older, ⟨during, between, rfl, -⟩, he⟩ := claim [opener, closer] slow outrun
    _ _ _ earlier later 1 "s/:x" [] oneSegment (idle_new ..) h (by simp) rfl begins parsed
    (.inl (by decide)) ⟨"s/a", 0⟩ (by simp [opened]) (by decide)
  -- One connect was started before the close, and there is no other.
  have once : outrun.history.countP Entry.starts = 1 := by cbv
  have before : sweeps.history.countP Entry.starts = 1 := by cbv
  rw [he] at once
  simp only [List.countP_append, List.countP_cons, before, Entry.starts, ↓reduceIte] at once
  omega

end RouteBus
