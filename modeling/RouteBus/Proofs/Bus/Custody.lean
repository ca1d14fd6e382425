import Mathlib
import RouteBus.Proofs.Bus.Answers
import RouteBus.Proofs.Bus.Ledger

/-!
# No connection is lost

Opens and closes in any order, while connects and disconnects are suspended: each
connection that was made is in the table, waits in the hands of one task that took it
out, or its disconnect was begun, and no disconnect is begun twice.
-/

namespace RouteBus

open RouteBus.Task (Settles Moves Reaches Trace own)

variable {ε ν κ α : Type} {hub hub' : Hub ε ν κ} {host : Host ε ν κ}

/-- Where calls have got to. A connection that was made is in the table, was taken out of it
and waits in the hands of one task, or its disconnect was begun: once, and by one task. -/
structure Custody (tasks : List (Task (Hub ε ν κ) α)) (hub : Hub ε ν κ) : Prop where
  hands : ∃ shares : List (Multiset Errand), List.Forall₂ (Settles Handling) shares tasks ∧
    (shares.map fun share => claimed (duties share)).sum = hub.bus.connections.pending ∧
    (made hub.history : Multiset Handle) =
      hub.bus.connections.opened + (shares.map (inHand .waiting)).sum + closings hub.history ∧
    (closings hub.history : Multiset Handle) =
      (shares.map (inHand .leaving)).sum + closeds hub.history
  made : (made hub.history).Nodup
  closings : (closings hub.history).Nodup
  keys : hub.bus.connections.keys.Nodup
  alternate : ∀ key, Alternating (turns key hub.history)
  present : ∀ key, (turns key hub.history).head? = some .stored ↔ key ∈ hub.bus.connections.keys
  stores : ∀ {tasks' hub' entries}, Moves tasks hub tasks' hub' →
    hub'.history = entries ++ hub.history → ∀ handle, .event (.connected handle) ∈ entries →
      handle ∈ hub'.bus.connections.opened
  ended : (∀ t ∈ tasks, ∃ value, t = .done value) → ∀ key,
    ((RouteBus.made hub.history).map Handle.key).count key =
      ((closeds hub.history).map Handle.key).count key +
        if key ∈ hub.bus.connections.keys then 1 else 0

theorem Balanced.custody {tasks : List (Task (Hub ε ν κ) α)} {shares : List (Multiset Errand)}
    (hb : Balanced hub shares.sum) (hs : List.Forall₂ (Settles Handling) shares tasks) :
    Custody tasks hub where
  hands := by
    refine ⟨shares, hs, ?_, ?_, ?_⟩
    · rw [claims_sum]
      exact hb.accounted.claims
    · rw [inHand_sum]
      exact hb.places
    · rw [inHand_sum]
      exact hb.underway
  made := hb.once
  closings := by
    have closed_made : (closings hub.history : Multiset Handle) ≤ made hub.history := by
      rw [hb.places]
      exact Multiset.le_add_left _ _
    exact Multiset.coe_nodup.mp (Multiset.nodup_of_le closed_made (Multiset.coe_nodup.mpr hb.once))
  keys := hb.single
  alternate := hb.alternate
  present := hb.present
  stores hm he handle hh := by
    obtain ⟨shares', -, hd⟩ := hm.settles hs
    have dealt := hd.imp (fun h => h.translate duties_add fun _ _ _ _ h => h.deal) And.left
    exact ((hb.accounted.news dealt he).2 handle hh).2
  ended hd key := by
    rw [Task.sum_eq_zero_of_done (fun _ _ h => h) hs hd] at hb
    exact hb.settled key

/-- Whatever calls open and close connections, in whatever order they go on, and whatever
transport and listeners do as clients of the hub: no connection is lost, none is closed
twice, and a call has answered what its own steps in the run have done. -/
theorem calls_keep_custody (lawful : host.Lawful) (calls : List Call) (start : Unconnected hub)
    {tasks : List (Task (Hub ε ν κ) Call.Result)} {trace : List (Nat × Hub ε ν κ × Hub ε ν κ)}
    (h : Trace (calls.map (Call.task host)) hub trace tasks hub') :
    Custody tasks hub' ∧ ∀ (i : Nat) (call : Call), calls[i]? = some call →
      ∃ t, tasks[i]? = some t ∧ call.Did host (own i trace) t.value? := by
  constructor
  · obtain ⟨shares, hs, hb⟩ := start.balanced_of_calls lawful calls h.reaches
    exact hb.custody hs
  · intro i call called
    exact Call.did_of_trace lawful calls start.idle h called

def lingering : Host Rehearsal.Scene Rehearsal.Note Rehearsal.Device :=
  { Rehearsal.host with disconnect := fun handle => .yield (Rehearsal.disconnect handle) }

theorem lingering_lawful : lingering.Lawful :=
  { Rehearsal.host_lawful with
    disconnect := fun handle => .yield (Rehearsal.host_lawful.disconnect handle) }

def opening : Task Rehearsal.Staging Call.Result :=
  (Call.openStream "s/a" []).task lingering

def sweeping : Task Rehearsal.Staging Call.Result :=
  (Call.closeStreams "s/:x" []).task lingering

def fresh : Rehearsal.Staging := .new "bus" "/" .new

def swept : Rehearsal.Staging := (sweeping.turn (opening.run fresh).2).2

/-- The key may be opened again before the close goes on. -/
theorem reaches_reopened (rest : List (Task Rehearsal.Staging Call.Result)) :
    Reaches (opening :: sweeping :: opening :: rest) fresh
      (.done (.opened (.ok true)) :: (sweeping.turn (opening.run fresh).2).1 ::
        .done (.opened (.ok true)) :: rest) (opening.run swept).2 := by
  have opened := Reaches.run opening (sweeping :: opening :: rest) fresh
  have closing := opened.trans (Reaches.turn sweeping (opening :: rest) _).later
  have reopened := closing.trans (Reaches.run opening rest swept).later.later
  have first : (opening.run fresh).1 = .opened (.ok true) := by cbv
  have second : (opening.run swept).1 = .opened (.ok true) := by cbv
  rwa [first, second] at reopened

/-- A second connection of the key is made while the first is being closed, and closed by
a second close meanwhile. -/
theorem custody_sweeping :
    ∃ trace first second hub,
      Trace [opening, sweeping, opening, sweeping] fresh trace
        [.done (.opened (.ok true)), first, .done (.opened (.ok true)), second] hub ∧
      closings hub.history = [⟨"s/a", 1⟩, ⟨"s/a", 0⟩] ∧
      turns "s/a" hub.history = [.taken, .stored, .taken, .stored] ∧
      Alternating (turns "s/a" hub.history) ∧
      (Call.closeStreams "s/:x" []).Did lingering (own 1 trace) none ∧
      (Call.openStream "s/a" []).Did lingering (own 2 trace) (some (.opened (.ok true))) := by
  have reclosed := (reaches_reopened [sweeping]).trans
    (Reaches.turn sweeping [] (opening.run swept).2).later.later.later
  obtain ⟨trace, h⟩ := reclosed.exists_trace
  have twice : closings (sweeping.turn (opening.run swept).2).2.history =
      [⟨"s/a", 1⟩, ⟨"s/a", 0⟩] := by cbv
  have changes : turns "s/a" (sweeping.turn (opening.run swept).2).2.history =
      [.taken, .stored, .taken, .stored] := by cbv
  have lingers : (sweeping.turn (opening.run fresh).2).1.value? = none := by cbv
  obtain ⟨kept, did⟩ := calls_keep_custody lingering_lawful
    [.openStream "s/a" [], .closeStreams "s/:x" [], .openStream "s/a" [], .closeStreams "s/:x" []]
    (unconnected_new ..) h
  obtain ⟨_, closing, closes⟩ := did 1 _ rfl
  obtain rfl := Option.some.inj closing
  rw [lingers] at closes
  obtain ⟨_, opened, opens⟩ := did 2 _ rfl
  obtain rfl := Option.some.inj opened
  exact ⟨trace, _, _, _, h, twice, changes, kept.alternate "s/a", closes, opens⟩

end RouteBus
