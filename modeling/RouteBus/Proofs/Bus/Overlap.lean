import RouteBus.Proofs.Bus.Custody

/-!
# Connections that overlap

A connection is alive until its disconnect has ended. A close takes it out of the table
before that, so its key may be opened again meanwhile and two connections of one key be
alive. What is alive is what the table has and what the closes have still in hand.
-/

namespace RouteBus

open RouteBus.Task (Settles Reaches)

/-- Connections that were made and whose disconnect has not ended, the latest first. -/
def alive (history : List (Entry ν)) : List Handle :=
  (made history).filter (· ∉ closeds history)

def outside (held : Multiset Errand) : Multiset Handle := inHand .waiting held + inHand .leaving held

theorem outside_sum (shares : List (Multiset Errand)) :
    (shares.map outside).sum = outside shares.sum := by
  refine Task.sum_map_of_add rfl (fun held extra => ?_) shares
  rw [outside, outside, outside, inHand_add, inHand_add]
  ac_rfl

variable {ε ν κ α : Type} {hub hub' : Hub ε ν κ} {host : Host ε ν κ}

theorem Balanced.alive (hb : Balanced hub held) :
    (alive hub.history : Multiset Handle) = hub.bus.connections.opened + outside held := by
  have parts : (made hub.history : Multiset Handle) =
      (hub.bus.connections.opened + outside held) + closeds hub.history := by
    rw [hb.places, hb.underway, outside]
    ac_rfl
  have apart : Disjoint (hub.bus.connections.opened + outside held)
      (closeds hub.history : Multiset Handle) := by
    have := Multiset.coe_nodup.mpr hb.once
    rw [parts, Multiset.nodup_add] at this
    exact this.2.2
  rw [RouteBus.alive, ← Multiset.filter_coe, parts, Multiset.filter_add]
  rw [Multiset.filter_eq_self.mpr, Multiset.filter_eq_nil.mpr, add_zero]
  · intro handle hm
    simpa using hm
  · intro handle hm hc
    exact Multiset.disjoint_left.mp apart hm (by simpa using hc)

/-- Whatever is alive twice on one key is so through a close that is under way: the table
has each key once, and everything else that is alive was taken out of it and is in the hands
of the tasks that took it. -/
theorem alive_in_table_or_in_hand (lawful : host.Lawful) (calls : List Call)
    (start : Unconnected hub) {tasks : List (Task (Hub ε ν κ) Call.Result)}
    (h : Reaches (calls.map (Call.task host)) hub tasks hub') :
    ∃ shares : List (Multiset Errand), List.Forall₂ (Settles Handling) shares tasks ∧
      (alive hub'.history : Multiset Handle) =
        hub'.bus.connections.opened + (shares.map outside).sum ∧
      hub'.bus.connections.keys.Nodup ∧
      ((∀ share ∈ shares, outside share = 0) → ((alive hub'.history).map Handle.key).Nodup) := by
  obtain ⟨shares, hs, hb⟩ := start.balanced_of_calls lawful calls h
  have places : (alive hub'.history : Multiset Handle) =
      hub'.bus.connections.opened + (shares.map outside).sum := by
    rw [outside_sum]
    exact hb.alive
  refine ⟨shares, hs, places, hb.single, fun none_outside => ?_⟩
  have nothing : (shares.map outside).sum = 0 := by
    refine List.sum_eq_zero fun held hm => ?_
    obtain ⟨share, hshare, rfl⟩ := List.mem_map.mp hm
    exact none_outside share hshare
  rw [nothing, add_zero, Multiset.coe_eq_coe] at places
  exact ((places.map Handle.key).nodup_iff).mpr hb.single

/-- A key is opened while its last connection is still being closed: both are alive. -/
theorem alive_keys_repeat :
    ¬ ∀ (calls : List Call) tasks hub,
      Reaches (calls.map (Call.task lingering)) fresh tasks hub →
        ((alive hub.history).map Handle.key).Nodup := by
  intro claim
  have twice : (alive (opening.run swept).2.history).map Handle.key = ["s/a", "s/a"] := by cbv
  have once := claim [.openStream "s/a" [], .closeStreams "s/:x" [], .openStream "s/a" []] _ _
    (reaches_reopened [])
  rw [twice] at once
  simp at once

end RouteBus
