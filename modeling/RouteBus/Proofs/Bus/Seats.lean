import Mathlib.Data.List.Nodup
import RouteBus.Proofs.Bus.Topics
import RouteBus.Proofs.Template.Extraction

/-!
# The seat of a listener

A listener that has registered once is in the group of its template once, and in no other
group. Other registrations leave it there, and so do lookups until one that picks the group
finds it closed.
-/

namespace RouteBus.Topics

/-- The listener is `n` times in the group written `text`, and in no other group. -/
structure Seated (text : String) (l : Listener) (n : Nat) (groups : List Group) : Prop where
  once : (groups.map (·.template.raw)).Nodup
  there : text ∈ groups.map (·.template.raw)
  count : ∀ g ∈ groups, g.listeners.count l = if g.template.raw = text then n else 0

def members (groups : List Group) : List Listener := groups.flatMap (·.listeners)

variable {groups groups' before after : List Group} {g g' : Group} {l other : Listener} {n k : Nat}

-- ---------------------------------------------------------------------------
-- Names and members
-- ---------------------------------------------------------------------------

theorem once_subscribe (once : (groups.map (·.template.raw)).Nodup)
    (hs : subscribe groups text l = .ok (groups', joining)) :
    (groups'.map (·.template.raw)).Nodup := by
  rcases subscribe_eq_ok hs with ⟨before, g, after, rfl, rfl, rfl⟩ | ⟨new, t, hp, rfl⟩
  · simpa [Group.joinedBy] using once
  · rw [List.map_append, List.nodup_append_comm]
    refine List.nodup_cons.mpr ⟨?_, once⟩
    rwa [← Template.raw_of_parse hp] at new

theorem mem_members_subscribe (hs : subscribe groups text l = .ok (groups', joining))
    (hm : other ∈ members groups') : other = l ∨ other ∈ members groups := by
  rcases subscribe_eq_ok hs with ⟨before, g, after, rfl, rfl, rfl⟩ | ⟨-, t, -, rfl⟩
  · simp only [members, List.flatMap_append, List.flatMap_cons, Group.joinedBy,
      List.mem_append, List.mem_singleton] at hm ⊢
    grind
  · simpa [members, or_comm] using hm

theorem mem_members_pruned (hm : other ∈ members (before ++ g.pruned closed :: after)) :
    other ∈ members (before ++ g :: after) := by
  simp only [members, List.flatMap_append, List.flatMap_cons, Group.pruned, List.mem_append,
    Group.mem_live] at hm ⊢
  grind

-- ---------------------------------------------------------------------------
-- Coming, staying and going
-- ---------------------------------------------------------------------------

namespace Seated

/-- One group is changed. If it is another one, nothing changes for the listener. -/
theorem replace (h : Seated text l n (before ++ g :: after)) (ht : g'.template = g.template)
    (hc : g'.listeners.count l = if g.template.raw = text then k else 0)
    (hn : g.template.raw ≠ text → k = n) : Seated text l k (before ++ g' :: after) := by
  obtain ⟨once, there, count⟩ := h
  have raw : (before ++ g' :: after).map (·.template.raw) =
      (before ++ g :: after).map (·.template.raw) := by simp [ht]
  refine ⟨raw ▸ once, raw ▸ there, fun x hx => ?_⟩
  rw [List.map_append, List.map_cons, List.nodup_middle, List.nodup_cons, ← List.map_append] at once
  have others : ∀ x ∈ before ++ after,
      x.listeners.count l = if x.template.raw = text then k else 0 := by
    intro x hx
    have counted := count x (by grind)
    by_cases hg : g.template.raw = text
    · have apart : x.template.raw ≠ text := fun he =>
        once.1 (List.mem_map.mpr ⟨x, hx, he.trans hg.symm⟩)
      rw [counted, if_neg apart, if_neg apart]
    · rw [counted, hn hg]
  rcases List.mem_append.mp hx with hx | hx
  · exact others x (List.mem_append_left _ hx)
  rcases List.mem_cons.mp hx with rfl | hx
  · rw [hc, ht]
  · exact others x (List.mem_append_right _ hx)

theorem subscribe (h : Seated text l n groups) (hne : other ≠ l)
    (hs : Topics.subscribe groups written other = .ok (groups', joining)) :
    Seated text l n groups' := by
  rcases subscribe_eq_ok hs with ⟨before, g, after, rfl, rfl, rfl⟩ | ⟨new, t, hp, rfl⟩
  · refine h.replace rfl ?_ fun _ => rfl
    rw [← h.count g (by simp)]
    simp [Group.joinedBy, hne]
  · refine ⟨once_subscribe h.once hs, ?_, ?_⟩
    · rw [List.map_append]
      exact List.mem_append_left _ h.there
    · intro x hx
      rcases List.mem_append.mp hx with hx | hx
      · exact h.count x hx
      · obtain rfl := List.mem_singleton.mp hx
        have apart : t.raw ≠ text := by
          rintro rfl
          rw [Template.raw_of_parse hp] at h
          exact new h.there
        simp [apart, hne]

/-- A listener that is in no group comes into one. -/
theorem of_subscribe (once : (groups.map (·.template.raw)).Nodup) (fresh : l ∉ members groups)
    (hs : Topics.subscribe groups text l = .ok (groups', joining)) : Seated text l 1 groups' := by
  have absent : ∀ g ∈ groups, g.listeners.count l = 0 := fun g hg =>
    List.count_eq_zero.mpr fun hl => fresh (List.mem_flatMap.mpr ⟨g, hg, hl⟩)
  rcases subscribe_eq_ok hs with ⟨before, g, after, rfl, rfl, rfl⟩ | ⟨new, t, hp, rfl⟩
  · have seat : Seated g.template.raw l 0 (before ++ g :: after) :=
      ⟨once, by simp, fun x hx => by simp [absent x hx]⟩
    refine seat.replace rfl ?_ fun h => absurd rfl h
    simp [Group.joinedBy, absent g (by simp)]
  · have raw : t.raw = text := Template.raw_of_parse hp
    refine ⟨once_subscribe once hs, by simp [raw], fun x hx => ?_⟩
    rcases List.mem_append.mp hx with hx | hx
    · have apart : x.template.raw ≠ text := fun he => new (List.mem_map.mpr ⟨x, hx, he⟩)
      rw [absent x hx, if_neg apart]
    · obtain rfl := List.mem_singleton.mp hx
      simp [raw]

/-- A lookup takes a closed listener out of the group that it picks. -/
theorem pruned (h : Seated text l n (before ++ g :: after)) (closed : Listener → Bool) :
    Seated text l (if decide (g.template.raw = text) && closed l then 0 else n)
      (before ++ g.pruned closed :: after) := by
  refine h.replace rfl ?_ fun hg => by simp [hg]
  have counted := h.count g (by simp)
  cases hl : closed l with
  | true =>
    have gone : (g.live closed).count l = 0 := List.count_eq_zero.mpr (by simp [hl])
    simp +contextual [Group.pruned, gone]
  | false =>
    have kept : (g.live closed).count l = g.listeners.count l := List.count_filter (by simp [hl])
    simpa [Group.pruned, kept] using counted

end Seated

end RouteBus.Topics
