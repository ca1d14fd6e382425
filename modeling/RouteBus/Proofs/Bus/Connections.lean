import Mathlib.Data.String.Basic
import RouteBus.Bus.Connections
import RouteBus.Proofs.Template.Targets

/-!
# Laws of the connection table
-/

namespace RouteBus.Connections

theorem reserve_eq_some_iff {c : Connections} :
    c.reserve key = some c' ↔
      key ∉ c.keys ∧ key ∉ c.pending ∧ c' = { c with pending := key :: c.pending } := by
  unfold reserve
  split
  · rename_i h
    simp only [reduceCtorEq, false_iff, not_and]
    intro hk hp
    exact absurd h (by simp [hk, hp])
  · rename_i h
    simp only [not_or] at h
    simp [h, eq_comm]

@[simp] theorem keys_release (c : Connections) (key : String) : (c.release key).keys = c.keys := rfl

theorem pending_release {c : Connections} (h : c.pending.Nodup) (key : String) :
    (c.release key).pending = c.pending.erase key := by
  rw [h.erase_eq_filter]
  refine List.filter_congr fun x _ => ?_
  by_cases hx : x = key <;> simp [hx]

theorem insertSorted_perm (h : Handle) (hs : List Handle) : (insertSorted h hs).Perm (h :: hs) := by
  induction hs with
  | nil => exact .refl _
  | cons x xs ih =>
    unfold insertSorted
    split
    · exact .refl _
    · exact (ih.cons x).trans (.swap h x xs)

theorem mem_insertSorted {h x : Handle} {hs : List Handle} :
    x ∈ insertSorted h hs ↔ x = h ∨ x ∈ hs :=
  (insertSorted_perm h hs).mem_iff.trans List.mem_cons

theorem length_insertSorted (h : Handle) (hs : List Handle) :
    (insertSorted h hs).length = hs.length + 1 :=
  (insertSorted_perm h hs).length_eq

theorem pairwise_insertSorted {h : Handle} {hs : List Handle} (hk : h.key ∉ hs.map Handle.key)
    (sorted : (hs.map Handle.key).Pairwise (· < ·)) :
    ((insertSorted h hs).map Handle.key).Pairwise (· < ·) := by
  induction hs with
  | nil => exact .cons (by simp) .nil
  | cons x xs ih =>
    obtain ⟨hx, hxs⟩ := List.pairwise_cons.mp sorted
    obtain ⟨hne, hk⟩ := not_or.mp fun he => hk (List.mem_cons.mpr he)
    unfold insertSorted
    split
    · rename_i hlt
      refine .cons (fun key hm => ?_) sorted
      rcases List.mem_cons.mp hm with rfl | hm
      · exact hlt
      · exact hlt.trans (hx key hm)
    · rename_i hlt
      refine .cons (fun key hm => ?_) (ih hk hxs)
      obtain ⟨y, hy, rfl⟩ := List.mem_map.mp hm
      rcases mem_insertSorted.mp hy with rfl | hy
      · exact lt_of_le_of_ne (not_lt.mp hlt) (Ne.symm hne)
      · exact hx y.key (List.mem_map_of_mem hy)

theorem store_eq_none {c : Connections} {h : Handle} (hk : h.key ∉ c.keys) :
    c.store h = ({ c.release h.key with opened := insertSorted h c.opened }, none) := by
  unfold store
  dsimp only
  rw [keys_release, if_neg hk]
  rfl

theorem mem_keys_store {c : Connections} {h : Handle} (hk : h.key ∉ c.keys) :
    key ∈ (c.store h).1.keys ↔ key = h.key ∨ key ∈ c.keys := by
  simp only [store_eq_none hk, keys, List.mem_map, mem_insertSorted]
  constructor
  · rintro ⟨x, rfl | hx, rfl⟩
    · exact .inl rfl
    · exact .inr ⟨x, hx, rfl⟩
  · rintro (rfl | ⟨x, hx, rfl⟩)
    · exact ⟨h, .inl rfl, rfl⟩
    · exact ⟨x, .inr hx, rfl⟩

theorem mem_keys_taken {c : Connections} {template : Template} :
    key ∈ (c.takeMatching template).1.map Handle.key ↔ key ∈ c.keys ∧ template.test key = true := by
  simp only [takeMatching, keys, List.mem_map, List.mem_filter]
  constructor
  · rintro ⟨h, ⟨hm, ht⟩, rfl⟩
    exact ⟨⟨h, hm, rfl⟩, ht⟩
  · rintro ⟨⟨h, hm, rfl⟩, ht⟩
    exact ⟨h, ⟨hm, ht⟩, rfl⟩

theorem mem_keys_takeMatching {c : Connections} {template : Template} :
    key ∈ (c.takeMatching template).2.keys ↔ key ∈ c.keys ∧ template.test key = false := by
  simp only [takeMatching, keys, List.mem_map, List.mem_filter, Bool.not_eq_eq_eq_not, Bool.not_true]
  constructor
  · rintro ⟨h, ⟨hm, ht⟩, rfl⟩
    exact ⟨⟨h, hm, rfl⟩, ht⟩
  · rintro ⟨⟨h, hm, rfl⟩, ht⟩
    exact ⟨h, ⟨hm, ht⟩, rfl⟩

theorem takeMatching_perm (c : Connections) (template : Template) :
    List.Perm ((c.takeMatching template).1 ++ (c.takeMatching template).2.opened) c.opened := by
  unfold takeMatching
  exact List.filter_append_perm _ _

/-- No two handles of a table have one key. -/
theorem filter_key {hs : List Handle} (nodup : (hs.map Handle.key).Nodup) (key : String) :
    key ∉ hs.map Handle.key ∧ hs.filter (·.key = key) = [] ∨
      key ∈ hs.map Handle.key ∧ ∃ h, hs.filter (·.key = key) = [h] := by
  induction hs with
  | nil => exact .inl ⟨by simp, rfl⟩
  | cons x xs ih =>
    obtain ⟨hx, hxs⟩ := List.nodup_cons.mp nodup
    by_cases he : x.key = key
    · subst he
      have hn : xs.filter (·.key = x.key) = [] := by
        rw [List.filter_eq_nil_iff]
        intro y hy
        simpa using fun h : y.key = x.key => hx (List.mem_map.mpr ⟨y, hy, h⟩)
      exact .inr ⟨by simp, x, by simp [hn]⟩
    · simpa [he, Ne.symm he] using ih hxs

-- ---------------------------------------------------------------------------
-- What is looked for
-- ---------------------------------------------------------------------------

/-- The key is matched by the target, or is the target if that is no template. -/
def Covers (target key : String) : Prop :=
  match Template.parse target with
  | .ok template => template.test key = true
  | .error _ => key = target

theorem covers_self (key : String) : Covers key key := by
  unfold Covers
  split
  · exact Template.test_self ‹_›
  · rfl

/-- A target covers more than itself only where it has a marker. -/
theorem Covers.eq_or_marked (h : Covers target key) :
    key = target ∨ ∃ template, Template.parse target = .ok template ∧ 0 < template.markerCount ∧
      template.test key = true := by
  unfold Covers at h
  split at h
  · rename_i template parsed
    by_cases unmarked : template.markerCount = 0
    · exact .inl (Template.test_unmarked parsed unmarked h)
    · exact .inr ⟨template, parsed, Nat.pos_of_ne_zero unmarked, h⟩
  · exact .inl h

theorem isConnected_iff {c : Connections} :
    c.isConnected target = true ↔ ∃ key ∈ c.keys ++ c.pending, Covers target key := by
  unfold isConnected Covers
  cases Template.parse target with
  | ok template => exact List.any_eq_true
  | error e => simp only [List.any_eq_true, beq_iff_eq]

end RouteBus.Connections
