import Mathlib.Data.String.Basic
import RouteBus.Json.Basic

/-!
# Members of objects

Storing a member changes what is found under its key and nothing else, and it keeps the members
in order.
-/

namespace RouteBus

variable {α : Type} {key : String} {value : α} {entry : String × α} {entries : List (String × α)}

@[simp] theorem member?_cons (first : String × α) (rest : List (String × α)) (key : String) :
    member? (first :: rest) key = if first.1 = key then some first.2 else member? rest key := by
  by_cases h : first.1 = key <;> simp [member?, h]

/-- Under its key the new value is found, and under every other what was there before. -/
theorem member?_putMember (key : String) (value : α) (entries : List (String × α))
    (other : String) : member? (putMember key value entries) other =
      if key = other then some value else member? entries other := by
  induction entries with
  | nil => simp [putMember]
  | cons first rest ih =>
    unfold putMember
    split
    · rw [member?_cons]
    · split
      · rename_i same
        by_cases h : key = other <;> simp [h, same]
      · rename_i different
        rw [member?_cons, ih, member?_cons]
        by_cases h : key = other
        · subst h
          simp [different]
        · simp [h]

theorem mem_putMember (h : entry ∈ putMember key value entries) :
    entry = (key, value) ∨ entry ∈ entries := by
  induction entries with
  | nil => exact .inl (List.mem_singleton.mp h)
  | cons first rest ih =>
    unfold putMember at h
    split at h
    · exact List.mem_cons.mp h
    · split at h
      · exact (List.mem_cons.mp h).imp_right (List.mem_cons_of_mem _)
      · rcases List.mem_cons.mp h with rfl | h
        · exact .inr List.mem_cons_self
        · exact (ih h).imp_right (List.mem_cons_of_mem _)

theorem pairwise_putMember (sorted : (entries.map Prod.fst).Pairwise (· < ·)) :
    ((putMember key value entries).map Prod.fst).Pairwise (· < ·) := by
  induction entries with
  | nil => exact .cons (by simp) .nil
  | cons first rest ih =>
    obtain ⟨behind, hr⟩ := List.pairwise_cons.mp sorted
    unfold putMember
    split
    · rename_i lt
      refine .cons (fun other ho => ?_) sorted
      rcases List.mem_cons.mp ho with rfl | ho
      · exact lt
      · exact lt.trans (behind other ho)
    · rename_i unordered
      split
      · rename_i same
        exact .cons (same ▸ behind) hr
      · rename_i different
        refine .cons (fun other ho => ?_) (ih hr)
        obtain ⟨entry, hm, rfl⟩ := List.mem_map.mp ho
        rcases mem_putMember hm with rfl | hm
        · exact lt_of_le_of_ne (not_lt.mp unordered) different
        · exact behind _ (List.mem_map_of_mem hm)

end RouteBus
