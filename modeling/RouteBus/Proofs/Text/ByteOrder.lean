import Mathlib.Data.String.Basic
import Mathlib.Tactic.SplitIfs

/-!
# The order of texts

Texts are ordered by their characters. UTF-8 keeps that order, so it is the order of the bytes.
-/

namespace RouteBus.Text

def bytes (text : String) : List UInt8 := text.toUTF8.data.toList

theorem bytes_eq (text : String) : bytes text = text.toList.flatMap String.utf8EncodeChar := by
  have encoded : text.toByteArray = (text.toList.flatMap String.utf8EncodeChar).toByteArray := by
    rw [← String.utf8Encode_toList, List.utf8Encode]
  simp [bytes, encoded]

theorem toNat_lt (c : Char) : c.val.toNat < 1114112 := by
  rcases c.valid with low | ⟨-, high⟩
  · exact Nat.lt_trans low (by decide)
  · exact high

/-- Of two characters the smaller one has the smaller bytes, and none of the two begins with the
other, whatever comes behind. -/
theorem encoded_lt {c d : Char} (h : c < d) (rest later : List UInt8) :
    String.utf8EncodeChar c ++ rest < String.utf8EncodeChar d ++ later := by
  have below : c.val.toNat < d.val.toNat := h
  have bound := toNat_lt d
  unfold String.utf8EncodeChar
  generalize c.val.toNat = m at below ⊢
  generalize d.val.toNat = n at below bound ⊢
  dsimp only
  -- More bytes begin with a greater byte; among as many, the first that differs decides.
  split_ifs <;>
    simp (disch := omega) only [List.cons_append, List.nil_append, List.cons_lt_cons_iff,
      UInt8.lt_iff_toNat_lt, ← UInt8.toNat_inj, UInt8.toNat_ofNat', Nat.mod_eq_of_lt] <;>
    omega

theorem flatMap_encoded_lt {cs ds : List Char} (h : cs < ds) :
    cs.flatMap String.utf8EncodeChar < ds.flatMap String.utf8EncodeChar := by
  induction cs generalizing ds with
  | nil =>
    cases ds with
    | nil => exact absurd h (List.lt_irrefl _)
    | cons d ds =>
      rw [List.flatMap_cons]
      cases he : String.utf8EncodeChar d with
      | nil => exact absurd he String.utf8EncodeChar_ne_nil
      | cons byte bytes => exact List.nil_lt_cons _ _
  | cons c cs ih =>
    cases ds with
    | nil => exact absurd h (List.not_lt_nil _)
    | cons d ds =>
      simp only [List.flatMap_cons]
      rcases List.cons_lt_cons_iff.mp h with smaller | ⟨rfl, behind⟩
      · exact encoded_lt smaller _ _
      · exact List.append_left_lt (ih behind)

theorem bytes_lt {text other : String} (h : text < other) : bytes text < bytes other := by
  rw [bytes_eq, bytes_eq]
  exact flatMap_encoded_lt (String.lt_iff_toList_lt.mp h)

end RouteBus.Text
