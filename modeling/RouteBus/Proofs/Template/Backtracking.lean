import RouteBus.Proofs.Template.Factors
import RouteBus.Template.Matching

/-!
# Matching by backtracking

A template is compiled to an anchored expression: its literals, for each `:name`
the longest run of one or more characters that are no separators, and for each
wildcard a run of characters that are no line feeds, the longest for a last
wildcard and the shortest for any other. Backtracking tries such runs in order
of preference, the first of them before the second, and the first attempt that
uses up the topic wins.

`readings_eq`: the tables of readings hold the first attempt at each place.
`firstMatch_eq_some_iff`: the attempts are the factorisations, ordered by the
lengths of the wildcards that are not the last token.
-/

namespace RouteBus

namespace Token

inductive Piece where
  | text (text : List Char)
  /-- Captures at least `least` characters of a class, as many or as few as possible. -/
  | run (allowed : Char → Bool) (least : Nat) (greedy : Bool)

def pieces : List Token → List Piece
  | [] => []
  | .literal text :: tokens => .text text :: pieces tokens
  | .named _ :: tokens => .run (!isSeparator ·) 1 true :: pieces tokens
  | .wildcard _ :: tokens => .run (· != '\n') 0 tokens.isEmpty :: pieces tokens

def runs (allowed : Char → Bool) : List Char → List (List Char × List Char)
  | [] => [([], [])]
  | c :: cs =>
    ([], c :: cs) ::
      if allowed c then (runs allowed cs).map fun split => (c :: split.1, split.2) else []

/-- The splits that a run may take, the preferred one first. -/
def choices (allowed : Char → Bool) (least : Nat) (greedy : Bool) (cs : List Char) :
    List (List Char × List Char) :=
  let splits := (runs allowed cs).filter (least ≤ ·.1.length)
  if greedy then splits.reverse else splits

/-- What each way to match all of a text captures, in the order in which they are tried. -/
def attempts : List Piece → List Char → List (List (List Char))
  | [], cs => if cs.isEmpty then [[]] else []
  | .text text :: pieces, cs =>
    if text.isPrefixOf cs then attempts pieces (cs.drop text.length) else []
  | .run allowed least greedy :: pieces, cs =>
    (choices allowed least greedy cs).flatMap fun split =>
      (attempts pieces split.2).map (split.1 :: ·)

def firstMatch (pieces : List Piece) (cs : List Char) : Option (List (List Char)) :=
  (attempts pieces cs).head?

-- ---------------------------------------------------------------------------
-- Runs
-- ---------------------------------------------------------------------------

variable {allowed : Char → Bool} {cs value rest topic : List Char} {tokens : List Token}
  {values : List (List Char)}

theorem mem_runs : (value, rest) ∈ runs allowed cs ↔ cs = value ++ rest ∧ ∀ c ∈ value, allowed c := by
  induction cs generalizing value rest with
  | nil => simp [runs]; grind
  | cons c cs ih =>
    cases value with
    | nil => simp [runs]; grind
    | cons d value =>
      cases hc : allowed c with
      | false => simp [runs, hc]; grind
      | true => simp [runs, hc, ih]; grind

theorem mem_choices : (value, rest) ∈ choices allowed least greedy cs ↔
    cs = value ++ rest ∧ (∀ c ∈ value, allowed c) ∧ least ≤ value.length := by
  cases greedy <;> simp [choices, mem_runs, and_assoc]

theorem runs_pairwise (allowed : Char → Bool) (cs : List Char) :
    (runs allowed cs).Pairwise (·.1.length < ·.1.length) := by
  induction cs with
  | nil => simp [runs]
  | cons c cs ih =>
    cases hc : allowed c with
    | false => simp [runs, hc]
    | true =>
      simp only [runs, hc, if_true, List.pairwise_cons, List.pairwise_map, List.mem_map]
      refine ⟨?_, by simpa using ih⟩
      rintro _ ⟨_, _, rfl⟩
      simp

theorem runs_eq_cons (allowed : Char → Bool) (cs : List Char) :
    runs allowed cs = ([], cs) :: (runs allowed cs).filter (1 ≤ ·.1.length) := by
  cases cs with
  | nil => simp [runs]
  | cons c cs =>
    cases hc : allowed c with
    | false => simp [runs, hc]
    | true =>
      rw [runs, if_pos hc, List.filter_cons_of_neg (by simp), List.filter_eq_self.mpr]
      simp +contextual [← eq_comm]

/-- At most one run leaves nothing over. -/
theorem runs_filter_end : (runs allowed cs).filter (·.2.isEmpty) = if cs.all allowed then [(cs, [])] else [] := by
  induction cs with
  | nil => simp [runs]
  | cons c cs ih =>
    cases hc : allowed c with
    | false => simp [runs, hc]
    | true =>
      simp [runs, hc, List.filter_map, Function.comp_def, ih]
      split <;> simp_all

theorem choices_zero : choices allowed 0 false cs = runs allowed cs := by
  simp [choices]

theorem choices_pairwise : (choices allowed least greedy cs).Pairwise (·.1.length ≠ ·.1.length) := by
  have h := (runs_pairwise allowed cs).filter (decide <| least ≤ ·.1.length)
  cases greedy with
  | false => exact h.imp Nat.ne_of_lt
  | true => exact List.pairwise_reverse.mpr (h.imp Nat.ne_of_gt)

theorem choices_cons (hc : allowed c = true) :
    choices allowed 1 true (c :: cs) =
      (choices allowed 1 true cs).map (fun split => (c :: split.1, split.2)) ++ [([c], cs)] := by
  simp only [choices, runs, hc, if_true]
  rw [runs_eq_cons allowed cs]
  simp [List.filter_map, Function.comp_def]

/-- A run up to the end is found whether the longest or the shortest is tried first. -/
theorem attempts_last (greedy : Bool) :
    attempts [.run allowed 0 greedy] cs = if cs.all allowed then [[cs]] else [] := by
  have h (splits : List (List Char × List Char)) :
      (splits.flatMap fun split => (attempts [] split.2).map (split.1 :: ·)) =
        (splits.filter (·.2.isEmpty)).map ([·.1]) := by
    induction splits with
    | nil => rfl
    | cons split splits ih =>
      rw [List.flatMap_cons, ih, attempts]
      cases he : split.2.isEmpty <;> simp [he]
  cases greedy with
  | false =>
    rw [attempts, h, choices_zero, runs_filter_end]
    split <;> rfl
  | true =>
    rw [attempts, h]
    simp [choices, List.filter_reverse, runs_filter_end]
    split <;> rfl

-- ---------------------------------------------------------------------------
-- Attempts are factorisations
-- ---------------------------------------------------------------------------

theorem mem_attempts_run {parts : List Piece} :
    values ∈ attempts (.run allowed least greedy :: parts) topic ↔
      ∃ value rest later, topic = value ++ rest ∧ values = value :: later ∧
        ((∀ c ∈ value, allowed c) ∧ least ≤ value.length) ∧ later ∈ attempts parts rest := by
  simp only [attempts, List.mem_flatMap, List.mem_map]
  constructor
  · rintro ⟨⟨value, rest⟩, hs, later, hl, rfl⟩
    obtain ⟨rfl, ha⟩ := mem_choices.mp hs
    exact ⟨value, rest, later, rfl, rfl, ha, hl⟩
  · rintro ⟨value, rest, later, rfl, rfl, ha, hl⟩
    exact ⟨(value, rest), mem_choices.mpr ⟨rfl, ha⟩, later, hl, rfl⟩

theorem mem_attempts : values ∈ attempts (pieces tokens) topic ↔ Factors tokens topic values := by
  induction tokens generalizing topic values with
  | nil => simp [pieces, attempts, factors_nil]
  | cons token tokens ih =>
    cases token with
    | literal text =>
      rw [factors_literal, pieces, attempts]
      split
      · rename_i h
        obtain ⟨rest, rfl⟩ := List.isPrefixOf_iff_prefix.mp h
        simp [ih]
      · rename_i h
        refine ⟨fun h => (nomatch h), ?_⟩
        rintro ⟨rest, rfl, -⟩
        exact absurd (List.isPrefixOf_iff_prefix.mpr ⟨rest, rfl⟩) h
    | named name =>
      have hm : (named name).isMarker = true := rfl
      have ha (value : List Char) : ((∀ c ∈ value, (!isSeparator c) = true) ∧ 1 ≤ value.length) ↔
          (named name).Admits value := by
        simp [Admits, Nat.one_le_iff_ne_zero, and_comm]
      simp only [factors_marker hm, pieces, mem_attempts_run, ha, ih]
    | wildcard name =>
      have hm : (wildcard name).isMarker = true := rfl
      have ha (value : List Char) : ((∀ c ∈ value, (c != '\n') = true) ∧ 0 ≤ value.length) ↔
          (wildcard name).Admits value := by
        simp only [Admits, bne_iff_ne, Nat.zero_le, and_true]
        exact ⟨fun h hc => h _ hc rfl, fun h c hc he => h (he ▸ hc)⟩
      simp only [factors_marker hm, pieces, mem_attempts_run, ha, ih]

-- ---------------------------------------------------------------------------
-- Order of attempts
-- ---------------------------------------------------------------------------

def innerLengths : List Token → List (List Char) → List Nat
  | .literal _ :: tokens, values => innerLengths tokens values
  | .named _ :: tokens, _ :: values => innerLengths tokens values
  | .wildcard _ :: tokens, value :: values =>
    if tokens.isEmpty then [] else value.length :: innerLengths tokens values
  | _, _ => []

/-- Attempts come in the lexicographic order of the lengths of inner wildcards. -/
theorem attempts_pairwise (hp : Placed starts tokens) (topic : List Char) :
    (attempts (pieces tokens) topic).Pairwise (innerLengths tokens · < innerLengths tokens ·) := by
  induction hp generalizing topic with
  | nil => cases topic <;> simp [pieces, attempts]
  | literal _ _ _ ih =>
    rw [pieces, attempts]
    split
    · exact ih _
    · exact .nil
  | @marker rest token hm hp ih =>
    cases token with
    | literal text => cases hm
    | named name =>
      rw [pieces, attempts, List.pairwise_flatMap]
      refine ⟨fun split _ => by simpa [List.pairwise_map, innerLengths] using ih split.2, ?_⟩
      refine choices_pairwise.imp_of_mem ?_
      rintro ⟨value, rest⟩ ⟨value', rest'⟩ hs hs' hne values hv values' hv'
      -- a name has one end only, so no two runs lead to a match
      obtain ⟨later, hl, -⟩ := List.mem_map.mp hv
      obtain ⟨later', hl', -⟩ := List.mem_map.mp hv'
      obtain ⟨rfl, ha, -⟩ := mem_choices.mp hs
      obtain ⟨he, ha', -⟩ := mem_choices.mp hs'
      have hvalue := hp.name_unique (mem_attempts.mp hl) (mem_attempts.mp hl')
        (by simpa using ha) (by simpa using ha') he
      exact absurd (congrArg List.length hvalue) hne
    | wildcard name =>
      cases rest with
      | nil =>
        rw [pieces, pieces, attempts_last]
        split
        · exact List.pairwise_singleton ..
        · exact .nil
      | cons next rest =>
        rw [pieces, attempts, List.pairwise_flatMap, List.isEmpty_cons, choices_zero]
        refine ⟨fun split _ => by simpa [List.pairwise_map, innerLengths] using ih split.2, ?_⟩
        refine (runs_pairwise _ _).imp ?_
        rintro ⟨value, rest⟩ ⟨value', rest'⟩ hlt values hv values' hv'
        obtain ⟨later, -, rfl⟩ := List.mem_map.mp hv
        obtain ⟨later', -, rfl⟩ := List.mem_map.mp hv'
        simp only [innerLengths, List.isEmpty_cons]
        exact List.Lex.rel hlt

theorem firstMatch_eq_some_iff (hp : Placed starts tokens) :
    firstMatch (pieces tokens) topic = some values ↔ Factors tokens topic values ∧
      ∀ others, Factors tokens topic others →
        others = values ∨ innerLengths tokens values < innerLengths tokens others := by
  have h := attempts_pairwise hp topic
  simp only [firstMatch, ← mem_attempts]
  cases he : attempts (pieces tokens) topic with
  | nil => simp
  | cons first later =>
    rw [he, List.pairwise_cons] at h
    simp only [List.head?_cons, Option.some.injEq, List.mem_cons]
    constructor
    · rintro rfl
      exact ⟨.inl rfl, fun others ho => ho.imp id (h.1 others)⟩
    · rintro ⟨rfl | hv, hl⟩
      · rfl
      · rcases hl first (.inl rfl) with he | hlt
        · exact he
        · exact absurd (h.1 values hv) (List.lt_asymm hlt)

-- ---------------------------------------------------------------------------
-- Tables hold the first attempts
-- ---------------------------------------------------------------------------

end Token

namespace Marked

variable {α β : Type}

/-- Marks each place of a text with what a function gives for the text from there on. -/
def tabulate (f : List Char → α) : List Char → Marked α
  | [] => .last (f [])
  | c :: cs => .next (f (c :: cs)) c (tabulate f cs)

@[simp] theorem mark_tabulate (f : List Char → α) (cs : List Char) : (tabulate f cs).mark = f cs := by
  cases cs <;> rfl

theorem map_tabulate (g : α → β) (f : List Char → α) (cs : List Char) :
    (tabulate f cs).map g = tabulate (g ∘ f) cs := by
  induction cs with
  | nil => rfl
  | cons c cs ih => simp [tabulate, map, ih]

theorem ofText_eq (atEnd : α) (cs : List Char) :
    ofText atEnd cs = tabulate (fun cs => if cs.isEmpty then some atEnd else none) cs := by
  induction cs with
  | nil => rfl
  | cons c cs ih => simp [tabulate, ofText, ih]

theorem behind_tabulate (f : List Char → Option α) (text cs : List Char) :
    behind text (tabulate f cs) = if text.isPrefixOf cs then f (cs.drop text.length) else none := by
  induction text generalizing cs with
  | nil => simp [behind]
  | cons t text ih =>
    cases cs with
    | nil => simp [tabulate, behind]
    | cons c cs =>
      simp only [tabulate, behind, ih, List.isPrefixOf_cons_cons, List.length_cons, List.drop_succ_cons]
      cases t == c <;> simp

theorem literal_tabulate (f : List Char → Option α) (text cs : List Char) :
    (tabulate f cs).literal text =
      tabulate (fun cs => if text.isPrefixOf cs then f (cs.drop text.length) else none) cs := by
  induction cs with
  | nil => simp only [tabulate, literal, ← behind_tabulate f text []]
  | cons c cs ih => simp only [tabulate, literal, ih, ← behind_tabulate f text (c :: cs)]

open Token (choices runs choices_cons)

/-- Runs that are longer by one character lead to the same marks. -/
theorem findSome?_cons_run (f : List Char → Option α) (c : Char) (splits : List (List Char × List Char)) :
    (splits.map fun split => (c :: split.1, split.2)).findSome?
        (fun split => (f split.2).map (split.1, ·)) =
      (splits.findSome? fun split => (f split.2).map (split.1, ·)).map
        fun (value, mark) => (c :: value, mark) := by
  simp [List.findSome?_map, Function.comp_def]

theorem segment_tabulate (f : List Char → Option α) (cs : List Char) :
    (tabulate f cs).segment = tabulate (fun cs =>
      (choices (!isSeparator ·) 1 true cs).findSome? fun split => (f split.2).map (split.1, ·)) cs := by
  induction cs with
  | nil => rfl
  | cons c cs ih =>
    simp only [tabulate, segment, ih, mark_tabulate]
    cases hc : isSeparator c with
    | true => simp [choices, runs, hc]
    | false =>
      rw [choices_cons (by simp [hc]), List.findSome?_append, findSome?_cons_run]
      cases (choices (!isSeparator ·) 1 true cs).findSome?
        fun split => (f split.2).map (split.1, ·) <;> simp

theorem line_tabulate (f : List Char → Option α) (cs : List Char) :
    (tabulate f cs).line = tabulate (fun cs =>
      (runs (· != '\n') cs).findSome? fun split => (f split.2).map (split.1, ·)) cs := by
  induction cs with
  | nil =>
    simp [tabulate, line, runs]
  | cons c cs ih =>
    simp only [tabulate, line, ih, mark_tabulate, runs, List.findSome?_cons]
    cases f (c :: cs) with
    | some mark => rfl
    | none =>
      by_cases hc : c = '\n'
      · simp [hc]
      · simp [hc, findSome?_cons_run]

end Marked

namespace Token

open Marked (tabulate)

/-- The table of a token list holds, at each place, the first attempt from there on. -/
theorem readings_eq (tokens : List Token) (topic : List Char) :
    readings tokens topic = tabulate (firstMatch (pieces tokens)) topic := by
  induction tokens generalizing topic with
  | nil =>
    rw [readings, Marked.ofText_eq]
    congr 1
    funext cs
    cases cs <;> rfl
  | cons token tokens ih =>
    cases token with
    | literal text =>
      rw [readings, ih, Marked.literal_tabulate]
      congr 1
      funext cs
      simp only [firstMatch, pieces, attempts]
      split <;> rfl
    | named name =>
      rw [readings, ih, Marked.segment_tabulate, Marked.map_tabulate]
      congr 1
      funext cs
      simp [firstMatch, pieces, attempts, List.head?_flatMap, Function.comp_def]
    | wildcard name =>
      rw [readings, ih, Marked.line_tabulate, Marked.map_tabulate]
      congr 1
      funext cs
      cases tokens with
      | nil =>
        -- the last wildcard is tried from the longest run on, and only the whole rest leads to the end
        have h : firstMatch (pieces [.wildcard name]) cs =
            (attempts [.run (· != '\n') 0 false] cs).head? := by
          rw [firstMatch, pieces, pieces, attempts_last, attempts_last]
        rw [h]
        simp [firstMatch, attempts, pieces, List.head?_flatMap, choices_zero, Function.comp_def]
      | cons next tokens =>
        simp [firstMatch, pieces, attempts, List.head?_flatMap, choices_zero, Function.comp_def]

end Token
end RouteBus
