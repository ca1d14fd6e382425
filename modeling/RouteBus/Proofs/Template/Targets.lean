import Mathlib.Data.List.TakeWhile
import RouteBus.Proofs.Template.Extraction

/-!
# Targets that stand for themselves

Where a template has no wildcard and its arguments are plain, what it resolves to has no
marker. Read as a template in turn it matches itself and nothing else, and the template that
it came from matches it, as it does whenever its markers admit their arguments.
-/

namespace RouteBus

namespace Token

def Inert : Bool → List Char → Prop
  | _, [] => True
  | atStart, c :: cs => (atStart = true → c ≠ ':' ∧ c ≠ '*') ∧ Inert (isSeparator c) cs

def plain : List Char → List Token
  | [] => []
  | c :: cs => [.literal (c :: cs)]

theorem markerCount_plain (cs : List Char) : markerCount (plain cs) = 0 := by
  cases cs <;> rfl

theorem scan_inert (h : Inert atStart cs) : scan offset atStart cs = .ok (plain cs) := by
  induction cs generalizing offset atStart with
  | nil =>
    rw [scan]
    rfl
  | cons c cs ih =>
    obtain ⟨hc, hcs⟩ := h
    have colon : (atStart && c == ':') = false := by
      cases atStart <;> simp_all
    have star : (atStart && c == '*') = false := by
      cases atStart <;> simp_all
    rw [scan, colon, star, ih hcs]
    cases cs <;> rfl

theorem inert_append (hs : ∀ c ∈ value, isSeparator c = false) (h : Inert false rest) :
    Inert false (value ++ rest) := by
  induction value with
  | nil => exact h
  | cons c value ih =>
    refine ⟨nofun, ?_⟩
    rw [hs c List.mem_cons_self]
    exact ih fun d hd => hs d (List.mem_cons_of_mem _ hd)

theorem factors_consLiteral (c : Char) (tokens : List Token) :
    Factors (consLiteral c tokens) topic values ↔
      ∃ rest, topic = c :: rest ∧ Factors tokens rest values := by
  cases tokens with
  | nil => simp [consLiteral, factors_literal]
  | cons token tokens =>
    cases token with
    | literal text =>
      simp only [consLiteral, factors_literal, List.cons_append]
      constructor
      · rintro ⟨rest, rfl, h⟩
        exact ⟨text ++ rest, rfl, rest, rfl, h⟩
      · rintro ⟨_, rfl, rest, rfl, h⟩
        exact ⟨rest, rfl, h⟩
    | named name | wildcard name => simp [consLiteral, factors_literal]

@[simp] theorem fill_consLiteral (c : Char) (tokens : List Token) (args : List (List Char)) :
    fill (consLiteral c tokens) args = c :: fill tokens args := by
  cases tokens with
  | nil => rfl
  | cons token tokens => cases token <;> rfl

/-- What was read is written back. -/
theorem fill_of_scan (h : scan offset atStart cs = .ok tokens) : fill tokens [] = cs := by
  fun_induction scan offset atStart cs generalizing tokens with
  | case1 =>
    cases h
    rfl
  | case2 => cases h
  | case3 _ _ c cs hc n ame hn ih =>
    obtain ⟨later, hr, h⟩ := bind_ok.mp h
    cases h
    simp only [Bool.and_eq_true, beq_iff_eq] at hc
    simp only [fill, text, ih hr, hc.2, ← hn, List.cons_append, List.takeWhile_append_dropWhile]
  | case4 _ _ c cs _ hc name =>
    rename_i ih
    obtain ⟨later, hr, h⟩ := bind_ok.mp h
    cases h
    simp only [Bool.and_eq_true, beq_iff_eq] at hc
    simp only [fill, text, name, ih hr, hc.2, List.cons_append, List.takeWhile_append_dropWhile]
  | case5 _ _ c cs _ _ ih =>
    obtain ⟨later, hr, h⟩ := bind_ok.mp h
    cases h
    simp [ih hr]

theorem wildcardCount_consLiteral (c : Char) (tokens : List Token) :
    wildcardCount (consLiteral c tokens) = wildcardCount tokens := by
  cases tokens with
  | nil => rfl
  | cons token tokens => cases token <;> simp [consLiteral, wildcardCount, isWildcard]

/-- Markers begin only where the template has them, and there stand plain values. -/
theorem inert_of_factors (h : scan offset atStart cs = .ok tokens)
    (hw : wildcardCount tokens = 0) (hf : Factors tokens topic values)
    (hh : ∀ value ∈ values, ∀ c ∈ value.head?, c ≠ ':' ∧ c ≠ '*') : Inert atStart topic := by
  fun_induction scan offset atStart cs generalizing tokens topic values with
  | case1 =>
    cases h
    obtain ⟨rfl, -⟩ := factors_nil.mp hf
    trivial
  | case2 => cases h
  | case3 _ atStart c _ hc _ _ _ ih =>
    obtain ⟨later, hr, h⟩ := bind_ok.mp h
    cases h
    obtain ⟨value, rest, values, rfl, rfl, ⟨hne, hs⟩, hf⟩ := (factors_marker rfl).mp hf
    have behind : Inert false rest :=
      ih hr (by simpa [wildcardCount, isWildcard] using hw) hf
        fun v hv => hh v (List.mem_cons_of_mem _ hv)
    obtain ⟨d, value, rfl⟩ := List.exists_cons_of_ne_nil hne
    refine ⟨fun _ => hh _ List.mem_cons_self d rfl, ?_⟩
    rw [hs d List.mem_cons_self]
    exact inert_append (fun e he => hs e (List.mem_cons_of_mem _ he)) behind
  | case4 =>
    obtain ⟨later, hr, h⟩ := bind_ok.mp h
    cases h
    simp [wildcardCount, isWildcard] at hw
  | case5 _ atStart c _ hc hs ih =>
    obtain ⟨later, hr, h⟩ := bind_ok.mp h
    cases h
    obtain ⟨rest, rfl, hrest⟩ := (factors_consLiteral c later).mp hf
    rw [wildcardCount_consLiteral] at hw
    refine ⟨?_, ih hr hw hrest hh⟩
    rintro rfl
    simpa using And.intro hc hs

end Token

namespace Template

/-- Arguments for a template whose markers are all named: as many as there are markers, and
those that are used plain. -/
structure Fits (t : Template) (args : List String) : Prop where
  named : Token.wildcardCount t.tokens = 0
  enough : t.markerCount ≤ args.length
  used : ∀ arg ∈ args.take t.markerCount, arg ≠ "" ∧ '/' ∉ arg.toList ∧ '?' ∉ arg.toList ∧
    ∀ c ∈ arg.toList.head?, c ≠ ':' ∧ c ≠ '*'

variable {t : Template} {text : String} {args : List String}

theorem Fits.accepts (h : t.Fits args) : t.Accepts args := by
  refine ⟨h.enough, fun p hp => ?_⟩
  have count : (t.tokens.filter Token.isMarker).length = t.markerCount :=
    List.countP_eq_length_filter.symm
  have least : min (t.tokens.filter Token.isMarker).length args.length = t.markerCount := by
    rw [count]
    exact Nat.min_eq_left h.enough
  rw [List.zip_eq_zip_take_min, least] at hp
  obtain ⟨hm, ha⟩ := List.of_mem_zip hp
  have marker := List.mem_filter.mp (List.mem_of_mem_take hm)
  have named := List.countP_eq_zero.mp h.named p.1 marker.1
  obtain ⟨hne, slash, question, -⟩ := h.used p.2 ha
  obtain ⟨token, arg⟩ := p
  cases token with
  | literal text => cases marker.2
  | wildcard name => exact absurd rfl named
  | named name =>
    refine ⟨by simpa using hne, fun c hc => ?_⟩
    simp only [isSeparator, Bool.or_eq_false_iff, beq_eq_false_iff_ne]
    exact ⟨fun he => slash (he ▸ hc), fun he => question (he ▸ hc)⟩

theorem resolve_nil (parsed : parse text = .ok t) : (t.resolve []).uri = text := by
  simp [resolve, Token.fill_of_scan (scan_of_parse parsed).2]

/-- Without markers it stands for itself alone. -/
theorem test_unmarked (parsed : parse text = .ok t) (unmarked : t.markerCount = 0) {topic : String}
    (h : t.test topic = true) : topic = text := by
  obtain ⟨values, hf⟩ := test_iff_exists_factors.mp h
  have none : values = [] := by
    have count := hf.length_eq
    rw [List.length_map] at count
    exact List.length_eq_zero_iff.mp (count.trans unmarked)
  subst none
  apply String.toList_injective
  rw [← hf.fill_eq]
  exact Token.fill_of_scan (scan_of_parse parsed).2

theorem parse_of_inert (h : Token.Inert true text.toList) :
    parse text = .ok ⟨text, Token.plain text.toList⟩ := by
  have unnamed : (Token.plain text.toList).filterMap Token.givenName? = [] := by
    cases text.toList <;> rfl
  simp [parse, Token.scan_inert h, unnamed, firstRepeat]

/-- A target of plain arguments has no marker. -/
theorem Fits.parse_target (hp : parse text = .ok t) (h : t.Fits args) :
    ∃ target, parse (t.resolve args).uri = .ok target ∧ target.markerCount = 0 := by
  have hf := h.accepts.factors
  have inert : Token.Inert true (t.resolve args).uri.toList := by
    refine Token.inert_of_factors (scan_of_parse hp).2 h.named hf fun value hv => ?_
    obtain ⟨arg, ha, rfl⟩ := List.mem_map.mp hv
    exact (h.used arg ha).2.2.2
  exact ⟨_, parse_of_inert inert, Token.markerCount_plain _⟩

theorem Fits.test_target (h : t.Fits args) : t.test (t.resolve args).uri = true :=
  test_iff_exists_factors.mpr ⟨_, h.accepts.factors⟩

theorem Fits.complete (h : t.Fits args) : (t.resolve args).complete = true :=
  decide_eq_true h.enough

end Template

-- ---------------------------------------------------------------------------
-- Targets that their template matches
-- ---------------------------------------------------------------------------

namespace Token

theorem not_separator (h : isNameChar c = true) : isSeparator c = false := by
  have slash : c ≠ '/' := by rintro rfl; cases h
  have question : c ≠ '?' := by rintro rfl; cases h
  simp [isSeparator, slash, question]

/-- A marker that nothing is put in place of may stand for itself. -/
def AdmitsItself (token : Token) : Prop := token.isMarker = true → token.Admits token.text

theorem admitsItself_consLiteral (c : Char) (h : ∀ token ∈ tokens, AdmitsItself token) :
    ∀ token ∈ consLiteral c tokens, AdmitsItself token := by
  have literal : ∀ text, AdmitsItself (.literal text) := fun _ => nofun
  unfold consLiteral
  split
  · simp only [List.forall_mem_cons] at h ⊢
    exact ⟨literal _, h.2⟩
  · exact List.forall_mem_cons.mpr ⟨literal _, h⟩

theorem admitsItself_of_scan (h : scan offset atStart cs = .ok tokens) :
    ∀ token ∈ tokens, AdmitsItself token := by
  fun_induction scan offset atStart cs generalizing tokens with
  | case1 =>
    cases h
    simp
  | case2 => cases h
  | case3 _ _ _ cs _ n ame hn ih =>
    obtain ⟨later, hr, h⟩ := bind_ok.mp h
    cases h
    refine List.forall_mem_cons.mpr ⟨fun _ => ⟨List.cons_ne_nil _ _, ?_⟩, ih hr⟩
    intro c hc
    rcases List.mem_cons.mp hc with rfl | hc
    · rfl
    · rw [← hn] at hc
      exact not_separator (List.mem_takeWhile_imp hc)
  | case4 _ _ _ cs _ _ name =>
    rename_i ih
    obtain ⟨later, hr, h⟩ := bind_ok.mp h
    cases h
    refine List.forall_mem_cons.mpr ⟨fun _ => ?_, ih hr⟩
    intro hc
    rcases List.mem_cons.mp hc with hc | hc
    · cases hc
    · cases (List.mem_takeWhile_imp hc : isNameChar '\n' = true)
  | case5 _ _ c _ _ _ ih =>
    obtain ⟨later, hr, h⟩ := bind_ok.mp h
    cases h
    exact admitsItself_consLiteral c (ih hr)

theorem exists_factors_fill (itself : ∀ token ∈ tokens, AdmitsItself token)
    (suits : ∀ p ∈ (tokens.filter isMarker).zip args, p.1.Admits p.2) :
    ∃ values, Factors tokens (fill tokens args) values := by
  induction tokens generalizing args with
  | nil => exact ⟨[], .nil⟩
  | cons token tokens ih =>
    obtain ⟨first, later⟩ := List.forall_mem_cons.mp itself
    cases hm : token.isMarker with
    | false =>
      cases token with
      | literal text =>
        obtain ⟨values, hf⟩ := ih later (by simpa [isMarker] using suits)
        exact ⟨values, .literal hf⟩
      | named name | wildcard name => cases hm
    | true =>
      cases args with
      | nil =>
        have left : ∃ values, Factors tokens (fill tokens []) values := ih later (by simp)
        obtain ⟨values, hf⟩ := left
        refine ⟨token.text :: values, ?_⟩
        cases token with
        | literal text => cases hm
        | named name | wildcard name => exact .marker _ hm (first hm) hf
      | cons arg args =>
        simp only [List.filter_cons, hm, if_true, List.zip_cons_cons, List.forall_mem_cons] at suits
        obtain ⟨values, hf⟩ := ih later suits.2
        rw [fill_marker hm]
        exact ⟨arg :: values, .marker token hm suits.1 hf⟩

end Token

namespace Template

def Suits (t : Template) (args : List String) : Prop :=
  ∀ p ∈ (t.tokens.filter Token.isMarker).zip args, p.1.Admits p.2.toList

theorem Suits.test_target {t : Template} (parsed : parse text = .ok t) (h : t.Suits args) :
    t.test (t.resolve args).uri = true := by
  have suits : ∀ p ∈ (t.tokens.filter Token.isMarker).zip (args.map String.toList),
      p.1.Admits p.2 := by
    rw [List.zip_map_right]
    intro p hp
    obtain ⟨q, hq, rfl⟩ := List.mem_map.mp hp
    exact h q hq
  obtain ⟨values, hf⟩ :=
    Token.exists_factors_fill (Token.admitsItself_of_scan (scan_of_parse parsed).2) suits
  obtain ⟨texts, rfl⟩ := exists_texts values
  refine test_iff_exists_factors.mpr ⟨texts, ?_⟩
  simpa [Factors, resolve] using hf

/-- Whatever its markers, a template matches the text that it was read from. -/
theorem test_self {t : Template} (parsed : parse text = .ok t) : t.test text = true := by
  have suits : t.Suits [] := by simp [Suits]
  have itself := suits.test_target parsed
  rwa [resolve_nil parsed] at itself

end Template

end RouteBus
