import Mathlib
import RouteBus.Proofs.Template.Backtracking

/-!
# Extraction

What a template that was read means: which topics it matches, which of the
values that fit it extracts, and that extraction and resolution undo each other.
-/

namespace RouteBus.Template

/-- `Factors t topic values`: the topic is the template with the values in place of its markers. -/
def Factors (t : Template) (topic : String) (values : List String) : Prop :=
  Token.Factors t.tokens topic.toList (values.map String.toList)

def innerLengths (t : Template) (values : List String) : List Nat :=
  Token.innerLengths t.tokens (values.map String.toList)

def markerCount (t : Template) : Nat := Token.markerCount t.tokens

theorem scan_of_parse (h : parse text = .ok t) :
    t.raw = text ∧ Token.scan 0 true text.toList = .ok t.tokens := by
  simp only [parse] at h
  split at h
  · cases h
  · rename_i tokens hs
    split at h
    · cases h
    · cases h
      exact ⟨rfl, hs⟩

theorem raw_of_parse (h : parse text = .ok t) : t.raw = text := (scan_of_parse h).1

theorem placed_of_parse (h : parse text = .ok t) : Token.Placed true t.tokens :=
  Token.placed_of_scan (scan_of_parse h).2

/-- The values of the first attempt of the compiled expression. -/
theorem extract_eq_firstMatch (t : Template) (topic : String) :
    t.extract topic = (Token.firstMatch (Token.pieces t.tokens) topic.toList).map (·.map String.ofList) := by
  rw [extract, Token.readings_eq, Marked.mark_tabulate]

theorem map_ofList_eq_iff {values : List (List Char)} {texts : List String} :
    values.map String.ofList = texts ↔ values = texts.map String.toList := by
  constructor
  · rintro rfl
    simp [Function.comp_def]
  · rintro rfl
    simp [Function.comp_def]

theorem exists_texts (values : List (List Char)) : ∃ texts : List String, values = texts.map String.toList :=
  ⟨values.map String.ofList, by simp [Function.comp_def]⟩

theorem map_toList_inj {texts texts' : List String} (h : texts.map String.toList = texts'.map String.toList) :
    texts = texts' :=
  (List.map_inj_right fun _ _ => String.toList_inj.mp).mp h

variable {t : Template} {text topic : String} {values : List String}

theorem extract_eq_some_iff (h : parse text = .ok t) :
    t.extract topic = some values ↔ t.Factors topic values ∧
      ∀ others, t.Factors topic others →
        others = values ∨ t.innerLengths values < t.innerLengths others := by
  rw [extract_eq_firstMatch, Option.map_eq_some_iff]
  simp only [map_ofList_eq_iff, exists_eq_right]
  rw [Token.firstMatch_eq_some_iff (placed_of_parse h)]
  constructor
  · rintro ⟨hf, hl⟩
    exact ⟨hf, fun others ho => (hl _ ho).imp map_toList_inj id⟩
  · rintro ⟨hf, hl⟩
    refine ⟨hf, fun others ho => ?_⟩
    obtain ⟨texts, rfl⟩ := exists_texts others
    exact (hl texts ho).imp (congrArg _) id

theorem factors_of_extract (h : parse text = .ok t) (he : t.extract topic = some values) :
    t.Factors topic values :=
  ((extract_eq_some_iff h).mp he).1

/-- Something is extracted as soon as anything fits. -/
theorem test_iff_exists_factors : t.test topic = true ↔ ∃ values, t.Factors topic values := by
  rw [test, extract_eq_firstMatch, Option.isSome_map, Token.firstMatch, List.isSome_head?]
  constructor
  · intro h
    obtain ⟨values, hv⟩ := List.exists_mem_of_ne_nil _ h
    obtain ⟨texts, rfl⟩ := exists_texts values
    exact ⟨texts, Token.mem_attempts.mp hv⟩
  · rintro ⟨values, hv⟩
    exact List.ne_nil_of_mem (Token.mem_attempts.mpr hv)

/-- A template matches exactly the topics that factor along it. It extracts one value for each
marker, of all factorisations the one with the least lengths of inner wildcards, which is
what backtracking finds first in the compiled expression. -/
theorem extract_least_factorisation (h : parse text = .ok t) (topic : String) :
    (t.test topic = true ↔ (t.extract topic).isSome = true) ∧
    (t.test topic = true ↔ ∃ values, t.Factors topic values) ∧
    (∀ values, t.extract topic = some values ↔ t.Factors topic values ∧
      ∀ others, t.Factors topic others →
        others = values ∨ t.innerLengths values < t.innerLengths others) ∧
    (∀ values, t.extract topic = some values → values.length = t.markerCount) ∧
    t.extract topic =
      (Token.firstMatch (Token.pieces t.tokens) topic.toList).map (·.map String.ofList) := by
  refine ⟨by rw [test], test_iff_exists_factors, fun values => extract_eq_some_iff h, ?_,
    extract_eq_firstMatch t topic⟩
  intro values he
  have hl := (factors_of_extract h he).length_eq
  rwa [List.length_map] at hl

def feeds : Template :=
  ⟨"*/feeds/*", [.wildcard [], .literal ['/', 'f', 'e', 'e', 'd', 's', '/'], .wildcard []]⟩

theorem extract_least_factorisation_feeds :
    parse "*/feeds/*" = .ok feeds ∧ feeds.extract "a/feeds/b/feeds/c" = some ["a", "b/feeds/c"] ∧
    ∀ others, feeds.Factors "a/feeds/b/feeds/c" others →
      others = ["a", "b/feeds/c"] ∨ [1] < feeds.innerLengths others := by
  have hp : parse "*/feeds/*" = .ok feeds := by cbv
  have he : feeds.extract "a/feeds/b/feeds/c" = some ["a", "b/feeds/c"] := by decide
  have hm := (extract_least_factorisation hp "a/feeds/b/feeds/c").2.2.1 ["a", "b/feeds/c"]
  exact ⟨hp, he, (hm.mp he).2⟩

-- ---------------------------------------------------------------------------
-- Resolution
-- ---------------------------------------------------------------------------

theorem resolve_of_factors (h : t.Factors topic values) : t.resolve values = ⟨topic, true⟩ := by
  have hl := h.length_eq
  rw [List.length_map] at hl
  rw [resolve, h.fill_eq, hl]
  simp

/-- Arguments that may stand for the markers, surplus ones aside. -/
def Accepts (t : Template) (args : List String) : Prop :=
  t.markerCount ≤ args.length ∧
    ∀ p ∈ (t.tokens.filter Token.isMarker).zip args, p.1.Admits p.2.toList

theorem Accepts.factors (ha : t.Accepts args) :
    t.Factors (t.resolve args).uri (args.take t.markerCount) := by
  have hn : Token.markerCount t.tokens ≤ (args.map String.toList).length := by
    rw [List.length_map]
    exact ha.1
  have hv : ∀ p ∈ (t.tokens.filter Token.isMarker).zip (args.map String.toList), p.1.Admits p.2 := by
    rw [List.zip_map_right]
    intro p hp
    obtain ⟨q, hq, rfl⟩ := List.mem_map.mp hp
    exact ha.2 q hq
  have h := Token.factors_fill hn hv
  rw [← List.map_take] at h
  simpa [Factors, resolve, markerCount] using h

/-- Extraction and resolution undo each other. -/
theorem resolve_extract (h : parse text = .ok t) :
    (∀ topic values, t.extract topic = some values → t.resolve values = ⟨topic, true⟩) ∧
    ∀ args, t.Accepts args →
      (t.resolve args).complete = true ∧ t.test (t.resolve args).uri = true ∧
      (Token.wildcardCount t.tokens ≤ 1 →
        t.extract (t.resolve args).uri = some (args.take t.markerCount)) := by
  refine ⟨fun topic values he => resolve_of_factors (factors_of_extract h he), ?_⟩
  intro args ha
  have hf := ha.factors
  refine ⟨decide_eq_true ha.1, test_iff_exists_factors.mpr ⟨_, hf⟩, ?_⟩
  intro hw
  refine (extract_eq_some_iff h).mpr ⟨hf, fun others ho => .inl ?_⟩
  exact map_toList_inj ((placed_of_parse h).factors_unique hw ho hf)

def search : Template :=
  ⟨"x/:a-x/*", [.literal ['x', '/'], .named ['a'], .literal ['-', 'x', '/'], .wildcard []]⟩

theorem resolve_extract_search :
    parse "x/:a-x/*" = .ok search ∧ search.Accepts ["1-x", "p/q", "r"] ∧
    search.extract "x/1-x-x/p/q" = some ["1-x", "p/q"] ∧
    search.resolve ["1-x", "p/q"] = ⟨"x/1-x-x/p/q", true⟩ := by
  have hp : parse "x/:a-x/*" = .ok search := by cbv
  have ha : search.Accepts ["1-x", "p/q", "r"] := ⟨by decide, by decide⟩
  have he : search.extract "x/1-x-x/p/q" = some ["1-x", "p/q"] :=
    ((resolve_extract hp).2 _ ha).2.2 (by decide)
  exact ⟨hp, ha, he, (resolve_extract hp).1 _ _ he⟩

/-- With two wildcards the values may come back differently. -/
example : feeds.extract (feeds.resolve ["a/feeds/b", "c"]).uri = some ["a", "b/feeds/c"] := by decide

end RouteBus.Template
