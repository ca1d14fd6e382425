import RouteBus.Proofs.Template.Targets

/-!
# The grammar of templates

A text has its markers by position alone: one wherever a `:` or `*` begins a segment, named by
the longest run of name characters behind it. A reader that goes through the text once finds
these markers and no others, at their places, and where it fails it names the first fault.
-/

namespace RouteBus

namespace Token

-- ---------------------------------------------------------------------------
-- Markers by position
-- ---------------------------------------------------------------------------

def segmentStart (atStart : Bool) (front : List Char) : Bool :=
  if front = [] then atStart else endsSegment front

def leading? : List Char → Option Token
  | ':' :: cs => some (.named (cs.takeWhile isNameChar))
  | '*' :: cs => some (.wildcard (cs.takeWhile isNameChar))
  | _ => none

/-- Behind `front` a segment begins, and with it the marker. -/
def MarkerAt (atStart : Bool) (cs front : List Char) (marker : Token) : Prop :=
  segmentStart atStart front = true ∧ ∃ back, cs = front ++ back ∧ leading? back = some marker

def Stands (tokens : List Token) (front : List Char) (marker : Token) : Prop :=
  marker.isMarker = true ∧
    ∃ before after, tokens = before ++ marker :: after ∧ before.flatMap text = front

def First (p : List Char → Prop) (front : List Char) : Prop :=
  p front ∧ ∀ other, p other → front.length ≤ other.length

def name : Token → List Char
  | .literal _ => []
  | .named name | .wildcard name => name

def label (marker : Token) : String :=
  if marker.name = [] then "*" else String.ofList marker.name

variable {atStart : Bool} {cs front value rest later : List Char} {c : Char} {offset position : Nat}
  {token marker first : Token} {tokens before after : List Token}

theorem leading_cons (colon : c ≠ ':') (star : c ≠ '*') : leading? (c :: cs) = none := by
  unfold leading?
  split <;> simp_all

theorem segmentStart_cons :
    segmentStart atStart (c :: front) = segmentStart (isSeparator c) front := by
  cases front with
  | nil => rfl
  | cons d front => simp [segmentStart, endsSegment_cons]

theorem not_markerAt_nil : ¬ MarkerAt atStart [] front marker := by
  rintro ⟨-, back, he, hb⟩
  obtain ⟨rfl, rfl⟩ := List.append_eq_nil_iff.mp he.symm
  cases hb

/-- A marker stands at the first place, or where it stands in the rest. -/
theorem markerAt_cons : MarkerAt atStart (c :: cs) front marker ↔
    (front = [] ∧ atStart = true ∧ leading? (c :: cs) = some marker) ∨
      ∃ rest, front = c :: rest ∧ MarkerAt (isSeparator c) cs rest marker := by
  constructor
  · rintro ⟨starts, back, he, hb⟩
    cases front with
    | nil => exact .inl ⟨rfl, starts, by simpa [he] using hb⟩
    | cons d rest =>
      obtain ⟨rfl, rfl⟩ := List.cons.inj he
      rw [segmentStart_cons] at starts
      exact .inr ⟨rest, rfl, starts, back, rfl, hb⟩
  · rintro (⟨rfl, starts, hb⟩ | ⟨rest, rfl, starts, back, rfl, hb⟩)
    · exact ⟨starts, _, rfl, hb⟩
    · exact ⟨by rwa [segmentStart_cons], back, rfl, hb⟩

/-- No marker begins at the first place of literal text. -/
theorem markerAt_literal (colon : ¬ (atStart && c == ':') = true)
    (star : ¬ (atStart && c == '*') = true) :
    MarkerAt atStart (c :: cs) front marker ↔
      ∃ rest, front = c :: rest ∧ MarkerAt (isSeparator c) cs rest marker := by
  rw [markerAt_cons, or_iff_right]
  rintro ⟨-, rfl, hb⟩
  rw [leading_cons (by simpa using colon) (by simpa using star)] at hb
  cases hb

/-- None begins in text without separators, nor behind it. -/
theorem markerAt_inside (inside : ∀ c ∈ value, isSeparator c = false) :
    MarkerAt false (value ++ later) front marker ↔
      ∃ rest, front = value ++ rest ∧ MarkerAt false later rest marker := by
  induction value generalizing front with
  | nil => simp
  | cons c value ih =>
    obtain ⟨hc, inside⟩ := List.forall_mem_cons.mp inside
    rw [List.cons_append, markerAt_literal (by simp) (by simp), hc]
    simp only [ih inside]
    constructor
    · rintro ⟨_, rfl, rest, rfl, h⟩
      exact ⟨rest, rfl, h⟩
    · rintro ⟨rest, rfl, h⟩
      exact ⟨_, rfl, rest, rfl, h⟩

/-- Behind a marker the next one stands beyond its name. -/
theorem markerAt_marker (opens : c = ':' ∨ c = '*') :
    MarkerAt true (c :: cs) front marker ↔
      (front = [] ∧ leading? (c :: cs) = some marker) ∨
        ∃ rest, front = c :: (cs.takeWhile isNameChar ++ rest) ∧
          MarkerAt false (cs.dropWhile isNameChar) rest marker := by
  have hc : isSeparator c = false := by
    rcases opens with rfl | rfl <;> rfl
  have behind : ∀ front, MarkerAt false cs front marker ↔ ∃ rest,
      front = cs.takeWhile isNameChar ++ rest ∧
        MarkerAt false (cs.dropWhile isNameChar) rest marker := by
    intro front
    rw [← markerAt_inside fun d hd => not_separator (List.mem_takeWhile_imp hd),
      List.takeWhile_append_dropWhile]
  simp only [markerAt_cons, hc, behind, true_and]
  refine or_congr_right ⟨?_, ?_⟩
  · rintro ⟨_, rfl, rest, rfl, h⟩
    exact ⟨rest, rfl, h⟩
  · rintro ⟨rest, rfl, h⟩
    exact ⟨_, rfl, rest, rfl, h⟩

-- ---------------------------------------------------------------------------
-- Markers among tokens
-- ---------------------------------------------------------------------------

theorem stands_cons : Stands (first :: tokens) front marker ↔
    (front = [] ∧ first = marker ∧ marker.isMarker = true) ∨
      ∃ rest, front = first.text ++ rest ∧ Stands tokens rest marker := by
  constructor
  · rintro ⟨hm, before, after, he, rfl⟩
    cases before with
    | nil =>
      obtain ⟨rfl, rfl⟩ := List.cons.inj he
      exact .inl ⟨rfl, rfl, hm⟩
    | cons token before =>
      obtain ⟨rfl, rfl⟩ := List.cons.inj he
      exact .inr ⟨_, List.flatMap_cons, hm, before, after, rfl, rfl⟩
  · rintro (⟨rfl, rfl, hm⟩ | ⟨rest, rfl, hm, before, after, rfl, rfl⟩)
    · exact ⟨hm, [], tokens, rfl, rfl⟩
    · exact ⟨hm, first :: before, after, rfl, List.flatMap_cons⟩

theorem not_stands_nil : ¬ Stands [] front marker := by
  rintro ⟨-, before, after, he, -⟩
  simp at he

theorem stands_literal : Stands (.literal value :: tokens) front marker ↔
    ∃ rest, front = value ++ rest ∧ Stands tokens rest marker := by
  rw [stands_cons, or_iff_right]
  · rfl
  · rintro ⟨-, rfl, hm⟩
    cases hm

theorem stands_consLiteral : Stands (consLiteral c tokens) front marker ↔
    ∃ rest, front = c :: rest ∧ Stands tokens rest marker := by
  cases tokens with
  | nil => exact stands_literal
  | cons token tokens =>
    cases token with
    | literal text =>
      simp only [consLiteral, stands_literal, List.cons_append]
      constructor
      · rintro ⟨rest, rfl, h⟩
        exact ⟨_, rfl, rest, rfl, h⟩
      · rintro ⟨_, rfl, rest, rfl, h⟩
        exact ⟨rest, rfl, h⟩
    | named name | wildcard name => exact stands_literal

/-- A reader finds the markers that the text has, where it has them. -/
theorem stands_of_scan (h : scan offset atStart cs = .ok tokens) :
    Stands tokens front marker ↔ MarkerAt atStart cs front marker := by
  -- The reader goes on behind a marker's name, where no segment can have begun, and otherwise by
  -- one character.
  fun_induction scan offset atStart cs generalizing tokens front with
  | case1 =>
    cases h
    exact iff_of_false not_stands_nil not_markerAt_nil
  | case2 => cases h
  | case3 _ _ c cs hc n ame hn ih =>
    obtain ⟨later, hr, h⟩ := bind_ok.mp h
    cases h
    simp only [Bool.and_eq_true, beq_iff_eq] at hc
    obtain ⟨rfl, rfl⟩ := hc
    rw [stands_cons, markerAt_marker (.inl rfl), leading?, hn]
    simp only [ih hr, text, List.cons_append, Option.some.injEq]
    grind [isMarker]
  | case4 _ _ c cs _ hc name =>
    rename_i ih
    obtain ⟨later, hr, h⟩ := bind_ok.mp h
    cases h
    simp only [Bool.and_eq_true, beq_iff_eq] at hc
    obtain ⟨rfl, rfl⟩ := hc
    rw [stands_cons, markerAt_marker (.inr rfl), leading?]
    simp only [ih hr, text, List.cons_append, Option.some.injEq]
    grind [isMarker]
  | case5 _ _ c cs colon star ih =>
    obtain ⟨later, hr, h⟩ := bind_ok.mp h
    cases h
    rw [stands_consLiteral, markerAt_literal colon star]
    simp only [ih hr]

-- ---------------------------------------------------------------------------
-- Nameless markers
-- ---------------------------------------------------------------------------

def byteSize (cs : List Char) : Nat := (String.ofList cs).utf8ByteSize

@[simp] theorem byteSize_nil : byteSize [] = 0 := rfl

@[simp] theorem byteSize_cons (c : Char) (cs : List Char) :
    byteSize (c :: cs) = c.utf8Size + byteSize cs := by
  simp [byteSize]

@[simp] theorem byteSize_append (cs rest : List Char) :
    byteSize (cs ++ rest) = byteSize cs + byteSize rest := by
  simp [byteSize]

theorem utf8Size_nameChar (h : isNameChar c = true) : c.utf8Size = 1 := by
  rw [Char.utf8Size_eq_one_iff]
  simp only [isNameChar, Char.isAlphanum, Char.isAlpha, Char.isUpper, Char.isLower, Char.isDigit,
    Bool.or_eq_true, Bool.and_eq_true, decide_eq_true_eq, beq_iff_eq] at h
  rcases h with ((⟨-, h⟩ | ⟨-, h⟩) | ⟨-, h⟩) | rfl
  · exact UInt32.le_trans h (by decide)
  · exact UInt32.le_trans h (by decide)
  · exact UInt32.le_trans h (by decide)
  · decide

theorem byteSize_name (h : ∀ c ∈ value, isNameChar c = true) : byteSize value = value.length := by
  induction value with
  | nil => rfl
  | cons c value ih =>
    obtain ⟨hc, h⟩ := List.forall_mem_cons.mp h
    simp [utf8Size_nameChar hc, ih h, Nat.add_comm]

theorem First.behind {p q : List Char → Prop} (h : First q rest)
    (beyond : ∀ front, p front ↔ ∃ rest, front = value ++ rest ∧ q rest) :
    First p (value ++ rest) := by
  refine ⟨(beyond _).mpr ⟨rest, rfl, h.1⟩, fun other ho => ?_⟩
  obtain ⟨other, rfl, hq⟩ := (beyond _).mp ho
  simpa using h.2 other hq

theorem bind_pure_error {ε α β : Type} {x : Except ε α} {f : α → β} {e : ε} :
    (do let a ← x; return f a) = .error e ↔ x = .error e := by
  cases x <;> simp [bind, Except.bind, pure, Except.pure]

/-- A reader that fails tells where the first `:` is that begins a segment without a name. -/
theorem first_of_scan_error (h : scan offset atStart cs = .error position) :
    ∃ front, First (MarkerAt atStart cs · (.named [])) front ∧
      position = offset + byteSize front := by
  have named : ∀ cs : List Char,
      byteSize (cs.takeWhile isNameChar) = (cs.takeWhile isNameChar).length :=
    fun _ => byteSize_name fun _ hc => List.mem_takeWhile_imp hc
  fun_induction scan offset atStart cs with
  | case1 => cases h
  | case2 _ _ c cs hc hn =>
    cases h
    simp only [Bool.and_eq_true, beq_iff_eq] at hc
    obtain ⟨rfl, rfl⟩ := hc
    refine ⟨[], ⟨(markerAt_marker (.inl rfl)).mpr (.inl ⟨rfl, ?_⟩), by simp⟩, rfl⟩
    rw [leading?, hn]
  | case3 _ _ c cs hc n ame hn ih =>
    obtain ⟨rest, first, rfl⟩ := ih (bind_pure_error.mp h)
    simp only [Bool.and_eq_true, beq_iff_eq] at hc
    obtain ⟨rfl, rfl⟩ := hc
    refine ⟨(':' :: cs.takeWhile isNameChar) ++ rest, first.behind fun front => ?_, ?_⟩
    · rw [markerAt_marker (.inl rfl), or_iff_right]
      · rfl
      · simp [leading?, hn]
    · have one : (':').utf8Size = 1 := rfl
      rw [byteSize_append, byteSize_cons, named, hn, one]
      omega
  | case4 _ _ c cs _ hc name =>
    rename_i ih
    obtain ⟨rest, first, rfl⟩ := ih (bind_pure_error.mp h)
    simp only [Bool.and_eq_true, beq_iff_eq] at hc
    obtain ⟨rfl, rfl⟩ := hc
    refine ⟨('*' :: cs.takeWhile isNameChar) ++ rest, first.behind fun front => ?_, ?_⟩
    · rw [markerAt_marker (.inr rfl), or_iff_right]
      · rfl
      · simp [leading?]
    · have one : ('*').utf8Size = 1 := rfl
      rw [byteSize_append, byteSize_cons, named, one]
      simp only [name]
      omega
  | case5 _ _ c cs colon star ih =>
    obtain ⟨rest, first, rfl⟩ := ih (bind_pure_error.mp h)
    refine ⟨[c] ++ rest, first.behind fun front => markerAt_literal colon star, ?_⟩
    simp
    omega

theorem mem_consLiteral (hm : marker.isMarker = true) :
    marker ∈ consLiteral c tokens ↔ marker ∈ tokens := by
  have apart : ∀ text, marker ≠ .literal text := by
    rintro text rfl
    cases hm
  cases tokens with
  | nil => simp [consLiteral, apart]
  | cons first tokens => cases first <;> simp [consLiteral, apart]

theorem named_of_scan (h : scan offset atStart cs = .ok tokens) : .named [] ∉ tokens := by
  fun_induction scan offset atStart cs generalizing tokens with
  | case1 =>
    cases h
    simp
  | case2 => cases h
  | case3 _ _ _ _ _ _ _ _ ih =>
    obtain ⟨later, hr, h⟩ := bind_ok.mp h
    cases h
    simpa using ih hr
  | case4 =>
    rename_i ih
    obtain ⟨later, hr, h⟩ := bind_ok.mp h
    cases h
    simpa using ih hr
  | case5 _ _ _ _ _ _ ih =>
    obtain ⟨later, hr, h⟩ := bind_ok.mp h
    cases h
    rw [mem_consLiteral rfl]
    exact ih hr

-- ---------------------------------------------------------------------------
-- Repeated names
-- ---------------------------------------------------------------------------

theorem givenName_eq_some (named : token ≠ .named []) :
    token.givenName? = some value ↔ token.name = value ∧ value ≠ [] := by
  cases token with
  | literal text => simp [givenName?, name, eq_comm]
  | named given =>
    have : given ≠ [] := fun he => named (congrArg _ he)
    simp only [givenName?, name, Option.some.injEq]
    exact ⟨fun he => ⟨he, he ▸ this⟩, And.left⟩
  | wildcard given =>
    cases given with
    | nil => simp [givenName?, name, eq_comm]
    | cons c given =>
      simp only [givenName?, name, Option.some.injEq]
      exact ⟨fun he => ⟨he, he ▸ List.cons_ne_nil c given⟩, And.left⟩

end Token

theorem firstRepeat_eq_none {seen names : List (List Char)} :
    firstRepeat seen names = none ↔ names.Nodup ∧ ∀ name ∈ names, name ∉ seen := by
  induction names generalizing seen with
  | nil => simp [firstRepeat]
  | cons name names ih =>
    by_cases hs : name ∈ seen
    · simp [firstRepeat, hs]
    · simp only [firstRepeat, hs, if_false, ih, List.nodup_cons, List.mem_cons, not_or]
      grind

theorem firstRepeat_eq_some {seen names : List (List Char)} {name : List Char}
    (h : firstRepeat seen names = some name) : ∃ before after, names = before ++ name :: after ∧
      (name ∈ seen ∨ name ∈ before) ∧ before.Nodup ∧ ∀ other ∈ before, other ∉ seen := by
  induction names generalizing seen with
  | nil => cases h
  | cons first names ih =>
    by_cases hs : first ∈ seen
    · simp only [firstRepeat, hs, if_true, Option.some.injEq] at h
      subst h
      exact ⟨[], names, rfl, .inl hs, .nil, by simp⟩
    · simp only [firstRepeat, hs, if_false] at h
      obtain ⟨before, after, rfl, repeated, once, unseen⟩ := ih h
      refine ⟨first :: before, after, rfl, ?_, ?_, ?_⟩
      · grind
      · grind
      · grind

namespace Token

/-- Behind `before` the tokens go on with a marker of the name, which one of these has already. -/
def RepeatedBehind (tokens : List Token) (given : List Char) (before : List Token) : Prop :=
  ∃ marker after, tokens = before ++ marker :: after ∧ marker.givenName? = some given ∧
    given ∈ before.filterMap givenName?

variable {cs front given : List Char} {tokens before before' after after' : List Token}
  {marker marker' : Token}

theorem isMarker_of_givenName (h : marker.givenName? = some given) : marker.isMarker = true := by
  cases marker with
  | literal text => cases h
  | named name | wildcard name => rfl

/-- Of two tokens the one with less text in front of it comes first. -/
theorem before_of_shorter (h : before ++ marker :: after = before' ++ marker' :: after')
    (shorter : (before.flatMap text).length < (before'.flatMap text).length) :
    ∃ mid, before' = before ++ marker :: mid := by
  rcases List.append_eq_append_iff.mp h with ⟨mid, rfl, hm⟩ | ⟨mid, rfl, -⟩
  · cases mid with
    | nil => simp at shorter
    | cons token mid =>
      obtain ⟨rfl, -⟩ := List.cons.inj hm
      exact ⟨mid, rfl⟩
  · simp at shorter

/-- Where names are repeated, told of the tokens that were read. -/
theorem repeats_of_scan (h : scan 0 true cs = .ok tokens) :
    (given ≠ [] ∧ ∃ earlier other marker, earlier.length < front.length ∧
      MarkerAt true cs earlier other ∧ other.name = given ∧
      MarkerAt true cs front marker ∧ marker.name = given) ↔
    ∃ before, before.flatMap text = front ∧ RepeatedBehind tokens given before := by
  have named : ∀ token ∈ tokens, token ≠ .named [] := by
    rintro token hm rfl
    exact named_of_scan h hm
  -- Every token has some text, so of two markers the earlier one has less text before it.
  simp only [← stands_of_scan h]
  constructor
  · rintro ⟨hne, earlier, other, marker, shorter, ⟨-, first, mid, he, rfl⟩, ho,
      ⟨hm, before, after, rfl, rfl⟩, rfl⟩
    obtain ⟨mid, rfl⟩ := before_of_shorter he.symm shorter
    refine ⟨_, rfl, marker, after, rfl, ?_, ?_⟩
    · exact (givenName_eq_some (named _ (by simp))).mpr ⟨rfl, hne⟩
    · refine List.mem_filterMap.mpr ⟨other, by simp, ?_⟩
      exact (givenName_eq_some (named _ (by simp))).mpr ⟨ho, hne⟩
  · rintro ⟨before, rfl, marker, after, rfl, hg, hr⟩
    obtain ⟨other, ho, hog⟩ := List.mem_filterMap.mp hr
    obtain ⟨first, mid, rfl⟩ := List.append_of_mem ho
    obtain ⟨hmn, hne⟩ := (givenName_eq_some (named marker (by simp))).mp hg
    obtain ⟨hon, -⟩ := (givenName_eq_some (named other (by simp))).mp hog
    have written : other.text ≠ [] := by
      cases other with
      | literal text => cases hog
      | named name | wildcard name => exact List.cons_ne_nil _ _
    refine ⟨hne, _, other, marker, ?_,
      ⟨isMarker_of_givenName hog, first, mid ++ marker :: after, by simp, rfl⟩, hon,
      ⟨isMarker_of_givenName hg, _, after, rfl, rfl⟩, hmn⟩
    have := List.length_pos_iff.mpr written
    simp
    omega

theorem exists_repeated (h : firstRepeat [] (tokens.filterMap givenName?) = some given) :
    ∃ before, RepeatedBehind tokens given before ∧ (before.filterMap givenName?).Nodup := by
  obtain ⟨names, _, he, repeated, once, -⟩ := firstRepeat_eq_some h
  obtain ⟨before, rest, rfl, rfl, hr⟩ := List.filterMap_eq_append_iff.mp he
  obtain ⟨skipped, marker, after, rfl, hs, hg, -⟩ := List.filterMap_eq_cons_iff.mp hr
  have unnamed : skipped.filterMap givenName? = [] := List.filterMap_eq_nil_iff.mpr hs
  refine ⟨before ++ skipped, ⟨marker, after, by simp, hg, ?_⟩, ?_⟩
  · simpa [unnamed] using repeated
  · simpa [unnamed] using once

theorem not_repeated (h : firstRepeat [] (tokens.filterMap givenName?) = none) :
    ¬ RepeatedBehind tokens given before := by
  rintro ⟨marker, after, rfl, hg, hr⟩
  obtain ⟨once, -⟩ := firstRepeat_eq_none.mp h
  simp only [List.filterMap_append, List.filterMap_cons, hg] at once
  exact (List.nodup_append.mp once).2.2 _ hr _ List.mem_cons_self rfl

/-- Before the first repeated name none is repeated. -/
theorem RepeatedBehind.first (h : RepeatedBehind tokens given before)
    (once : (before.filterMap givenName?).Nodup) (h' : RepeatedBehind tokens given' before') :
    (before.flatMap text).length ≤ (before'.flatMap text).length := by
  obtain ⟨marker, after, rfl, -, -⟩ := h
  obtain ⟨marker', after', he, hg, hr⟩ := h'
  refine Nat.not_lt.mp fun shorter => ?_
  obtain ⟨mid, rfl⟩ := before_of_shorter he.symm shorter
  simp only [List.filterMap_append, List.filterMap_cons, hg] at once
  exact (List.nodup_append.mp once).2.2 _ hr _ List.mem_cons_self rfl

-- ---------------------------------------------------------------------------
-- Where literals stand
-- ---------------------------------------------------------------------------

variable {starts : Bool} {token : Token}

theorem Placed.rest (h : Placed starts (before ++ after)) : ∃ starts, Placed starts after := by
  induction before generalizing starts with
  | nil => exact ⟨starts, h⟩
  | cons first before ih =>
    cases h with
    | literal _ _ h | marker _ _ h => exact ih h

theorem Placed.literal_ne_nil (h : Placed starts tokens) {literal : List Char}
    (hm : .literal literal ∈ tokens) : literal ≠ [] := by
  obtain ⟨before, after, rfl⟩ := List.append_of_mem hm
  obtain ⟨starts, h⟩ := h.rest
  cases h with
  | literal hne => exact hne
  | marker _ hm => cases hm

theorem Placed.apart (h : Placed starts tokens) (literal other : List Char) :
    ¬ [.literal literal, .literal other] <:+: tokens := by
  rintro ⟨before, after, rfl⟩
  rw [List.append_assoc] at h
  obtain ⟨starts, h⟩ := h.rest
  cases h with
  | literal _ single => exact single _ _ rfl
  | marker _ hm => cases hm

/-- A marker that does not begin its segment has the end of one in front of it. -/
theorem Placed.segment_end (h : Placed false (before ++ marker :: after))
    (hm : marker.isMarker = true) :
    ∃ literal, .literal literal ∈ before ∧ endsSegment literal = true := by
  induction before with
  | nil =>
    cases h with
    | literal => cases hm
  | cons first before ih =>
    cases h with
    | @literal _ _ literal _ _ h =>
      cases he : endsSegment literal with
      | true => exact ⟨literal, List.mem_cons_self, he⟩
      | false =>
        rw [he] at h
        obtain ⟨found, hf, ends⟩ := ih h
        exact ⟨found, List.mem_cons_of_mem _ hf, ends⟩

theorem Placed.between {between : List Token}
    (h : Placed starts (before ++ marker :: (between ++ marker' :: after)))
    (hm : marker.isMarker = true) (hm' : marker'.isMarker = true) :
    ∃ literal, .literal literal ∈ between ∧ endsSegment literal = true := by
  obtain ⟨starts, h⟩ := h.rest
  cases h with
  | literal => cases hm
  | marker _ _ h => exact h.segment_end hm'

theorem paramName_eq (named : token ≠ .named []) :
    token.paramName?.map String.ofList = if token.isMarker then some token.label else none := by
  cases token with
  | literal text => rfl
  | named given =>
    have : given ≠ [] := fun he => named (congrArg _ he)
    simp [paramName?, isMarker, label, name, this]
  | wildcard given => cases given <;> rfl

theorem paramNames_eq (named : .named [] ∉ tokens) :
    (tokens.filterMap paramName?).map String.ofList = (tokens.filter isMarker).map label := by
  rw [List.map_filterMap]
  induction tokens with
  | nil => rfl
  | cons token tokens ih =>
    obtain ⟨first, later⟩ := not_or.mp fun h => named (List.mem_cons.mpr h)
    rw [List.filterMap_cons, paramName_eq (Ne.symm first), List.filter_cons, ih later]
    cases token.isMarker <;> rfl

theorem fill_nil (tokens : List Token) : fill tokens [] = tokens.flatMap text := by
  induction tokens with
  | nil => rfl
  | cons token tokens ih =>
    rw [List.flatMap_cons, ← ih]
    cases token <;> rfl

end Token

namespace Template

open Token (MarkerAt Stands First)

/-- Behind `front` a `:` begins a segment and has no name. -/
def Unnamed (text : String) (front : List Char) : Prop :=
  MarkerAt true text.toList front (.named [])

def Repeats (text : String) (name front : List Char) : Prop :=
  name ≠ [] ∧ ∃ earlier other marker, earlier.length < front.length ∧
    MarkerAt true text.toList earlier other ∧ other.name = name ∧
    MarkerAt true text.toList front marker ∧ marker.name = name

structure Spells (text : String) (t : Template) : Prop where
  raw : t.raw = text
  written : t.tokens.flatMap Token.text = text.toList
  markers : ∀ front marker, Stands t.tokens front marker ↔ MarkerAt true text.toList front marker
  literal_ne_nil : ∀ literal, .literal literal ∈ t.tokens → literal ≠ []
  apart : ∀ literal other, ¬ [.literal literal, .literal other] <:+: t.tokens
  between : ∀ before marker between other after,
    t.tokens = before ++ marker :: (between ++ other :: after) → marker.isMarker = true →
    other.isMarker = true → ∃ literal, .literal literal ∈ between ∧ Token.endsSegment literal = true
  names : t.names = (t.tokens.filter Token.isMarker).map Token.label
  resolved : t.resolve [] = ⟨text, t.tokens.all (!·.isMarker)⟩

/-- What a reader makes of a text: it tells of the first fault, the nameless marker before the
repeated name, or gives the template. -/
inductive Reads (text : String) : Except TemplateError Template → Prop
  | unnamed {front} : First (Unnamed text) front →
      Reads text (.error (.emptyParameterName text (Token.byteSize front)))
  | repeated {front name} : (∀ front, ¬ Unnamed text front) →
      First (fun front => ∃ name, Repeats text name front) front → Repeats text name front →
      Reads text (.error (.duplicateParameter text (String.ofList name)))
  | spelt {t} : (∀ front, ¬ Unnamed text front) → (∀ front name, ¬ Repeats text name front) →
      Spells text t → Reads text (.ok t)

variable {text : String} {t : Template} {tokens : List Token}

theorem not_unnamed (h : Token.scan 0 true text.toList = .ok tokens) (front : List Char) :
    ¬ Unnamed text front := by
  intro unnamed
  obtain ⟨-, before, after, rfl, -⟩ := (Token.stands_of_scan h).mpr unnamed
  exact Token.named_of_scan h (by simp)

theorem spells_of_parse (h : parse text = .ok t) : Spells text t := by
  obtain ⟨raw, scanned⟩ := scan_of_parse h
  have placed := placed_of_parse h
  have written := Token.fill_of_scan scanned
  constructor
  · exact raw
  · rwa [← Token.fill_nil]
  · exact fun front marker => Token.stands_of_scan scanned
  · exact fun literal => placed.literal_ne_nil
  · exact placed.apart
  · intro before marker between other after he hm ho
    rw [he] at placed
    exact placed.between hm ho
  · exact Token.paramNames_eq (Token.named_of_scan scanned)
  · simp only [resolve, List.map_nil, written, String.ofList_toList, List.length_nil, Nat.le_zero,
      Target.mk.injEq, true_and]
    rw [Bool.eq_iff_iff]
    simp [Token.markerCount, List.countP_eq_zero]

theorem reads_parse (text : String) : Reads text (parse text) := by
  cases scanned : Token.scan 0 true text.toList with
  | error position =>
    obtain ⟨front, first, rfl⟩ := Token.first_of_scan_error scanned
    have failed : parse text = .error (.emptyParameterName text (Token.byteSize front)) := by
      simp [parse, scanned]
    rw [failed]
    exact .unnamed first
  | ok tokens =>
    have unnamed := not_unnamed scanned
    cases names : firstRepeat [] (tokens.filterMap Token.givenName?) with
    | none =>
      have read : parse text = .ok ⟨text, tokens⟩ := by
        simp [parse, scanned, names]
      have once : ∀ front name, ¬ Repeats text name front := by
        intro front name repeats
        obtain ⟨before, -, behind⟩ := (Token.repeats_of_scan scanned).mp repeats
        exact Token.not_repeated names behind
      rw [read]
      exact .spelt unnamed once (spells_of_parse read)
    | some name =>
      have failed : parse text = .error (.duplicateParameter text (String.ofList name)) := by
        simp [parse, scanned, names]
      obtain ⟨before, behind, once⟩ := Token.exists_repeated names
      have repeats : Repeats text name (before.flatMap Token.text) :=
        (Token.repeats_of_scan scanned).mpr ⟨before, rfl, behind⟩
      rw [failed]
      refine .repeated unnamed ⟨⟨name, repeats⟩, ?_⟩ repeats
      rintro front ⟨other, later⟩
      obtain ⟨before', rfl, behind'⟩ := (Token.repeats_of_scan scanned).mp later
      exact behind.first once behind'

namespace Reads

variable {result : Except TemplateError Template}

theorem unnamed_iff (reads : Reads text result) :
    (∃ position, result = .error (.emptyParameterName text position)) ↔
      ∃ front, Unnamed text front := by
  cases reads with
  | @unnamed front first =>
    have faulty : ∃ front, Unnamed text front := ⟨front, first.1⟩
    simp [faulty]
  | repeated unnamed | spelt unnamed => simp [unnamed]

theorem unnamed_position (reads : Reads text result)
    (failed : result = .error (.emptyParameterName text position)) :
    ∃ front, First (Unnamed text) front ∧ position = Token.byteSize front := by
  cases reads with
  | @unnamed front first =>
    cases failed
    exact ⟨front, first, rfl⟩
  | repeated | spelt => cases failed

theorem repeated_iff (reads : Reads text result) :
    (∃ name, result = .error (.duplicateParameter text name)) ↔
      (∀ front, ¬ Unnamed text front) ∧ ∃ front name, Repeats text name front := by
  cases reads with
  | @unnamed front first =>
    have faulty : ∃ front, Unnamed text front := ⟨front, first.1⟩
    simp [faulty, ← not_exists]
  | @repeated front name unnamed _ repeats =>
    have faulty : ∃ front name, Repeats text name front := ⟨front, name, repeats⟩
    simp [unnamed, faulty]
  | spelt _ once => simp [once]

theorem repeated_name (reads : Reads text result)
    (failed : result = .error (.duplicateParameter text name)) :
    ∃ front, First (fun front => ∃ name, Repeats text name front) front ∧
      Repeats text name.toList front := by
  cases reads with
  | @repeated front _ _ first repeats =>
    cases failed
    exact ⟨front, first, by simpa using repeats⟩
  | unnamed | spelt => cases failed

theorem spelt_iff (reads : Reads text result) :
    (∃ t, result = .ok t) ↔
      (∀ front, ¬ Unnamed text front) ∧ ∀ front name, ¬ Repeats text name front := by
  cases reads with
  | @unnamed front first =>
    have faulty : ∃ front, Unnamed text front := ⟨front, first.1⟩
    simp [faulty, ← not_exists]
  | @repeated front name _ _ repeats =>
    have faulty : ∃ front name, Repeats text name front := ⟨front, name, repeats⟩
    simp [faulty, ← not_exists]
  | spelt unnamed once => simp [unnamed, once]

theorem spells (reads : Reads text result) (read : result = .ok t) : Spells text t := by
  cases reads with
  | spelt _ _ spells =>
    cases read
    exact spells
  | unnamed | repeated => cases read

end Reads

/-- Whether a text can be read, which fault is reported where it cannot, and what its template is
where it can, by the positions of its markers. -/
theorem parse_by_position (text : String) :
    ((∃ position, parse text = .error (.emptyParameterName text position)) ↔
      ∃ front, Unnamed text front) ∧
    (∀ position, parse text = .error (.emptyParameterName text position) →
      ∃ front, First (Unnamed text) front ∧ position = Token.byteSize front) ∧
    ((∃ name, parse text = .error (.duplicateParameter text name)) ↔
      (∀ front, ¬ Unnamed text front) ∧ ∃ front name, Repeats text name front) ∧
    (∀ name, parse text = .error (.duplicateParameter text name) →
      ∃ front, First (fun front => ∃ name, Repeats text name front) front ∧
        Repeats text name.toList front) ∧
    ((∃ t, parse text = .ok t) ↔
      (∀ front, ¬ Unnamed text front) ∧ ∀ front name, ¬ Repeats text name front) ∧
    ∀ t, parse text = .ok t → Spells text t := by
  have reads := reads_parse text
  refine ⟨reads.unnamed_iff, ?_, reads.repeated_iff, ?_, reads.spelt_iff, ?_⟩
  · exact fun position failed => reads.unnamed_position failed
  · exact fun name failed => reads.repeated_name failed
  · exact fun t read => reads.spells read

theorem parse_by_position_competing :
    (∃ front, First (Unnamed "é/:a/*/:?:a/:") front ∧ Token.byteSize front = 8) ∧
    (¬ ∃ t, parse "é/:a/*/:?:a/:" = .ok t) ∧
    (∃ front, First (fun front => ∃ name, Repeats "x/:a/*b?:a" name front) front ∧
      Repeats "x/:a/*b?:a" ['a'] front) ∧
    Spells ":a:b/**/c?*" ⟨":a:b/**/c?*", [.named ['a'], .literal [':', 'b', '/'], .wildcard [],
      .literal ['*', '/', 'c', '?'], .wildcard []]⟩ := by
  have both : parse "é/:a/*/:?:a/:" = .error (.emptyParameterName "é/:a/*/:?:a/:" 8) := by cbv
  have twice : parse "x/:a/*b?:a" = .error (.duplicateParameter "x/:a/*b?:a" "a") := by cbv
  have fine : parse ":a:b/**/c?*" = .ok ⟨":a:b/**/c?*", [.named ['a'], .literal [':', 'b', '/'],
      .wildcard [], .literal ['*', '/', 'c', '?'], .wildcard []]⟩ := by cbv
  obtain ⟨-, unnamed, -, -, readable, -⟩ := parse_by_position "é/:a/*/:?:a/:"
  obtain ⟨-, -, -, repeated, -, -⟩ := parse_by_position "x/:a/*b?:a"
  obtain ⟨-, -, -, -, -, spelt⟩ := parse_by_position ":a:b/**/c?*"
  refine ⟨?_, ?_, repeated _ twice, spelt _ fine⟩
  · obtain ⟨front, first, size⟩ := unnamed _ both
    exact ⟨front, first, size.symm⟩
  · rintro ⟨t, read⟩
    cases both.symm.trans read

end Template

end RouteBus
