import RouteBus.Proofs.Bus.Topics
import RouteBus.Proofs.Template.Grammar

/-!
# What a last wildcard takes

A wildcard behind text without markers takes all that is left of a topic, separators and all, as
long as it is one line. It takes no line feed, although a name in its place does.
-/

namespace RouteBus

namespace Token

variable {atStart : Bool} {cs front topic : List Char} {offset : Nat} {tokens : List Token}
  {marker : Token} {values : List (List Char)}

/-- Text is inert when no marker stands anywhere in it. -/
theorem inert_iff : Inert atStart cs ↔ ∀ front marker, ¬ MarkerAt atStart cs front marker := by
  induction cs generalizing atStart with
  | nil => simp [Inert, not_markerAt_nil]
  | cons c cs ih =>
    rw [Inert, ih]
    constructor
    · rintro ⟨plain, rest⟩ front marker h
      rcases markerAt_cons.mp h with ⟨-, starts, hl⟩ | ⟨_, -, h⟩
      · obtain ⟨colon, star⟩ := plain starts
        rw [leading_cons colon star] at hl
        cases hl
      · exact rest _ _ h
    · intro none
      refine ⟨fun starts => ⟨?_, ?_⟩, fun front marker h => ?_⟩
      · rintro rfl
        exact none [] _ (markerAt_cons.mpr (.inl ⟨rfl, starts, rfl⟩))
      · rintro rfl
        exact none [] _ (markerAt_cons.mpr (.inl ⟨rfl, starts, rfl⟩))
      · exact none (c :: front) marker (markerAt_cons.mpr (.inr ⟨front, rfl, h⟩))

/-- Text without markers is read as it stands, and what follows it behind it. -/
theorem scan_append (inert : Inert atStart front) (back : List Char) :
    scan offset atStart (front ++ back) =
      (front.foldr consLiteral ·) <$>
        scan (offset + byteSize front) (segmentStart atStart front) back := by
  induction front generalizing offset atStart with
  | nil => cases h : scan offset atStart back <;> simp [segmentStart, h]
  | cons c front ih =>
    obtain ⟨plain, inert⟩ := inert
    have colon : (atStart && c == ':') = false := by
      cases atStart <;> simp_all
    have star : (atStart && c == '*') = false := by
      cases atStart <;> simp_all
    rw [List.cons_append, scan, colon, star, ih inert, segmentStart_cons, byteSize_cons,
      Nat.add_assoc]
    generalize scan _ _ back = scanned
    cases scanned <;> rfl

def Legible (marker : Token) : Prop :=
  marker.isMarker = true ∧ marker ≠ .named [] ∧ ∀ c ∈ marker.name, isNameChar c = true

theorem scan_marker (legible : Legible marker) : scan offset true marker.text = .ok [marker] := by
  obtain ⟨hm, named, chars⟩ := legible
  have rest : ∀ offset, scan offset false [] = .ok [] := fun offset => by rw [scan]
  cases marker with
  | literal text => cases hm
  | named name =>
    have all : name.takeWhile isNameChar = name := List.takeWhile_eq_self_iff.mpr chars
    have left : name.dropWhile isNameChar = [] := List.dropWhile_eq_nil_iff.mpr chars
    cases name with
    | nil => exact absurd rfl named
    | cons n ame =>
      rw [text, scan]
      simp only [Bool.true_and, beq_self_eq_true, if_true, all, left, rest]
      rfl
  | wildcard name =>
    have all : name.takeWhile isNameChar = name := List.takeWhile_eq_self_iff.mpr chars
    have left : name.dropWhile isNameChar = [] := List.dropWhile_eq_nil_iff.mpr chars
    rw [text, scan]
    simp only [all, left, rest]
    rfl

theorem filterMap_givenName_consLiteral (c : Char) (tokens : List Token) :
    (consLiteral c tokens).filterMap givenName? = tokens.filterMap givenName? := by
  cases tokens with
  | nil => rfl
  | cons token tokens => cases token <;> rfl

theorem filterMap_givenName_foldr (front : List Char) (tokens : List Token) :
    (front.foldr consLiteral tokens).filterMap givenName? = tokens.filterMap givenName? := by
  induction front with
  | nil => rfl
  | cons c front ih => rw [List.foldr_cons, filterMap_givenName_consLiteral, ih]

theorem factors_foldr : Factors (front.foldr consLiteral tokens) topic values ↔
    ∃ rest, topic = front ++ rest ∧ Factors tokens rest values := by
  induction front generalizing topic with
  | nil => simp
  | cons c front ih =>
    rw [List.foldr_cons, factors_consLiteral]
    constructor
    · rintro ⟨_, rfl, h⟩
      obtain ⟨rest, rfl, hrest⟩ := ih.mp h
      exact ⟨rest, rfl, hrest⟩
    · rintro ⟨rest, rfl, h⟩
      exact ⟨_, rfl, ih.mpr ⟨rest, rfl, h⟩⟩

/-- A marker alone takes the whole of what it admits. -/
theorem factors_alone (hm : marker.isMarker = true) :
    Factors [marker] topic values ↔ marker.Admits topic ∧ values = [topic] := by
  rw [factors_marker hm]
  constructor
  · rintro ⟨value, rest, others, rfl, rfl, admits, h⟩
    obtain ⟨rfl, rfl⟩ := factors_nil.mp h
    rw [List.append_nil]
    exact ⟨admits, rfl⟩
  · rintro ⟨admits, rfl⟩
    exact ⟨topic, [], [], (List.append_nil _).symm, rfl, admits, .nil⟩

end Token

namespace Template

/-- Text to put a marker behind: it has none of its own, and a segment begins where it ends. -/
structure Stem (front : String) : Prop where
  unmarked : ∀ before marker, ¬ Token.MarkerAt true front.toList before marker
  opens : Token.segmentStart true front.toList = true

def IsName (name : String) : Prop := ∀ c ∈ name.toList, isNameChar c = true

def endingIn (front : String) (marker : Token) : Template :=
  ⟨front ++ String.ofList marker.text, front.toList.foldr Token.consLiteral [marker]⟩

variable {front topic : String} {marker : Token} {values : List String}

theorem parse_endingIn (stem : Stem front) (legible : marker.Legible) :
    parse (front ++ String.ofList marker.text) = .ok (endingIn front marker) := by
  have scanned : Token.scan 0 true (front ++ String.ofList marker.text).toList =
      .ok (endingIn front marker).tokens := by
    rw [String.toList_append, String.toList_ofList,
      Token.scan_append (Token.inert_iff.mpr stem.unmarked), stem.opens,
      Token.scan_marker legible]
    rfl
  have once : firstRepeat [] ((endingIn front marker).tokens.filterMap Token.givenName?) =
      none := by
    rw [endingIn, Token.filterMap_givenName_foldr]
    cases h : marker.givenName? <;> simp [h, firstRepeat]
  simp only [parse, scanned, once]
  rfl

theorem factors_endingIn (hm : marker.isMarker = true) :
    (endingIn front marker).Factors topic values ↔
      ∃ rest : String, topic = front ++ rest ∧ marker.Admits rest.toList ∧ values = [rest] := by
  rw [Factors, endingIn, Token.factors_foldr]
  simp only [Token.factors_alone hm]
  constructor
  · rintro ⟨rest, he, admits, hv⟩
    refine ⟨String.ofList rest, ?_, by rwa [String.toList_ofList], ?_⟩
    · exact String.toList_injective (by simpa using he)
    · exact map_toList_inj (by simpa using hv)
  · rintro ⟨rest, rfl, admits, rfl⟩
    exact ⟨rest.toList, String.toList_append, admits, rfl⟩

theorem test_endingIn (hm : marker.isMarker = true) : (endingIn front marker).test topic = true ↔
    ∃ rest : String, topic = front ++ rest ∧ marker.Admits rest.toList := by
  rw [test_iff_exists_factors]
  simp only [factors_endingIn hm]
  constructor
  · rintro ⟨_, rest, he, admits, -⟩
    exact ⟨rest, he, admits⟩
  · rintro ⟨rest, he, admits⟩
    exact ⟨_, rest, he, admits, rfl⟩

theorem extract_endingIn (stem : Stem front) (legible : marker.Legible) (rest : String) :
    (endingIn front marker).extract (front ++ rest) =
      if marker.Admits rest.toList then some [rest] else none := by
  have parsed := parse_endingIn stem legible
  have hm := legible.1
  split
  · rename_i admits
    refine (extract_eq_some_iff parsed).mpr ⟨(factors_endingIn hm).mpr ⟨rest, rfl, admits, rfl⟩, ?_⟩
    intro others h
    obtain ⟨other, he, -, rfl⟩ := (factors_endingIn hm).mp h
    rw [(String.append_right_inj _).mp he]
    exact .inl rfl
  · rename_i refused
    refine Option.eq_none_iff_forall_ne_some.mpr fun values found => refused ?_
    obtain ⟨other, he, admits, -⟩ := (factors_endingIn hm).mp (factors_of_extract parsed found)
    rwa [(String.append_right_inj _).mp he]

/-- A wildcard behind text without markers takes what is left of a topic exactly if that is one
line, and lookups pass no such topic by once there is a group for it. A name in its place takes
one segment, line feeds and all, so the wildcard takes what the name does where there is none. -/
theorem remainder_of_one_line (stem : Stem front) {name : String} (named : IsName name) :
    ∃ rest, parse (front ++ "*" ++ name) = .ok rest ∧
      (∀ s, rest.extract (front ++ s) = if '\n' ∈ s.toList then none else some [s]) ∧
      (∀ topic, rest.test topic = true ↔ ∃ s, topic = front ++ s ∧ '\n' ∉ s.toList) ∧
      (∀ groups g s, g ∈ groups → g.template = rest → '\n' ∉ s.toList →
        ∃ before winner after, Topics.FirstMatch (front ++ s) groups before winner after) ∧
      ∀ given, given ≠ "" → IsName given →
        ∃ segment, parse (front ++ ":" ++ given) = .ok segment ∧
          (∀ topic, segment.test topic = true ↔
            ∃ s, topic = front ++ s ∧ s ≠ "" ∧ ∀ c ∈ s.toList, isSeparator c = false) ∧
          ∀ topic, segment.test topic = true →
            (rest.test topic = true ↔ '\n' ∉ topic.toList.drop front.toList.length) := by
  have wild : Token.Legible (.wildcard name.toList) := ⟨rfl, nofun, named⟩
  have taken : ∀ topic, (endingIn front (.wildcard name.toList)).test topic = true ↔
      ∃ s, topic = front ++ s ∧ '\n' ∉ s.toList := fun topic => test_endingIn rfl
  have written : front ++ "*" ++ name =
      front ++ String.ofList (Token.wildcard name.toList).text := by
    apply String.toList_injective
    simp [Token.text]
  refine ⟨endingIn front (.wildcard name.toList), ?_, fun s => ?_, taken, ?_, ?_⟩
  · rw [written]
    exact parse_endingIn stem wild
  · rw [extract_endingIn stem wild]
    by_cases line : '\n' ∈ s.toList
    · rw [if_neg fun admits => admits line, if_pos line]
    · have admits : (Token.wildcard name.toList).Admits s.toList := line
      rw [if_pos admits, if_neg line]
  · intro groups g s hg ht line
    refine Topics.exists_firstMatch hg ?_
    rw [ht, taken]
    exact ⟨s, rfl, line⟩
  · intro given nonempty hn
    have one : Token.Legible (.named given.toList) := by
      refine ⟨rfl, fun he => nonempty ?_, hn⟩
      exact String.toList_injective (Token.named.inj he)
    have written : front ++ ":" ++ given =
        front ++ String.ofList (Token.named given.toList).text := by
      apply String.toList_injective
      simp [Token.text]
    have matched : ∀ topic, (endingIn front (.named given.toList)).test topic = true ↔
        ∃ s, topic = front ++ s ∧ s ≠ "" ∧ ∀ c ∈ s.toList, isSeparator c = false := by
      intro topic
      rw [test_endingIn rfl]
      simp [Token.Admits]
    refine ⟨endingIn front (.named given.toList), ?_, matched, fun topic h => ?_⟩
    · rw [written]
      exact parse_endingIn stem one
    · obtain ⟨s, rfl, -⟩ := (matched topic).mp h
      rw [taken, String.toList_append, List.drop_left]
      constructor
      · rintro ⟨other, he, line⟩
        rwa [(String.append_right_inj _).mp he]
      · exact fun line => ⟨s, rfl, line⟩

theorem stem_feeds : Stem "feeds/" := by
  have inert : Token.Inert true "feeds/".toList := by simp [Token.Inert]
  exact ⟨Token.inert_iff.mp inert, by decide⟩

theorem remainder_of_one_line_feeds :
    Stem "feeds/" ∧ IsName "all" ∧ ∃ rest, parse "feeds/*all" = .ok rest ∧
      rest.extract "feeds/" = some [""] ∧ rest.extract "feeds/7/a?b=:c" = some ["7/a?b=:c"] ∧
      rest.extract "feeds/7\n" = none ∧
      ∃ segment, parse "feeds/:id" = .ok segment ∧ segment.test "feeds/7" = true ∧
        rest.test "feeds/7" = true ∧ segment.test "feeds/7\n" = true ∧
        rest.test "feeds/7\n" = false := by
  have named : IsName "all" := by simp [IsName, isNameChar]
  have given : IsName "id" := by simp [IsName, isNameChar]
  obtain ⟨rest, parsed, extracts, -, -, segments⟩ := remainder_of_one_line stem_feeds named
  obtain ⟨segment, read, matched, within⟩ := segments "id" (by decide) given
  have one : segment.test "feeds/7" = true :=
    (matched _).mpr ⟨"7", rfl, by decide, by simp [isSeparator]⟩
  have two : segment.test "feeds/7\n" = true :=
    (matched _).mpr ⟨"7\n", rfl, by decide, by simp [isSeparator]⟩
  refine ⟨stem_feeds, named, rest, parsed, extracts "", extracts "7/a?b=:c", extracts "7\n",
    segment, read, one, (within _ one).mpr (by decide), two, ?_⟩
  exact Bool.eq_false_iff.mpr fun taken => (within _ two).mp taken (by decide)

/-- A wildcard does not absorb a remainder of two lines, although a name in its place does. -/
theorem second_line_not_absorbed :
    Stem "feeds/" ∧ ∃ rest segment, parse "feeds/*" = .ok rest ∧ parse "feeds/:x" = .ok segment ∧
      rest.extract "feeds/\n" ≠ some ["\n"] ∧ rest.test "feeds/\n" = false ∧
      segment.test "feeds/\n" = true := by
  let feeds : Token := .literal ['f', 'e', 'e', 'd', 's', '/']
  have wild : parse "feeds/*" = .ok ⟨"feeds/*", [feeds, .wildcard []]⟩ := by cbv
  have named : parse "feeds/:x" = .ok ⟨"feeds/:x", [feeds, .named ['x']]⟩ := by cbv
  exact ⟨stem_feeds, _, _, wild, named, by decide, by decide, by decide⟩

end Template

end RouteBus
