import RouteBus.Params
import RouteBus.Proofs.Template.Grammar

/-!
# Captured values by name

A value is looked up at the first position that its name stands at. No two markers have one name,
and no marker is named `*`, so for a marker with a name that position is its own, and for `*` it is
that of the first wildcard without a name.
-/

namespace RouteBus

namespace Params

variable {p : Params} {name : String} {i : Nat}

theorem get?_of_first (here : p.names[i]? = some name)
    (first : ∀ j < i, p.names[j]? ≠ some name) : p.get? name = p.values[i]? := by
  obtain ⟨hi, he⟩ := List.getElem?_eq_some_iff.mp here
  have found : p.names.findIdx? (· == name) = some i := by
    rw [List.findIdx?_eq_some_iff_getElem]
    refine ⟨hi, by simp [he], fun j hj => ?_⟩
    have other := first j hj
    rw [List.getElem?_eq_getElem (hj.trans hi)] at other
    simpa using other
  simp [get?, found]

theorem get?_of_not_mem (absent : name ∉ p.names) : p.get? name = none := by
  have missing : p.names.findIdx? (· == name) = none := by
    rw [List.findIdx?_eq_none_iff]
    intro other ho
    simpa using fun he : other = name => absent (he ▸ ho)
  simp [get?, missing]

theorem getElem?_toList {pair : String × String} :
    p.toList[i]? = some pair ↔ p.names[i]? = some pair.1 ∧ p.values[i]? = some pair.2 :=
  List.getElem?_zip_eq_some

end Params

namespace Token

variable {tokens : List Token} {marker : Token} {cs : List Char}

/-- The name of a marker that was read is made of name characters. -/
theorem name_of_scan (h : scan 0 true cs = .ok tokens) (hm : marker ∈ tokens)
    (marks : marker.isMarker = true) : ∀ c ∈ marker.name, isNameChar c = true := by
  obtain ⟨before, after, rfl⟩ := List.append_of_mem hm
  obtain ⟨-, back, -, leads⟩ := (stands_of_scan h).mp ⟨marks, before, after, rfl, rfl⟩
  unfold leading? at leads
  split at leads
  · cases leads
    exact fun c hc => List.mem_takeWhile_imp hc
  · cases leads
    exact fun c hc => List.mem_takeWhile_imp hc
  · cases leads

/-- Only a marker without a name goes by `*`. -/
theorem label_eq_star (named : ∀ c ∈ marker.name, isNameChar c = true) :
    marker.label = "*" ↔ marker.name = [] := by
  unfold label
  split
  · simp [*]
  · rename_i hne
    refine iff_of_false (fun he => ?_) hne
    have hn : marker.name = ['*'] := by simpa using congrArg String.toList he
    exact absurd (named '*' (by simp [hn])) (by decide)

theorem label_of_name (h : marker.name ≠ []) : marker.label = String.ofList marker.name :=
  if_neg h

end Token

namespace Template

def markers (t : Template) : List Token := t.tokens.filter Token.isMarker

/-- Parameters that hold these values, each under the name of its marker. -/
structure NamedBy (markers : List Token) (values : List String) (params : Params) : Prop where
  held : params.values = values
  declared : params.names = markers.map Token.label
  one_each : params.names.length = values.length
  /-- A marker with a name answers to it with its own value, -/
  own : ∀ (i : Nat) (marker : Token), markers[i]? = some marker → marker.name ≠ [] →
    ∃ value, values[i]? = some value ∧ params.get? (String.ofList marker.name) = some value
  /-- and no other marker has this name. -/
  apart : ∀ (i j : Nat) (marker other : Token), markers[i]? = some marker →
    markers[j]? = some other → marker.name ≠ [] → marker.name = other.name → i = j
  /-- Of those without a name the first one answers to `*`. -/
  anonymous : ∀ (i : Nat) (marker : Token), markers[i]? = some marker → marker.name = [] →
    (∀ j < i, ∀ earlier : Token, markers[j]? = some earlier → earlier.name ≠ []) →
    ∃ value, values[i]? = some value ∧ params.get? "*" = some value
  unknown : ∀ name, (∀ marker ∈ markers, marker.name ≠ [] → String.ofList marker.name ≠ name) →
    (name = "*" → ∀ marker ∈ markers, marker.name ≠ []) → params.get? name = none
  pairs : params.toList.length = values.length
  pair : ∀ (i : Nat) (name value : String), params.toList[i]? = some (name, value) ↔
    params.names[i]? = some name ∧ values[i]? = some value

variable {t : Template} {text topic : String} {values : List String}

-- ---------------------------------------------------------------------------
-- The markers of a template that was read
-- ---------------------------------------------------------------------------

theorem label_of_parse (parsed : parse text = .ok t) {marker : Token} (hm : marker ∈ t.markers) :
    marker.label = "*" ↔ marker.name = [] := by
  obtain ⟨hm, marks⟩ := List.mem_filter.mp hm
  exact Token.label_eq_star (Token.name_of_scan (scan_of_parse parsed).2 hm marks)

theorem names_eq_labels (parsed : parse text = .ok t) : t.names = t.markers.map Token.label :=
  Token.paramNames_eq (Token.named_of_scan (scan_of_parse parsed).2)

theorem once_of_parse (parsed : parse text = .ok t) :
    (t.tokens.filterMap Token.givenName?).Nodup := by
  simp only [parse] at parsed
  split at parsed
  · cases parsed
  · split at parsed
    · cases parsed
    · rename_i once
      cases parsed
      exact (firstRepeat_eq_none.mp once).1

/-- The name of a marker is not that of one behind it. -/
theorem names_apart (parsed : parse text = .ok t) :
    t.markers.Pairwise fun marker other => marker.name ≠ [] → marker.name ≠ other.name := by
  have given : ∀ token ∈ t.tokens, token ≠ .named [] := by
    rintro token hm rfl
    exact Token.named_of_scan (scan_of_parse parsed).2 hm
  have once := List.pairwise_filterMap.mp (once_of_parse parsed)
  refine (once.imp_of_mem ?_).filter _
  intro marker other hm ho differ named same
  apply differ marker.name ((Token.givenName_eq_some (given _ hm)).mpr ⟨rfl, named⟩) other.name
  · exact (Token.givenName_eq_some (given _ ho)).mpr ⟨rfl, same ▸ named⟩
  · exact same

theorem position_unique (parsed : parse text = .ok t) {i j : Nat} {marker other : Token}
    (hi : t.markers[i]? = some marker) (hj : t.markers[j]? = some other)
    (named : marker.name ≠ []) (same : marker.name = other.name) : i = j := by
  obtain ⟨li, rfl⟩ := List.getElem?_eq_some_iff.mp hi
  obtain ⟨lj, rfl⟩ := List.getElem?_eq_some_iff.mp hj
  have apart := List.pairwise_iff_getElem.mp (names_apart parsed)
  rcases Nat.lt_trichotomy i j with lt | he | gt
  · exact absurd same (apart i j li lj lt named)
  · exact he
  · exact absurd same.symm (apart j i lj li gt (same ▸ named))

/-- What a marker goes by tells its name. -/
theorem name_eq_of_label (parsed : parse text = .ok t) {marker other : Token}
    (hm : marker ∈ t.markers) (ho : other ∈ t.markers) (same : marker.label = other.label) :
    marker.name = other.name := by
  by_cases unnamed : marker.name = []
  · rw [(label_of_parse parsed hm).mpr unnamed] at same
    rw [unnamed, (label_of_parse parsed ho).mp same.symm]
  · have named : other.name ≠ [] := by
      intro none
      rw [(label_of_parse parsed ho).mpr none] at same
      exact unnamed ((label_of_parse parsed hm).mp same)
    rw [Token.label_of_name unnamed, Token.label_of_name named] at same
    exact String.ofList_inj.mp same

theorem getElem?_names (parsed : parse text = .ok t) {i : Nat} {name : String} :
    t.names[i]? = some name ↔ ∃ marker : Token, t.markers[i]? = some marker ∧ marker.label = name := by
  simp [names_eq_labels parsed]

-- ---------------------------------------------------------------------------
-- Looking up
-- ---------------------------------------------------------------------------

/-- A marker answers to what it goes by, if none before it goes by the same. -/
theorem get?_label (parsed : parse text = .ok t) (count : values.length = t.markers.length)
    {i : Nat} {marker : Token} (here : t.markers[i]? = some marker)
    (first : ∀ j < i, ∀ earlier : Token, t.markers[j]? = some earlier →
      earlier.label ≠ marker.label) :
    ∃ value, values[i]? = some value ∧
      (⟨t.names, values⟩ : Params).get? marker.label = some value := by
  obtain ⟨hi, -⟩ := List.getElem?_eq_some_iff.mp here
  have value : values[i]? = some values[i] := List.getElem?_eq_getElem (count ▸ hi)
  refine ⟨values[i], value, ?_⟩
  rw [Params.get?_of_first ((getElem?_names parsed).mpr ⟨marker, here, rfl⟩), value]
  intro j hj same
  obtain ⟨earlier, he, hl⟩ := (getElem?_names parsed).mp same
  exact first j hj earlier he hl

theorem namedBy_of_parse (parsed : parse text = .ok t) (count : values.length = t.markers.length) :
    NamedBy t.markers values ⟨t.names, values⟩ where
  held := rfl
  declared := names_eq_labels parsed
  one_each := by simp [names_eq_labels parsed, count]
  own := by
    intro i marker here named
    rw [← Token.label_of_name named]
    apply get?_label parsed count here
    intro j hj earlier he same
    have names := name_eq_of_label parsed (List.mem_of_getElem? he) (List.mem_of_getElem? here) same
    exact absurd (position_unique parsed here he named names.symm) (Nat.ne_of_gt hj)
  apart i j marker other hi hj named same := position_unique parsed hi hj named same
  anonymous := by
    intro i marker here unnamed first
    have star := (label_of_parse parsed (List.mem_of_getElem? here)).mpr unnamed
    rw [← star]
    apply get?_label parsed count here
    intro j hj earlier he same
    apply first j hj earlier he
    exact (label_of_parse parsed (List.mem_of_getElem? he)).mp (same.trans star)
  unknown := by
    intro name others star
    apply Params.get?_of_not_mem
    intro listed
    obtain ⟨marker, hm, rfl⟩ := List.mem_map.mp (names_eq_labels parsed ▸ listed)
    by_cases unnamed : marker.name = []
    · exact star ((label_of_parse parsed hm).mpr unnamed) marker hm unnamed
    · exact others marker hm unnamed (Token.label_of_name unnamed).symm
  pairs := by simp [Params.toList, names_eq_labels parsed, count]
  pair _ _ _ := Params.getElem?_toList

/-- Each captured value goes by the name of its marker, and by that name alone. -/
theorem captures_by_name (parsed : parse text = .ok t) (matched : t.test topic = true) :
    ∃ values params, t.extract topic = some values ∧ t.captures topic = some params ∧
      t.Factors topic values ∧ NamedBy t.markers values params := by
  obtain ⟨values, extracted⟩ := Option.isSome_iff_exists.mp matched
  have factors := factors_of_extract parsed extracted
  have count : values.length = t.markers.length := by
    have each := factors.length_eq
    rw [List.length_map] at each
    exact each.trans List.countP_eq_length_filter
  refine ⟨values, ⟨t.names, values⟩, extracted, ?_, factors, namedBy_of_parse parsed count⟩
  simp [captures, extracted]

def shelf : Template :=
  ⟨"*/:id/*rest?*", [.wildcard [], .literal ['/'], .named ['i', 'd'], .literal ['/'],
    .wildcard ['r', 'e', 's', 't'], .literal ['?'], .wildcard []]⟩

theorem captures_by_name_shelf :
    ∃ params, shelf.captures "a/b/7/c/d?e" = some params ∧ params.values = ["a", "b", "7/c/d", "e"] ∧
      params.get? "rest" = some "7/c/d" ∧ params.get? "*" = some "a" ∧ params.get? "e" = none := by
  have parsed : parse "*/:id/*rest?*" = .ok shelf := by cbv
  have extracted : shelf.extract "a/b/7/c/d?e" = some ["a", "b", "7/c/d", "e"] := by decide
  have matched : shelf.test "a/b/7/c/d?e" = true := by simp [test, extracted]
  obtain ⟨values, params, he, hc, -, named⟩ := captures_by_name parsed matched
  obtain rfl := Option.some.inj (he.symm.trans extracted)
  obtain ⟨rest, hr, gives⟩ := named.own 2 (.wildcard ['r', 'e', 's', 't']) rfl (by decide)
  obtain ⟨first, hf, stars⟩ := named.anonymous 0 (.wildcard []) rfl rfl (by simp)
  cases hr
  cases hf
  exact ⟨params, hc, named.held, gives, stars, named.unknown "e" (by decide) (by decide)⟩

end Template

end RouteBus
