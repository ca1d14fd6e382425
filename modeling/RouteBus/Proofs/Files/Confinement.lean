import RouteBus.Files.Path

/-!
# Files stay below the root

A URI is judged by its segments as it stands. The path is made of it afterwards: slashes in front
are cut off, an extension is put behind, and the root in front. Cutting drops empty segments only,
the extension makes a step of the last segment whatever it is, and the root in front adds its own
steps. So the steps of the path are those of the root and then those of the URI.
-/

namespace RouteBus.Files

def isStep (part : List Char) : Bool := part != [] && part != ['.']

/-- The steps of a path, less the parts that are empty or `.`. -/
def steps (path : List Char) : List (List Char) := (path.splitOn '/').filter isStep

/-- The path leads the way of `root`, and from there on by `further`, at least one step and none of
them upwards. -/
structure Descends (root path : List Char) (further : List (List Char)) : Prop where
  start : isAbsolute path = isAbsolute root
  way : steps path = steps root ++ further
  onward : further ≠ []
  never_up : parentSegment ∉ further

def nameFor (uri extension : List Char) : List Char := uri.dropWhile (· == '/') ++ '.' :: extension

variable {root path cs suffix uri extension : List Char}

-- ---------------------------------------------------------------------------
-- Parts between slashes
-- ---------------------------------------------------------------------------

theorem segments_eq_splitOn (cs : List Char) : segments cs = cs.splitOn '/' := by
  induction cs with
  | nil => simp [segments]
  | cons c cs ih =>
    simp only [segments, List.splitOn_cons_eq_if_modifyHead, ih, beq_iff_eq]
    split
    · rfl
    · cases he : cs.splitOn '/' with
      | nil => exact absurd he (by simp)
      | cons part parts => rfl

/-- Text without a slash lengthens the last part. -/
theorem splitOn_append (plain : '/' ∉ suffix) (cs : List Char) :
    ∃ front last, cs.splitOn '/' = front ++ [last] ∧
      (cs ++ suffix).splitOn '/' = front ++ [last ++ suffix] := by
  induction cs with
  | nil => exact ⟨[], [], by simp, by simp [List.splitOn_eq_singleton plain]⟩
  | cons c cs ih =>
    obtain ⟨front, last, he, hs⟩ := ih
    simp only [List.cons_append, List.splitOn_cons_eq_if_modifyHead, he, hs]
    split
    · exact ⟨[] :: front, last, rfl, rfl⟩
    · cases front with
      | nil => exact ⟨[], c :: last, rfl, rfl⟩
      | cons part front => exact ⟨(c :: part) :: front, last, rfl, rfl⟩

/-- Slashes in front make empty parts. -/
theorem splitOn_dropSlashes (cs : List Char) :
    ∃ blank, cs.splitOn '/' = blank ++ (cs.dropWhile (· == '/')).splitOn '/' ∧
      ∀ part ∈ blank, part = [] := by
  induction cs with
  | nil => exact ⟨[], rfl, by simp⟩
  | cons c cs ih =>
    obtain ⟨blank, he, hb⟩ := ih
    by_cases hc : c = '/'
    · refine ⟨[] :: blank, ?_, by simpa using hb⟩
      simp [hc, List.splitOn_cons_eq_if_modifyHead, he]
    · exact ⟨[], by simp [hc], by simp⟩

-- ---------------------------------------------------------------------------
-- Paths
-- ---------------------------------------------------------------------------

theorem isAbsolute_nameFor (uri extension : List Char) : isAbsolute (nameFor uri extension) = false := by
  induction uri with
  | nil => rfl
  | cons c uri ih =>
    by_cases hc : c = '/'
    · simpa [nameFor, hc] using ih
    · simp [nameFor, hc, isAbsolute]

theorem isAbsolute_join (relative : isAbsolute path = false) :
    isAbsolute (join root path) = isAbsolute root := by
  rw [join, relative, if_neg Bool.false_ne_true]
  cases root with
  | nil => exact relative
  | cons c root => split <;> rfl

/-- A path goes on behind the parts that the root has. -/
theorem splitOn_join (relative : isAbsolute path = false) (root : List Char) :
    ∃ lead, (join root path).splitOn '/' = lead ++ path.splitOn '/' ∧
      lead.filter isStep = steps root := by
  rw [join, relative, if_neg Bool.false_ne_true]
  split
  · rename_i hr
    obtain rfl := List.getLast?_eq_none_iff.mp hr
    exact ⟨[], rfl, by simp [steps, isStep]⟩
  · rename_i hr
    obtain ⟨front, rfl⟩ := List.getLast?_eq_some_iff.mp hr
    refine ⟨front.splitOn '/', ?_, ?_⟩
    · simp [List.splitOn_append_cons_self]
    · simp [steps, List.splitOn_append_cons_self, isStep]
  · exact ⟨root.splitOn '/', List.splitOn_append_cons_self .., rfl⟩

/-- An extension makes a step of a part, and never one upwards. -/
theorem isStep_extended (named : 1 < extension.length) (part : List Char) :
    isStep (part ++ '.' :: extension) = true ∧ part ++ '.' :: extension ≠ parentSegment := by
  have long : 2 < (part ++ '.' :: extension).length := by
    simp only [List.length_append, List.length_cons]
    omega
  constructor
  · simp only [isStep, Bool.and_eq_true, bne_iff_ne]
    exact ⟨fun he => by simp [he] at long, fun he => by simp [he] at long⟩
  · intro he
    simp [he, parentSegment] at long

/-- The name has the segments of the URI, the last of them extended. Those that are missing were
empty. -/
theorem splitOn_nameFor (plain : '/' ∉ extension) (uri : List Char) :
    ∃ blank front last, uri.splitOn '/' = blank ++ front ++ [last] ∧ (∀ part ∈ blank, part = []) ∧
      (nameFor uri extension).splitOn '/' = front ++ [last ++ '.' :: extension] := by
  obtain ⟨blank, he, hb⟩ := splitOn_dropSlashes uri
  have plain' : '/' ∉ '.' :: extension := by simpa using plain
  obtain ⟨front, last, hf, hl⟩ := splitOn_append plain' (uri.dropWhile (· == '/'))
  exact ⟨blank, front, last, by rw [he, hf, List.append_assoc], hb, hl⟩

theorem descends_nameFor (named : 1 < extension.length) (plain : '/' ∉ extension)
    (clear : parentSegment ∉ uri.splitOn '/') (root : List Char) :
    ∃ front last, uri.splitOn '/' = front ++ [last] ∧
      Descends root (join root (nameFor uri extension))
        (front.filter isStep ++ [last ++ '.' :: extension]) ∧
      ((join root (nameFor uri extension)).splitOn '/').getLast? = some (last ++ '.' :: extension) := by
  obtain ⟨blank, front, last, he, hb, hn⟩ := splitOn_nameFor plain uri
  obtain ⟨lead, hj, hl⟩ := splitOn_join (isAbsolute_nameFor uri extension) root
  obtain ⟨step, forward⟩ := isStep_extended named last
  have dropped : blank.filter isStep = [] := by
    rw [List.filter_eq_nil_iff]
    intro part hp
    simp [hb part hp, isStep]
  refine ⟨blank ++ front, last, he, ⟨?_, ?_, ?_, ?_⟩, ?_⟩
  · exact isAbsolute_join (isAbsolute_nameFor uri extension)
  · simpa [steps, hj, hn, dropped, step] using hl
  · simp
  · intro hm
    rcases List.mem_append.mp hm with hm | hm
    · apply clear
      rw [he]
      exact List.mem_append_left _ (List.mem_filter.mp hm).1
    · exact forward (List.mem_singleton.mp hm).symm
  · simp [hj, hn]

theorem pathFor_eq (root uri extension : String) :
    pathFor root uri extension =
      if parentSegment ∈ uri.toList.splitOn '/' then
        .error ⟨uri, "parent segments are not allowed"⟩
      else .ok (String.ofList (join root.toList (nameFor uri.toList extension.toList))) := by
  simp [pathFor, segments_eq_splitOn, nameFor]

/-- What is found for a URI under a root lies below the root, whatever the URI is. One with a
segment upwards is refused, and no other. -/
theorem paths_stay_below (root uri extension : String)
    (known : extension = requestExtension ∨ extension = streamExtension) :
    ((∃ failure, pathFor root uri extension = .error failure) ↔
      parentSegment ∈ uri.toList.splitOn '/') ∧
    (∀ failure, pathFor root uri extension = .error failure →
      failure = ⟨uri, "parent segments are not allowed"⟩) ∧
    (parentSegment ∉ uri.toList.splitOn '/' → ∃ path front last,
      pathFor root uri extension = .ok path ∧ uri.toList.splitOn '/' = front ++ [last] ∧
      Descends root.toList path.toList
        (front.filter isStep ++ [last ++ '.' :: extension.toList]) ∧
      (path.toList.splitOn '/').getLast? = some (last ++ '.' :: extension.toList)) := by
  have named : 1 < extension.toList.length ∧ '/' ∉ extension.toList := by
    rcases known with rfl | rfl
    · decide
    · decide
  rw [pathFor_eq]
  refine ⟨?_, ?_, ?_⟩
  · split <;> simp [*]
  · intro failure refused
    split at refused
    · exact (Except.error.inj refused).symm
    · cases refused
  · intro clear
    obtain ⟨front, last, he, descends, ends⟩ :=
      descends_nameFor named.1 named.2 clear root.toList
    rw [if_neg clear]
    exact ⟨_, front, last, rfl, he, by simpa using descends, by simpa using ends⟩

/-- A last segment of one dot, empty ones in front, and a root that itself leads upwards. -/
theorem paths_stay_below_dots :
    pathFor "/srv/../data/" "//a/./b/." requestExtension = .ok "/srv/../data/a/./b/..json" ∧
      Descends "/srv/../data/".toList "/srv/../data/a/./b/..json".toList
        [['a'], ['b'], "..json".toList] ∧
      pathFor "/srv" "a/.." streamExtension = .error ⟨"a/..", "parent segments are not allowed"⟩ := by
  have found : pathFor "/srv/../data/" "//a/./b/." requestExtension =
      .ok "/srv/../data/a/./b/..json" := rfl
  have split : "//a/./b/.".toList.splitOn '/' = [[], [], ['a'], ['.'], ['b']] ++ [['.']] := by decide
  have upwards : parentSegment ∈ "a/..".toList.splitOn '/' := by decide
  obtain ⟨-, -, below⟩ := paths_stay_below "/srv/../data/" "//a/./b/." _ (.inl rfl)
  obtain ⟨refused, cause, -⟩ := paths_stay_below "/srv" "a/.." _ (.inr rfl)
  obtain ⟨failure, failed⟩ := refused.mpr upwards
  obtain ⟨path, front, last, he, hs, descends, -⟩ := below (by rw [split]; decide)
  obtain rfl := Except.ok.inj (he.symm.trans found)
  obtain ⟨rfl, hl⟩ := List.append_inj' (hs.symm.trans split) rfl
  obtain rfl := (List.cons.inj hl).1
  exact ⟨found, descends, by rw [failed, cause failure failed]⟩

end RouteBus.Files
