import RouteBus.Template

/-!
# Factorisations

A topic factors along tokens when it is their literals, unchanged, with a value
in place of each marker. Filling tokens gives such topics, and a topic that
factors is the tokens filled with its values.

Tokens that were read from a template are placed: behind a marker stands the
end, or literal text that a separator ends unless nothing follows it. Names
therefore end where the literal behind them begins, and one wildcard is what
both of its sides leave over, so with at most one wildcard a topic factors in
one way only.
-/

namespace RouteBus.Token

def Admits : Token → List Char → Prop
  | .literal text, value => value = text
  | .named _, value => value ≠ [] ∧ ∀ c ∈ value, isSeparator c = false
  | .wildcard _, value => '\n' ∉ value

instance : (token : Token) → (value : List Char) → Decidable (token.Admits value)
  | .literal text, value => inferInstanceAs (Decidable (value = text))
  | .named _, value =>
    decidable_of_iff (value ≠ [] ∧ value.all (!isSeparator ·) = true) (by simp [Admits])
  | .wildcard _, value => inferInstanceAs (Decidable ('\n' ∉ value))

/-- `Factors tokens topic values`: the topic is the tokens one after another, with
the values in place of the markers. -/
inductive Factors : List Token → List Char → List (List Char) → Prop
  | nil : Factors [] [] []
  | literal {text : List Char} :
      Factors tokens rest values → Factors (.literal text :: tokens) (text ++ rest) values
  | marker (token : Token) (hm : token.isMarker) (hv : token.Admits value) :
      Factors tokens rest values → Factors (token :: tokens) (value ++ rest) (value :: values)

def endsSegment (text : List Char) : Bool := text.getLast?.any isSeparator

/-- Tokens as a reader leaves them; `atStart` tells whether they begin a segment. -/
inductive Placed : Bool → List Token → Prop
  | nil : Placed atStart []
  | literal {text : List Char} (hne : text ≠ []) (hl : ∀ other later, tokens ≠ .literal other :: later) :
      Placed (endsSegment text) tokens → Placed atStart (.literal text :: tokens)
  | marker (token : Token) (hm : token.isMarker) : Placed false tokens → Placed true (token :: tokens)

variable {text topic rest value : List Char} {tokens : List Token} {values args : List (List Char)}

theorem factors_nil : Factors [] topic values ↔ topic = [] ∧ values = [] := by
  constructor
  · rintro ⟨⟩
    exact ⟨rfl, rfl⟩
  · rintro ⟨rfl, rfl⟩
    exact .nil

theorem factors_literal : Factors (.literal text :: tokens) topic values ↔
    ∃ rest, topic = text ++ rest ∧ Factors tokens rest values := by
  constructor
  · rintro (_ | h | ⟨_, hm, _, _⟩)
    · exact ⟨_, rfl, h⟩
    · cases hm
  · rintro ⟨rest, rfl, h⟩
    exact .literal h

theorem factors_marker {token : Token} (hm : token.isMarker) : Factors (token :: tokens) topic values ↔
    ∃ value rest later, topic = value ++ rest ∧ values = value :: later ∧ token.Admits value ∧
      Factors tokens rest later := by
  constructor
  · rintro (_ | h | ⟨_, _, hv, h⟩)
    · cases hm
    · exact ⟨_, _, _, rfl, rfl, hv, h⟩
  · rintro ⟨value, rest, later, rfl, rfl, hv, h⟩
    exact .marker token hm hv h

-- ---------------------------------------------------------------------------
-- Filling
-- ---------------------------------------------------------------------------

@[simp] theorem markerCount_nil : markerCount [] = 0 := rfl

@[simp] theorem markerCount_literal : markerCount (.literal text :: tokens) = markerCount tokens := by
  simp [markerCount, isMarker]

theorem markerCount_marker {token : Token} (hm : token.isMarker) :
    markerCount (token :: tokens) = markerCount tokens + 1 := by
  simp [markerCount, hm]

theorem fill_marker {token : Token} (hm : token.isMarker) (value : List Char) (values : List (List Char)) :
    fill (token :: tokens) (value :: values) = value ++ fill tokens values := by
  cases token with
  | literal text => cases hm
  | named name => rfl
  | wildcard name => rfl

theorem Factors.length_eq (h : Factors tokens topic values) : values.length = markerCount tokens := by
  induction h with
  | nil => rfl
  | literal _ ih => simpa using ih
  | marker token hm _ _ ih => simp [markerCount_marker hm, ih]

theorem Factors.fill_eq (h : Factors tokens topic values) : fill tokens values = topic := by
  induction h with
  | nil => rfl
  | literal _ ih => simp [fill, ih]
  | marker token hm _ _ ih => rw [fill_marker hm, ih]

/-- Filling with values that may stand for the markers gives a topic that factors
into those that were used. -/
theorem factors_fill (hn : markerCount tokens ≤ args.length)
    (ha : ∀ p ∈ (tokens.filter isMarker).zip args, p.1.Admits p.2) :
    Factors tokens (fill tokens args) (args.take (markerCount tokens)) := by
  induction tokens generalizing args with
  | nil => exact .nil
  | cons token tokens ih =>
    cases hm : token.isMarker with
    | false =>
      cases token with
      | literal text =>
        simp only [fill, markerCount_literal] at hn ⊢
        exact .literal (ih hn (by simpa [isMarker] using ha))
      | named name => cases hm
      | wildcard name => cases hm
    | true =>
      rw [markerCount_marker hm] at hn ⊢
      cases args with
      | nil => simp at hn
      | cons arg args =>
        simp only [List.filter_cons, hm, if_true, List.zip_cons_cons, List.mem_cons,
          forall_eq_or_imp] at ha
        rw [fill_marker hm, List.take_succ_cons]
        exact .marker token hm ha.1 (ih (by simpa using hn) ha.2)

-- ---------------------------------------------------------------------------
-- Placement
-- ---------------------------------------------------------------------------

theorem endsSegment_cons (c : Char) (hne : text ≠ []) : endsSegment (c :: text) = endsSegment text := by
  simp [endsSegment, List.getLast?_cons_of_ne_nil hne]

theorem Placed.consLiteral (c : Char) (hs : isSeparator c = start) (h : Placed start tokens) :
    Placed atStart (consLiteral c tokens) := by
  cases h with
  | nil => exact .literal (by simp) (by simp) .nil
  | literal hne hl h =>
    refine .literal (by simp) hl ?_
    rw [endsSegment_cons c hne]
    exact h
  | @marker rest token hm h =>
    have hp : Placed (endsSegment [c]) (token :: rest) := by
      rw [show endsSegment [c] = true from hs]
      exact .marker token hm h
    cases token with
    | literal text => cases hm
    | named name => exact .literal (by simp) (by simp) hp
    | wildcard name => exact .literal (by simp) (by simp) hp

theorem bind_ok {ε α β : Type} {x : Except ε α} {f : α → Except ε β} {b : β} :
    x >>= f = .ok b ↔ ∃ a, x = .ok a ∧ f a = .ok b := by
  cases x <;> simp [bind, Except.bind]

theorem placed_of_scan (h : scan offset atStart cs = .ok tokens) : Placed atStart tokens := by
  fun_induction scan offset atStart cs generalizing tokens with
  | case1 =>
    cases h
    exact .nil
  | case2 => cases h
  | case3 _ atStart c _ hc _ _ _ ih =>
    obtain ⟨rest, hr, h⟩ := bind_ok.mp h
    cases h
    cases atStart with
    | false => simp at hc
    | true => exact .marker _ rfl (ih hr)
  | case4 _ atStart _ _ _ hc name =>
    rename_i ih
    obtain ⟨rest, hr, h⟩ := bind_ok.mp h
    cases h
    cases atStart with
    | false => simp at hc
    | true => exact .marker _ rfl (ih hr)
  | case5 _ _ c _ _ _ ih =>
    obtain ⟨rest, hr, h⟩ := bind_ok.mp h
    cases h
    exact .consLiteral c rfl (ih hr)

-- ---------------------------------------------------------------------------
-- Where values end
-- ---------------------------------------------------------------------------

theorem takeWhile_append_segment (ht : ∃ c ∈ text, isSeparator c = true) (rest : List Char) :
    (text ++ rest).takeWhile (!isSeparator ·) = text.takeWhile (!isSeparator ·) := by
  induction text with
  | nil => simp at ht
  | cons c text ih =>
    cases hc : isSeparator c with
    | true => simp [hc]
    | false =>
      have ht : ∃ c ∈ text, isSeparator c = true := by simpa [hc] using ht
      simp [hc, ih ht]

/-- Texts without separators in front of the same separator are the same. -/
theorem segment_unique (ht : ∃ c ∈ text, isSeparator c = true)
    (hv : ∀ c ∈ value, isSeparator c = false) (hv' : ∀ c ∈ value', isSeparator c = false)
    (he : value ++ (text ++ rest) = value' ++ (text ++ rest')) : value = value' := by
  have h := congrArg (List.takeWhile (!isSeparator ·)) he
  have hn : ∀ c ∈ value, (!isSeparator c) = true := by simpa using hv
  have hn' : ∀ c ∈ value', (!isSeparator c) = true := by simpa using hv'
  rw [List.takeWhile_append_of_pos hn, List.takeWhile_append_of_pos hn',
    takeWhile_append_segment ht, takeWhile_append_segment ht] at h
  exact List.append_cancel_right h

theorem endsSegment_iff : endsSegment text = true ↔ ∃ front c, text = front ++ [c] ∧ isSeparator c = true := by
  simp only [endsSegment, Option.any_eq_true, List.getLast?_eq_some_iff]
  grind

/-- Texts without separators behind a separator, in one text, are the same. -/
theorem lastSegment_unique (hl : endsSegment lead = true) (hl' : endsSegment lead' = true)
    (hv : ∀ c ∈ value, isSeparator c = false) (hv' : ∀ c ∈ value', isSeparator c = false)
    (he : lead ++ value = lead' ++ value') : value = value' := by
  obtain ⟨front, c, rfl, hc⟩ := endsSegment_iff.mp hl
  obtain ⟨front', c', rfl, hc'⟩ := endsSegment_iff.mp hl'
  have h := congrArg (fun text => text.reverse.takeWhile (!isSeparator ·)) he
  have hr : ∀ c ∈ value.reverse, (!isSeparator c) = true := by simpa using hv
  have hr' : ∀ c ∈ value'.reverse, (!isSeparator c) = true := by simpa using hv'
  simpa [List.takeWhile_append_of_pos hr, List.takeWhile_append_of_pos hr', hc, hc'] using h

/-- A name ends where the literal behind it begins. -/
theorem Placed.name_unique (hp : Placed false tokens) (h : Factors tokens rest values)
    (h' : Factors tokens rest' values') (hv : ∀ c ∈ value, isSeparator c = false)
    (hv' : ∀ c ∈ value', isSeparator c = false) (he : value ++ rest = value' ++ rest') :
    value = value' := by
  cases hp with
  | nil =>
    obtain ⟨rfl, -⟩ := factors_nil.mp h
    obtain ⟨rfl, -⟩ := factors_nil.mp h'
    exact List.append_cancel_right he
  | @literal later _ text _ hl hp =>
    obtain ⟨_, rfl, hr⟩ := factors_literal.mp h
    obtain ⟨_, rfl, hr'⟩ := factors_literal.mp h'
    generalize hs : endsSegment text = starts at hp
    cases hp with
    | nil =>
      obtain ⟨rfl, -⟩ := factors_nil.mp hr
      obtain ⟨rfl, -⟩ := factors_nil.mp hr'
      exact List.append_cancel_right he
    | literal _ _ _ => exact absurd rfl (hl _ _)
    | marker token _ _ =>
      obtain ⟨front, c, rfl, hc⟩ := endsSegment_iff.mp hs
      exact segment_unique ⟨c, by simp, hc⟩ hv hv' he

def isWildcard : Token → Bool
  | .wildcard _ => true
  | .literal _ | .named _ => false

def wildcardCount (tokens : List Token) : Nat := tokens.countP isWildcard

@[simp] theorem wildcardCount_literal : wildcardCount (.literal text :: tokens) = wildcardCount tokens := by
  simp [wildcardCount, isWildcard]

@[simp] theorem wildcardCount_named : wildcardCount (.named name :: tokens) = wildcardCount tokens := by
  simp [wildcardCount, isWildcard]

@[simp] theorem wildcardCount_wildcard :
    wildcardCount (.wildcard name :: tokens) = wildcardCount tokens + 1 :=
  List.countP_cons_of_pos rfl

/-- Without wildcards, what tokens leave over in front of them is the same in all readings. -/
theorem Placed.lead_unique (hp : Placed starts tokens) (hw : wildcardCount tokens = 0)
    (h : Factors tokens rest values) (h' : Factors tokens rest' values')
    (hs : starts = true → endsSegment lead = true ∧ endsSegment lead' = true)
    (he : lead ++ rest = lead' ++ rest') : lead = lead' := by
  induction hp generalizing lead lead' rest rest' values values' with
  | nil =>
    obtain ⟨rfl, -⟩ := factors_nil.mp h
    obtain ⟨rfl, -⟩ := factors_nil.mp h'
    exact List.append_cancel_right he
  | @literal _ _ text _ _ _ ih =>
    obtain ⟨_, rfl, hr⟩ := factors_literal.mp h
    obtain ⟨_, rfl, hr'⟩ := factors_literal.mp h'
    have hlead : lead ++ text = lead' ++ text := by
      refine ih (by simpa using hw) hr hr' ?_ (by simpa using he)
      intro hs
      obtain ⟨front, c, rfl, hc⟩ := endsSegment_iff.mp hs
      exact ⟨endsSegment_iff.mpr ⟨lead ++ front, c, by simp, hc⟩,
        endsSegment_iff.mpr ⟨lead' ++ front, c, by simp, hc⟩⟩
    exact List.append_cancel_right hlead
  | marker token hm _ ih =>
    obtain ⟨value, _, _, rfl, -, hv, hr⟩ := (factors_marker hm).mp h
    obtain ⟨value', _, _, rfl, -, hv', hr'⟩ := (factors_marker hm).mp h'
    cases token with
    | literal text => cases hm
    | wildcard name => simp at hw
    | named name =>
      have hlead : lead ++ value = lead' ++ value' :=
        ih (by simpa using hw) hr hr' (by simp) (by simpa using he)
      obtain ⟨hl, hl'⟩ := hs rfl
      obtain rfl := lastSegment_unique hl hl' hv.2 hv'.2 hlead
      exact List.append_cancel_right hlead

/-- With at most one wildcard there is one factorisation. -/
theorem Placed.factors_unique (hp : Placed starts tokens) (hw : wildcardCount tokens ≤ 1)
    (h : Factors tokens topic values) (h' : Factors tokens topic values') : values = values' := by
  induction hp generalizing topic values values' with
  | nil =>
    obtain ⟨-, rfl⟩ := factors_nil.mp h
    obtain ⟨-, rfl⟩ := factors_nil.mp h'
    rfl
  | literal _ _ _ ih =>
    obtain ⟨_, rfl, hr⟩ := factors_literal.mp h
    obtain ⟨_, he, hr'⟩ := factors_literal.mp h'
    obtain rfl := List.append_cancel_left he
    exact ih (by simpa using hw) hr hr'
  | @marker rest token hm hp ih =>
    obtain ⟨value, _, _, rfl, rfl, hv, hr⟩ := (factors_marker hm).mp h
    obtain ⟨value', _, _, he, rfl, hv', hr'⟩ := (factors_marker hm).mp h'
    have hvalue : value = value' := by
      cases token with
      | literal text => cases hm
      | named name => exact hp.name_unique hr hr' hv.2 hv'.2 he
      | wildcard name =>
        have hw : wildcardCount rest = 0 := by simpa using hw
        exact hp.lead_unique hw hr hr' (by simp) he
    subst hvalue
    obtain rfl := List.append_cancel_left he
    have hw : wildcardCount rest ≤ 1 := Nat.le_trans (List.sublist_cons_self ..).countP_le hw
    rw [ih hw hr hr']

end RouteBus.Token
