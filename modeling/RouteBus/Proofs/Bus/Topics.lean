import RouteBus.Bus.Topics

/-!
# Laws of the topic groups

Registering and looking up each touch one group, or add one behind all others.
So a group keeps its place and its template, and a listener that was taken out
of it comes back by registering again and in no other way.
-/

namespace RouteBus

def Group.live (closed : Listener → Bool) (g : Group) : List Listener :=
  g.listeners.filter fun l => !closed l

def Group.pruned (closed : Listener → Bool) (g : Group) : Group :=
  { g with listeners := g.live closed }

def Group.joinedBy (l : Listener) (g : Group) : Group :=
  { g with listeners := g.listeners ++ [l] }

def Group.selection (closed : Listener → Bool) (g : Group) : Selection :=
  ⟨g.template.raw, g.live closed, g.listeners.length - (g.live closed).length⟩

@[simp] theorem Group.mem_live {closed : Listener → Bool} {g : Group} :
    l ∈ g.live closed ↔ l ∈ g.listeners ∧ closed l = false := by
  simp [Group.live]

namespace Topics

-- ---------------------------------------------------------------------------
-- Looking up
-- ---------------------------------------------------------------------------

structure FirstMatch (source : String) (groups before : List Group) (g : Group)
    (after : List Group) : Prop where
  split : groups = before ++ g :: after
  passed : ∀ b ∈ before, b.template.test source = false
  matched : g.template.test source = true

theorem select_eq_none_iff {groups : List Group} :
    select closed source groups = none ↔ ∀ g ∈ groups, g.template.test source = false := by
  induction groups with
  | nil => simp [select]
  | cons g gs ih =>
    cases hg : g.template.test source with
    | true => simp [select, hg]
    | false => simp [select, hg, ih]

theorem FirstMatch.select_eq (h : FirstMatch source groups before g after) :
    select closed source groups =
      some (g.selection closed, before ++ g.pruned closed :: after) := by
  obtain ⟨rfl, hb, hg⟩ := h
  induction before with
  | nil => simp [select, hg, Group.selection, Group.pruned, Group.live]
  | cons b bs ih =>
    have hbs := ih fun b h => hb b (List.mem_cons_of_mem _ h)
    simp [select, hb b List.mem_cons_self, hbs]

theorem exists_firstMatch {groups : List Group} (hg : g ∈ groups)
    (h : g.template.test source = true) :
    ∃ before g after, FirstMatch source groups before g after := by
  induction groups with
  | nil => simp at hg
  | cons b bs ih =>
    cases hb : b.template.test source with
    | true => exact ⟨[], b, bs, rfl, by simp, hb⟩
    | false =>
      have hne : g ≠ b := by rintro rfl; simp [h] at hb
      obtain ⟨before, g', after, rfl, hp, hm⟩ := ih (by simpa [hne] using hg)
      exact ⟨b :: before, g', after, rfl, by simpa [hb] using hp, hm⟩

theorem select_eq_some_iff {groups : List Group} :
    select closed source groups = some (s, groups') ↔
      ∃ before g after, FirstMatch source groups before g after ∧
        s = g.selection closed ∧ groups' = before ++ g.pruned closed :: after := by
  constructor
  · intro h
    by_cases hm : ∃ g ∈ groups, g.template.test source = true
    · obtain ⟨g, hg, ht⟩ := hm
      obtain ⟨before, g', after, hf⟩ := exists_firstMatch hg ht
      rw [hf.select_eq] at h
      cases h
      exact ⟨before, g', after, hf, rfl, rfl⟩
    · rw [select_eq_none_iff.mpr (by simpa using hm)] at h
      cases h
  · rintro ⟨before, g, after, hf, rfl, rfl⟩
    exact hf.select_eq

-- ---------------------------------------------------------------------------
-- Registering
-- ---------------------------------------------------------------------------

theorem join_eq_some_iff {groups : List Group} :
    join text l groups = some (groups', n) ↔
      ∃ before g after, groups = before ++ g :: after ∧
        (∀ b ∈ before, b.template.raw ≠ text) ∧ g.template.raw = text ∧
        groups' = before ++ g.joinedBy l :: after ∧ n = g.listeners.length + 1 := by
  induction groups generalizing groups' with
  | nil => simp [join]
  | cons b bs ih =>
    by_cases hb : b.template.raw = text
    · simp only [join, hb, if_true, Option.some.injEq, Prod.mk.injEq]
      constructor
      · rintro ⟨rfl, rfl⟩; exact ⟨[], b, bs, rfl, by simp, hb, rfl, rfl⟩
      · rintro ⟨before, g, after, h, hp, hg, rfl, rfl⟩
        cases before with
        | nil => cases h; exact ⟨rfl, rfl⟩
        | cons x xs => cases h; exact absurd hb (hp b List.mem_cons_self)
    · simp only [join, hb, if_false, Option.map_eq_some_iff, Prod.mk.injEq]
      constructor
      · rintro ⟨⟨gs, k⟩, h, rfl, rfl⟩
        obtain ⟨before, g, after, rfl, hp, hg, rfl, rfl⟩ := ih.mp h
        exact ⟨b :: before, g, after, rfl, by simpa [hb] using hp, hg, rfl, rfl⟩
      · rintro ⟨before, g, after, h, hp, hg, rfl, rfl⟩
        cases before with
        | nil => cases h; exact absurd hg hb
        | cons x xs =>
          cases h
          have hxs := fun y hy => hp y (List.mem_cons_of_mem _ hy)
          exact ⟨_, ih.mpr ⟨xs, g, after, rfl, hxs, hg, rfl, rfl⟩, rfl, rfl⟩

theorem join_eq_none_iff {groups : List Group} :
    join text l groups = none ↔ text ∉ groups.map (·.template.raw) := by
  induction groups with
  | nil => simp [join]
  | cons b bs ih =>
    by_cases hb : b.template.raw = text
    · simp [join, hb]
    · simp [join, hb, ih, Ne.symm hb]

/-- A registration puts its listener into the first group of its template, or
behind all groups with a group of its own. -/
theorem subscribe_eq_ok (h : subscribe groups text l = .ok (groups', joining)) :
    (∃ before g after, groups = before ++ g :: after ∧ g.template.raw = text ∧
      groups' = before ++ g.joinedBy l :: after) ∨
    text ∉ groups.map (·.template.raw) ∧
      ∃ template, Template.parse text = .ok template ∧ groups' = groups ++ [⟨template, [l]⟩] := by
  unfold subscribe at h
  cases hj : join text l groups with
  | some joined =>
    obtain ⟨before, g, after, hs, -, hg, hg', -⟩ := join_eq_some_iff.mp hj
    simp only [hj] at h
    cases h
    exact .inl ⟨before, g, after, hs, hg, hg'⟩
  | none =>
    cases hp : Template.parse text with
    | error e => simp [hj, hp, bind, Except.bind] at h
    | ok template =>
      simp only [hj, hp] at h
      cases h
      exact .inr ⟨join_eq_none_iff.mp hj, template, rfl, rfl⟩

-- ---------------------------------------------------------------------------
-- Over time
-- ---------------------------------------------------------------------------

/-- Groups that came out of others by registering and looking up, in any order.
`joins` says who registers under which template. -/
inductive Evolves (joins : String → Listener → Prop) : List Group → List Group → Prop
  | refl : Evolves joins groups groups
  | subscribe : Evolves joins groups mid → joins text l →
      Topics.subscribe mid text l = .ok (groups', joining) → Evolves joins groups groups'
  | select : Evolves joins groups mid → Topics.select closed source mid = some (s, groups') →
      Evolves joins groups groups'

/-- Each group is still at its place, with no listeners but its own and those that joined. -/
def Kept (joins : String → Listener → Prop) (groups groups' : List Group) : Prop :=
  ∀ (i : Nat) (g : Group), groups[i]? = some g →
    ∃ g' : Group, groups'[i]? = some g' ∧ g'.template = g.template ∧
      ∀ l ∈ g'.listeners, l ∈ g.listeners ∨ joins g.template.raw l

variable {joins : String → Listener → Prop}

theorem Kept.refl : Kept joins groups groups :=
  fun _ g hg => ⟨g, hg, rfl, fun _ => .inl⟩

theorem Kept.trans (h : Kept joins groups mid) (h' : Kept joins mid groups') :
    Kept joins groups groups' := by
  intro i g hg
  obtain ⟨g₁, hg₁, ht₁, hl₁⟩ := h i g hg
  obtain ⟨g₂, hg₂, ht₂, hl₂⟩ := h' i g₁ hg₁
  refine ⟨g₂, hg₂, ht₂.trans ht₁, fun l hl => ?_⟩
  rcases hl₂ l hl with hl | hl
  · exact hl₁ l hl
  · exact .inr (ht₁ ▸ hl)

theorem Kept.append (groups added : List Group) : Kept joins groups (groups ++ added) :=
  fun i g hg => ⟨g, by rw [List.getElem?_append_left (List.getElem?_eq_some_iff.mp hg).1, hg],
    rfl, fun _ => .inl⟩

theorem Kept.replace {g g' : Group} (ht : g'.template = g.template)
    (hl : ∀ l ∈ g'.listeners, l ∈ g.listeners ∨ joins g.template.raw l) :
    Kept joins (before ++ g :: after) (before ++ g' :: after) := by
  intro i x hx
  rcases Nat.lt_trichotomy i before.length with hi | rfl | hi
  · rw [List.getElem?_append_left hi] at hx ⊢
    exact ⟨x, hx, rfl, fun _ => .inl⟩
  · simp only [List.getElem?_append_right (Nat.le_refl _),
      Nat.sub_self, List.getElem?_cons_zero, Option.some.injEq] at hx ⊢
    subst hx
    exact ⟨g', rfl, ht, hl⟩
  · obtain ⟨k, hk⟩ : ∃ k, i - before.length = k + 1 := ⟨i - before.length - 1, by omega⟩
    simp only [List.getElem?_append_right (Nat.le_of_lt hi), hk,
      List.getElem?_cons_succ] at hx ⊢
    exact ⟨x, hx, rfl, fun _ => .inl⟩

theorem Evolves.kept (h : Evolves joins groups groups') : Kept joins groups groups' := by
  induction h with
  | refl => exact .refl
  | subscribe _ hj hs ih =>
    refine ih.trans ?_
    rcases subscribe_eq_ok hs with ⟨before, g, after, rfl, rfl, rfl⟩ | ⟨-, template, -, rfl⟩
    · refine .replace rfl fun l hl => ?_
      rcases List.mem_append.mp hl with hl | hl
      · exact .inl hl
      · exact .inr (List.mem_singleton.mp hl ▸ hj)
    · exact .append _ _
  | select _ hs ih =>
    obtain ⟨before, g, after, ⟨rfl, -, -⟩, -, rfl⟩ := select_eq_some_iff.mp hs
    exact ih.trans (.replace rfl fun l hl => .inl (Group.mem_live.mp hl).1)

/-- A listener that was taken out of a group is in it no more unless it registers again. -/
theorem Evolves.stays_out {g : Group}
    (h : Evolves joins (before ++ g.pruned closed :: after) groups') (hl : closed l = true)
    (hj : ¬ joins g.template.raw l) :
    ∃ g', groups'[before.length]? = some g' ∧ g'.template = g.template ∧ l ∉ g'.listeners := by
  obtain ⟨g', hg', ht, hm⟩ := h.kept before.length (g.pruned closed) (by simp)
  refine ⟨g', hg', ht, fun hmem => ?_⟩
  rcases hm l hmem with hmem | hmem
  · simp [Group.pruned, hl] at hmem
  · exact hj hmem

end Topics

end RouteBus
