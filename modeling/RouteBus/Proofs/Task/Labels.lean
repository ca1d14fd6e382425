import Mathlib.Algebra.BigOperators.Group.Multiset.Basic
import RouteBus.Proofs.Task.Traces

/-!
# What steps are for

A step may take duties on and may discharge some that its task holds. What it does there is told
by a label, and the label by what the task is about to do. Tasks that are put around a task leave
its steps as they are, so they leave the labels as they are too.
-/

namespace RouteBus.Task

/-- The next step of the task is the next one of `u`, which is part of it. -/
inductive Heads (u : Task σ α) : {β : Type} → Task σ β → Prop
  | refl : Heads u u
  | bind : Heads u t → Heads u (t >>= k)
  | throughTurn : Heads u t → Heads u (t.throughTurn suspended ended)
  | both : Heads u t → Heads u (t.both v)
  | alternate : Heads u t → Heads u (t.alternate v)
  | alternateLeft : Heads u t → Heads u (t.alternateLeft v)

def Deals (deal : σ → σ → Multiset δ → Multiset δ → Prop) (s s' : σ) (held held' : Multiset δ) :
    Prop :=
  ∃ taken given rest, held = taken + rest ∧ held' = given + rest ∧ deal s s' taken given

/-- Holding `held`, the task keeps to the deals that its labels stand for and ends with
nothing held. -/
def Owes (label : ∀ {α : Type}, Task σ α → ℓ → Prop)
    (deal : ℓ → σ → σ → Multiset δ → Multiset δ → Prop) (held : Multiset δ) : Task σ α → Prop
  | .done _ => held = 0
  | .act effect next => ∃ l, label (.act effect next) l ∧
      ∀ s, ∃ held', Deals (deal l) s (effect s) held held' ∧ Owes label deal held' (next s)
  | .yield rest => Owes label deal held rest

inductive Told (label : Task σ α → ℓ → Prop) :
    List (Task σ α) → σ → List (ℓ × σ × σ) → List (Task σ α) → σ → Prop
  | refl : Told label ts s [] ts s
  | act : ts[i]? = some (.act effect next) → label (.act effect next) l →
      Told label (ts.set i (next s)) (effect s) steps ts' s' →
      Told label ts s ((l, s, effect s) :: steps) ts' s'
  | resume : ts[i]? = some (.yield rest) → Told label (ts.set i rest) s steps ts' s' →
      Told label ts s steps ts' s'

inductive Booked (deal : ℓ → σ → σ → Multiset δ → Multiset δ → Prop) :
    σ → Multiset δ → List (ℓ × σ × σ) → σ → Multiset δ → Prop
  | nil : Booked deal s held [] s held
  | cons : Deals (deal l) s mid held between → Booked deal mid between steps s' held' →
      Booked deal s held ((l, s, mid) :: steps) s' held'

structure Inherited (label : ∀ {α : Type}, Task σ α → ℓ → Prop) : Prop where
  head {α β : Type} {u : Task σ α} {t : Task σ β} {l : ℓ} : Heads u t → label u l → label t l

theorem Heads.trans {u : Task σ α} {t : Task σ β} {v : Task σ γ} (h : Heads u t)
    (h' : Heads t v) : Heads u v := by
  induction h' with
  | refl => exact h
  | bind _ ih => exact ih.bind
  | throughTurn _ ih => exact ih.throughTurn
  | both _ ih => exact ih.both
  | alternate _ ih => exact ih.alternate
  | alternateLeft _ ih => exact ih.alternateLeft

theorem Heads.act {t : Task σ β} {effect : σ → σ} {next : σ → Task σ α}
    (h : Heads (.act effect next) t) : ∃ rest, t = .act effect rest := by
  induction h with
  | refl => exact ⟨_, rfl⟩
  | bind _ ih | throughTurn _ ih | both _ ih =>
    obtain ⟨rest, rfl⟩ := ih
    exact ⟨_, rfl⟩
  | alternate _ ih =>
    obtain ⟨rest, rfl⟩ := ih
    exact ⟨_, by rw [Task.alternate]⟩
  | alternateLeft _ ih =>
    obtain ⟨rest, rfl⟩ := ih
    exact ⟨_, by rw [Task.alternateLeft]⟩

theorem Deals.frame {deal : σ → σ → Multiset δ → Multiset δ → Prop}
    (h : Deals deal s s' held held') (extra : Multiset δ) :
    Deals deal s s' (held + extra) (held' + extra) := by
  obtain ⟨taken, given, rest, rfl, rfl, hd⟩ := h
  exact ⟨taken, given, rest + extra, add_assoc .., add_assoc .., hd⟩

theorem Deals.of_deal {deal : σ → σ → Multiset δ → Multiset δ → Prop}
    (h : deal s s' taken given) (rest : Multiset δ) :
    Deals deal s s' (taken + rest) (given + rest) :=
  ⟨taken, given, rest, rfl, rfl, h⟩

theorem Deals.all {deal : σ → σ → Multiset δ → Multiset δ → Prop} (h : deal s s' taken given) :
    Deals deal s s' taken given := by
  simpa using Deals.of_deal h 0

section
variable {label : ∀ {α : Type}, Task σ α → ℓ → Prop}
  {deal : ℓ → σ → σ → Multiset δ → Multiset δ → Prop} {held extra : Multiset δ}

-- ---------------------------------------------------------------------------
-- One after another
-- ---------------------------------------------------------------------------

variable (inherited : Inherited label)
include inherited

/-- What the first task does not hold is kept for the second. -/
theorem owes_bind {t : Task σ α} {k : α → Task σ β} (ht : Owes label deal held t)
    (hk : ∀ a, Owes label deal extra (k a)) : Owes label deal (held + extra) (t >>= k) := by
  induction t generalizing held with
  | done value =>
    obtain rfl : held = 0 := ht
    rw [zero_add]
    exact hk value
  | act effect next ih =>
    obtain ⟨l, hl, hs⟩ := ht
    refine ⟨l, inherited.head (.bind .refl) hl, fun s => ?_⟩
    obtain ⟨held', hd, hn⟩ := hs s
    exact ⟨held' + extra, hd.frame extra, ih s hn⟩
  | yield rest ih => exact ih ht

theorem owes_map {t : Task σ α} (f : α → β) (ht : Owes label deal held t) :
    Owes label deal held (f <$> t) := by
  rw [map_eq_pure_bind, ← add_zero held]
  exact owes_bind inherited ht fun _ => rfl

-- ---------------------------------------------------------------------------
-- Side by side
-- ---------------------------------------------------------------------------

theorem owes_throughTurn {suspended : Task σ α → Task σ γ} {ended : α → Task σ γ}
    (hs : ∀ held t, Owes label deal held t → Owes label deal (held + extra) (suspended t))
    (he : ∀ a, Owes label deal extra (ended a)) {t : Task σ α} (ht : Owes label deal held t) :
    Owes label deal (held + extra) (throughTurn suspended ended t) := by
  induction t generalizing held with
  | done value =>
    obtain rfl : held = 0 := ht
    rw [zero_add]
    exact he value
  | act effect next ih =>
    obtain ⟨l, hl, hn⟩ := ht
    refine ⟨l, inherited.head (.throughTurn .refl) hl, fun s => ?_⟩
    obtain ⟨held', hd, hn⟩ := hn s
    exact ⟨held' + extra, hd.frame extra, ih s hn⟩
  | yield rest => exact hs held rest ht

theorem owes_both {t : Task σ α} {u : Task σ β} (ht : Owes label deal held t)
    (hu : Owes label deal extra u) : Owes label deal (held + extra) (t.both u) := by
  induction t generalizing held extra u with
  | done value =>
    obtain rfl : held = 0 := ht
    rw [zero_add]
    exact owes_map inherited _ hu
  | act effect next ih =>
    obtain ⟨l, hl, hn⟩ := ht
    refine ⟨l, inherited.head (.both .refl) hl, fun s => ?_⟩
    obtain ⟨held', hd, hn⟩ := hn s
    exact ⟨held' + extra, hd.frame extra, ih s hn hu⟩
  | yield rest ih =>
    rw [add_comm]
    refine owes_throughTurn inherited (fun other u hu => ?_) (fun b => owes_map inherited _ ht) hu
    rw [add_comm]
    exact ih ht hu

theorem owes_alternate {t : Task σ α} {u : Task σ β} (ht : Owes label deal held t)
    (hu : Owes label deal extra u) :
    Owes label deal (held + extra) (t.alternate u) ∧
      Owes label deal (held + extra) (t.alternateLeft u) := by
  induction t generalizing held extra u with
  | done value =>
    obtain rfl : held = 0 := ht
    rw [zero_add]
    exact ⟨owes_map inherited _ hu, owes_map inherited _ hu⟩
  | act effect next ih =>
    obtain ⟨l, hl, hn⟩ := ht
    constructor
    · rw [Task.alternate]
      refine ⟨l, ?_, fun s => ?_⟩
      · have whole := inherited.head (.alternate (v := u) .refl) hl
        rwa [Task.alternate] at whole
      · obtain ⟨held', hd, hn⟩ := hn s
        exact ⟨held' + extra, hd.frame extra, (ih s hn hu).1⟩
    · rw [Task.alternateLeft]
      refine ⟨l, ?_, fun s => ?_⟩
      · have whole := inherited.head (.alternateLeft (v := u) .refl) hl
        rwa [Task.alternateLeft] at whole
      · obtain ⟨held', hd, hn⟩ := hn s
        exact ⟨held' + extra, hd.frame extra, (ih s hn hu).2⟩
  | yield rest ih =>
    have hr : Owes label deal held rest := ht
    refine ⟨?_, (ih hr hu).1⟩
    rw [add_comm]
    refine owes_throughTurn inherited (fun other u hu => ?_) (fun b => owes_map inherited _ ht) hu
    change Owes label deal (other + held) (throughTurn _ _ u)
    refine owes_throughTurn inherited (fun last u hu => ?_) (fun b => owes_map inherited _ hr) hu
    rw [add_comm]
    exact (ih hr hu).2

omit inherited

-- ---------------------------------------------------------------------------
-- Among each other
-- ---------------------------------------------------------------------------

theorem owes_act {ts : List (Task σ α)} {shares : List (Multiset δ)} (s : σ)
    (hs : List.Forall₂ (Owes label deal) shares ts) (hi : ts[i]? = some (.act effect next)) :
    ∃ l shares', label (.act effect next) l ∧ Deals (deal l) s (effect s) shares.sum shares'.sum ∧
      List.Forall₂ (Owes label deal) shares' (ts.set i (next s)) := by
  induction hs generalizing i with
  | nil => cases hi
  | @cons share first shares rest ht hts ih =>
    cases i with
    | zero =>
      obtain rfl := Option.some.inj hi
      obtain ⟨l, hl, hn⟩ := ht
      obtain ⟨share', hd, hn⟩ := hn s
      refine ⟨l, share' :: shares, hl, ?_, .cons hn hts⟩
      simpa using hd.frame shares.sum
    | succ i =>
      obtain ⟨l, shares', hl, hd, hts'⟩ := ih hi
      refine ⟨l, share :: shares', hl, ?_, .cons ht hts'⟩
      simpa [add_comm share] using hd.frame share

theorem owes_resume {ts : List (Task σ α)} {shares : List (Multiset δ)}
    (hs : List.Forall₂ (Owes label deal) shares ts) (hi : ts[i]? = some (.yield rest)) :
    List.Forall₂ (Owes label deal) shares (ts.set i rest) := by
  induction hs generalizing i with
  | nil => cases hi
  | cons ht hts ih =>
    cases i with
    | zero =>
      obtain rfl := Option.some.inj hi
      exact .cons ht hts
    | succ i => exact .cons ht (ih hi)

/-- The steps of tasks that keep to their deals can be labelled and booked. -/
theorem Trace.told {ts ts' : List (Task σ α)} {shares : List (Multiset δ)}
    (h : Trace ts s trace ts' s') (hs : List.Forall₂ (Owes label deal) shares ts) :
    ∃ steps shares', Told label ts s steps ts' s' ∧ steps.map Prod.snd = trace.map Prod.snd ∧
      List.Forall₂ (Owes label deal) shares' ts' ∧
      Booked deal s shares.sum steps s' shares'.sum := by
  induction h generalizing shares with
  | refl => exact ⟨[], shares, .refl, rfl, hs, .nil⟩
  | act hi _ ih =>
    obtain ⟨l, between, hl, hd, hmid⟩ := owes_act _ hs hi
    obtain ⟨steps, shares', told, same, hs', booked⟩ := ih hmid
    exact ⟨_, shares', .act hi hl told, by simp [same], hs', .cons hd booked⟩
  | resume hi _ ih =>
    obtain ⟨steps, shares', told, same, hs', booked⟩ := ih (owes_resume hs hi)
    exact ⟨steps, shares', .resume hi told, same, hs', booked⟩

theorem Booked.deals (h : Booked deal s held steps s' held') :
    ∀ step ∈ steps, ∃ taken given, deal step.1 step.2.1 step.2.2 taken given := by
  induction h with
  | nil => simp
  | cons hd _ ih =>
    obtain ⟨taken, given, -, -, -, h⟩ := hd
    exact List.forall_mem_cons.mpr ⟨⟨taken, given, h⟩, ih⟩

/-- Tasks that have ended hold nothing between them. -/
theorem sum_eq_zero_of_done {R : Multiset δ → Task σ α → Prop} {ts : List (Task σ α)}
    {shares : List (Multiset δ)} (ended : ∀ held value, R held (.done value) → held = 0)
    (hs : List.Forall₂ R shares ts) (hd : ∀ t ∈ ts, ∃ value, t = .done value) :
    shares.sum = 0 := by
  induction hs with
  | nil => rfl
  | cons ht _ ih =>
    obtain ⟨value, rfl⟩ := hd _ List.mem_cons_self
    rw [List.sum_cons, ended _ _ ht, zero_add]
    exact ih fun t ht => hd t (List.mem_cons_of_mem _ ht)

theorem Booked.split (h : Booked deal s held (before ++ after) s' held') :
    ∃ mid between, Booked deal s held before mid between ∧ Booked deal mid between after s' held' := by
  induction before generalizing s held with
  | nil => exact ⟨s, held, .nil, h⟩
  | cons step before ih =>
    obtain _ | ⟨hd, h⟩ := h
    obtain ⟨mid, between, hb, ha⟩ := ih h
    exact ⟨mid, between, .cons hd hb, ha⟩

end

end RouteBus.Task
