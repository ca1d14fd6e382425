import RouteBus.Task

/-!
# Tasks among each other

Tasks on one state that go on in any order. An order may change between any two
steps, so whatever a scheduler does at suspensions is among the orders here.
-/

namespace RouteBus.Task

inductive Moves : List (Task σ α) → σ → List (Task σ α) → σ → Prop
  | act : Moves (.act effect next :: ts) s (next s :: ts) (effect s)
  | resume : Moves (.yield rest :: ts) s (rest :: ts) s
  | later : Moves ts s ts' s' → Moves (t :: ts) s (t :: ts') s'

inductive Reaches : List (Task σ α) → σ → List (Task σ α) → σ → Prop
  | refl : Reaches ts s ts s
  | move : Reaches ts s ts' s' → Moves ts' s' ts'' s'' → Reaches ts s ts'' s''

theorem Reaches.trans (h : Reaches ts s ts' s') (h' : Reaches ts' s' ts'' s'') :
    Reaches ts s ts'' s'' := by
  induction h' with
  | refl => exact h
  | move _ hm ih => exact .move ih hm

theorem Reaches.later (h : Reaches ts s ts' s') : Reaches (t :: ts) s (t :: ts') s' := by
  induction h with
  | refl => exact .refl
  | move _ hm ih => exact .move ih (.later hm)

theorem Reaches.turn (t : Task σ α) (ts : List (Task σ α)) (s : σ) :
    Reaches (t :: ts) s ((t.turn s).1 :: ts) (t.turn s).2 := by
  induction t generalizing s with
  | done value => exact .refl
  | act effect next ih => exact .trans (.move .refl .act) (ih s (effect s))
  | yield rest => exact .move .refl .resume

/-- One task may run to its end before the others go on. -/
theorem Reaches.run (t : Task σ α) (ts : List (Task σ α)) (s : σ) :
    Reaches (t :: ts) s (.done (t.run s).1 :: ts) (t.run s).2 := by
  induction t generalizing s with
  | done value => exact .refl
  | act effect next ih => exact .trans (.move .refl .act) (ih s (effect s))
  | yield rest ih => exact .trans (.move .refl .resume) (ih s)

-- ---------------------------------------------------------------------------
-- One of them
-- ---------------------------------------------------------------------------

/-- The steps that a task makes, each from one state to another, and what is left of it
behind them. Others may change the state between any two. -/
inductive Walks : Task σ α → List (σ × σ) → Task σ α → Prop
  | refl : Walks t [] t
  | act : Walks (next s) steps t → Walks (.act effect next) ((s, effect s) :: steps) t
  | resume : Walks rest steps t → Walks (.yield rest) steps t

theorem Walks.trans (h : Walks t steps t') (h' : Walks t' steps' t'') :
    Walks t (steps ++ steps') t'' := by
  induction h with
  | refl => exact h'
  | act _ ih => exact .act (ih h')
  | resume _ ih => exact .resume (ih h')

/-- Alone, a task walks to its end. -/
theorem walks_run (t : Task σ α) (s : σ) : ∃ steps, Walks t steps (.done (t.run s).1) := by
  induction t generalizing s with
  | done value => exact ⟨[], .refl⟩
  | act effect next ih =>
    obtain ⟨steps, h⟩ := ih s (effect s)
    exact ⟨_, .act h⟩
  | yield rest ih =>
    obtain ⟨steps, h⟩ := ih s
    exact ⟨steps, .resume h⟩

theorem walks_done (h : Walks (.done a : Task σ α) steps (.done b)) : steps = [] ∧ b = a := by
  cases h
  exact ⟨rfl, rfl⟩

theorem walks_yield {rest : Task σ α} (h : Walks (.yield rest) steps (.done b)) :
    Walks rest steps (.done b) := by
  cases h with
  | resume h => exact h

def value? : Task σ α → Option α
  | .done value => some value
  | .act .. | .yield _ => none

/-- Of two tasks one after another the first is on its way, or it has ended and the second is. -/
theorem walks_bind_or {t : Task σ α} {k : α → Task σ β} (h : Walks (t >>= k) steps u) :
    (∃ rest, Walks t steps rest ∧ rest.value? = none ∧ u.value? = none) ∨
      ∃ a before after, steps = before ++ after ∧ Walks t before (.done a) ∧ Walks (k a) after u := by
  induction t generalizing steps with
  | done value => exact .inr ⟨value, [], steps, rfl, .refl, h⟩
  | act effect next ih =>
    cases h with
    | refl => exact .inl ⟨_, .refl, rfl, rfl⟩
    | act h =>
      rcases ih _ h with ⟨rest, ht, hu⟩ | ⟨a, before, after, rfl, ht, hk⟩
      · exact .inl ⟨rest, .act ht, hu⟩
      · exact .inr ⟨a, _ :: before, after, rfl, .act ht, hk⟩
  | yield rest ih =>
    cases h with
    | refl => exact .inl ⟨_, .refl, rfl, rfl⟩
    | resume h =>
      rcases ih h with ⟨rest, ht, hu⟩ | ⟨a, before, after, rfl, ht, hk⟩
      · exact .inl ⟨rest, .resume ht, hu⟩
      · exact .inr ⟨a, before, after, rfl, .resume ht, hk⟩

theorem walks_bind {t : Task σ α} {k : α → Task σ β} (h : Walks (t >>= k) steps (.done b)) :
    ∃ a before after, steps = before ++ after ∧ Walks t before (.done a) ∧
      Walks (k a) after (.done b) := by
  rcases walks_bind_or h with ⟨_, -, -, unended⟩ | ended
  · cases unended
  · exact ended

theorem Walks.bind {t : Task σ α} {k : α → Task σ β} (ht : Walks t before (.done a))
    (hk : Walks (k a) after last) : Walks (t >>= k) (before ++ after) last := by
  induction t generalizing before with
  | done value =>
    obtain ⟨rfl, rfl⟩ := walks_done ht
    exact hk
  | act effect next ih =>
    cases ht with
    | act ht => exact .act (ih _ ht)
  | yield rest ih =>
    cases ht with
    | resume ht => exact .resume (ih ht)

theorem Walks.map {t : Task σ α} (h : Walks t steps (.done a)) (f : α → β) :
    Walks (f <$> t) steps (.done (f a)) := by
  rw [map_eq_pure_bind, ← List.append_nil steps]
  exact h.bind .refl

theorem walks_map_or {t : Task σ α} {f : α → β} (h : Walks (f <$> t) steps u) :
    ∃ rest, Walks t steps rest ∧ u.value? = rest.value?.map f := by
  rw [map_eq_pure_bind] at h
  rcases walks_bind_or h with ⟨rest, ht, unended, hu⟩ | ⟨a, before, after, rfl, ht, hk⟩
  · refine ⟨rest, ht, ?_⟩
    rw [hu, unended]
    rfl
  · cases hk
    rw [List.append_nil]
    exact ⟨_, ht, rfl⟩

theorem walks_map {t : Task σ α} {f : α → β} (h : Walks (f <$> t) steps (.done b)) :
    ∃ a, b = f a ∧ Walks t steps (.done a) := by
  rw [map_eq_pure_bind] at h
  obtain ⟨a, before, after, rfl, ht, hk⟩ := walks_bind h
  obtain ⟨rfl, rfl⟩ := walks_done hk
  exact ⟨a, rfl, by rwa [List.append_nil]⟩

/-- A task that begins with a step has not begun, or has made that step first. -/
theorem walks_atomically_or {k : α → Task σ β} (h : Walks (atomically f >>= k) steps u) :
    steps = [] ∧ u.value? = none ∨
      ∃ s rest, steps = (s, (f s).2) :: rest ∧ Walks (k (f s).1) rest u := by
  cases h with
  | refl => exact .inl ⟨rfl, rfl⟩
  | act h => exact .inr ⟨_, _, rfl, h⟩

theorem walks_modify_or {k : Unit → Task σ β} (h : Walks (modify f >>= k) steps u) :
    steps = [] ∧ u.value? = none ∨ ∃ s rest, steps = (s, f s) :: rest ∧ Walks (k ()) rest u := by
  cases h with
  | refl => exact .inl ⟨rfl, rfl⟩
  | act h => exact .inr ⟨_, _, rfl, h⟩

theorem walks_atomically {k : α → Task σ β} (h : Walks (atomically f >>= k) steps (.done b)) :
    ∃ s rest, steps = (s, (f s).2) :: rest ∧ Walks (k (f s).1) rest (.done b) := by
  cases h with
  | act h => exact ⟨_, _, rfl, h⟩

theorem walks_modify {k : Unit → Task σ β} (h : Walks (modify f >>= k) steps (.done b)) :
    ∃ s rest, steps = (s, f s) :: rest ∧ Walks (k ()) rest (.done b) := by
  cases h with
  | act h => exact ⟨_, _, rfl, h⟩

theorem walks_read {k : α → Task σ β} (h : Walks (read f >>= k) steps (.done b)) :
    ∃ s rest, steps = (s, s) :: rest ∧ Walks (k (f s)) rest (.done b) := by
  cases h with
  | act h => exact ⟨_, _, rfl, h⟩

end RouteBus.Task
