import RouteBus.Task

/-!
# Runs of a task

A run takes a task to its end. While the task is suspended others may change the
state, within what `rely` allows, so a run says what the task does in any company.
-/

namespace RouteBus.Task

/-- Begun in `s`, the task may end with `a` in `s'`. -/
inductive Runs (rely : σ → σ → Prop) : Task σ α → σ → α → σ → Prop
  | done : Runs rely (.done a) s a s
  | act : Runs rely (next s) (effect s) a s' → Runs rely (.act effect next) s a s'
  | yield : rely s mid → Runs rely rest mid a s' → Runs rely (.yield rest) s a s'

variable {rely : σ → σ → Prop}

theorem Runs.mono {rely' : σ → σ → Prop} (h : Runs rely t s a s')
    (weaker : ∀ s s', rely s s' → rely' s s') : Runs rely' t s a s' := by
  induction h with
  | done => exact .done
  | act _ ih => exact .act ih
  | yield hm _ ih => exact .yield (weaker _ _ hm) ih

@[simp] theorem runs_done : Runs rely (.done b) s a s' ↔ a = b ∧ s' = s := by
  constructor
  · rintro ⟨⟩; exact ⟨rfl, rfl⟩
  · rintro ⟨rfl, rfl⟩; exact .done

@[simp] theorem runs_act :
    Runs rely (.act effect next) s a s' ↔ Runs rely (next s) (effect s) a s' := by
  constructor
  · rintro ⟨⟩; assumption
  · exact .act

@[simp] theorem runs_yield :
    Runs rely (.yield rest) s a s' ↔ ∃ mid, rely s mid ∧ Runs rely rest mid a s' := by
  constructor
  · rintro ⟨⟩; exact ⟨_, ‹_›, ‹_›⟩
  · rintro ⟨mid, hm, h⟩; exact .yield hm h

theorem runs_bind {t : Task σ α} {k : α → Task σ β} :
    Runs rely (t >>= k) s b s' ↔ ∃ a mid, Runs rely t s a mid ∧ Runs rely (k a) mid b s' := by
  induction t generalizing s with
  | done value => simp [and_assoc]
  | act effect next ih => simp [ih]
  | yield rest ih =>
    simp only [yield_bind, runs_yield, ih]
    constructor
    · rintro ⟨mid, hm, a, last, h, hk⟩; exact ⟨a, last, ⟨mid, hm, h⟩, hk⟩
    · rintro ⟨a, last, ⟨mid, hm, h⟩, hk⟩; exact ⟨mid, hm, a, last, h, hk⟩

@[simp] theorem runs_atomically_bind {k : α → Task σ β} :
    Runs rely (.atomically f >>= k) s b s' ↔ Runs rely (k (f s).1) (f s).2 b s' := by
  simp [atomically]

@[simp] theorem runs_modify_bind {k : Unit → Task σ β} :
    Runs rely (.modify f >>= k) s b s' ↔ Runs rely (k ()) (f s) b s' := by
  simp [modify]

/-- Where the others may keep still, a task runs to its end as if alone. -/
theorem runs_run (still : ∀ s, rely s s) (t : Task σ α) (s : σ) :
    Runs rely t s (t.run s).1 (t.run s).2 := by
  induction t generalizing s with
  | done value => exact .done
  | act effect next ih => exact .act (ih s (effect s))
  | yield rest ih => exact .yield (still s) (ih s)

/-- A run among others that do nothing is the run of the task alone. -/
theorem runs_eq_iff {t : Task σ α} : Runs Eq t s a s' ↔ t.run s = (a, s') := by
  constructor
  · intro h
    induction h with
    | done => rfl
    | act _ ih => exact ih
    | yield hm _ ih => subst hm; exact ih
  · intro h
    have := runs_run (fun _ => rfl) t s
    rwa [h] at this

end RouteBus.Task
