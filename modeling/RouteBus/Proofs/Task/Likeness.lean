import RouteBus.Proofs.Task.Runs

/-!
# Tasks that are alike

Two tasks on states that are alike, which make the same steps and are suspended at the same
points. On the way either may make further steps, as long as they leave its state like that of
the other. Nobody who takes states that are alike for the same can tell the two tasks apart.
-/

namespace RouteBus.Task

variable {R rely : σ → σ → Prop} {S : α → β → Prop}

inductive Alike (R : σ → σ → Prop) (S : α → β → Prop) : Task σ α → Task σ β → Prop
  | done : S a b → Alike R S (.done a) (.done b)
  | act : (∀ s s', R s s' → R (effect s) (effect' s')) →
      (∀ s s', R s s' → Alike R S (next s) (next' s')) →
      Alike R S (.act effect next) (.act effect' next')
  | yield : Alike R S t u → Alike R S (.yield t) (.yield u)
  | left : (∀ s s', R s s' → R (effect s) s') → (∀ s, Alike R S (next s) u) →
      Alike R S (.act effect next) u
  | right : (∀ s s', R s s' → R s (effect s')) → (∀ s, Alike R S t (next s)) →
      Alike R S t (.act effect next)

def Heedless (R rely : σ → σ → Prop) : Prop :=
  ∀ s s' mid, R s s' → rely s mid → ∃ mid', rely s' mid' ∧ R mid mid'

/-- Among heedless others, each run of one of the tasks is like a run of the other. -/
def Indistinct (R : σ → σ → Prop) (t : Task σ α) (u : Task σ β) : Prop :=
  ∀ rely, Heedless R rely → ∀ s s', R s s' →
    (∀ a last, Runs rely t s a last → ∃ b last', Runs rely u s' b last' ∧ R last last') ∧
    ∀ b last', Runs rely u s' b last' → ∃ a last, Runs rely t s a last ∧ R last last'

-- ---------------------------------------------------------------------------
-- Putting tasks together
-- ---------------------------------------------------------------------------

theorem Alike.bind {S' : γ → δ → Prop} {t : Task σ α} {u : Task σ β} {k : α → Task σ γ}
    {l : β → Task σ δ} (h : Alike R S t u) (hk : ∀ a b, S a b → Alike R S' (k a) (l b)) :
    Alike R S' (t >>= k) (u >>= l) := by
  induction h with
  | done hS => exact hk _ _ hS
  | act step _ ih => exact .act step ih
  | yield _ ih => exact .yield ih
  | left step _ ih => exact .left step ih
  | right step _ ih => exact .right step ih

theorem alike_atomically {f : σ → α × σ} {g : σ → β × σ}
    (h : ∀ s s', R s s' → S (f s).1 (g s').1 ∧ R (f s).2 (g s').2) :
    Alike R S (atomically f) (atomically g) :=
  .act (fun s s' hR => (h s s' hR).2) fun s s' hR => .done (h s s' hR).1

theorem alike_modify {f g : σ → σ} (h : ∀ s s', R s s' → R (f s) (g s')) :
    Alike R Eq (modify f) (modify g) :=
  .act h fun _ _ _ => .done rfl

/-- A step whose effect does not count. -/
theorem alike_aside {f : σ → σ} (h : ∀ s s', R s s' → R (f s) s') {k : Unit → Task σ α}
    {u : Task σ β} (hk : Alike R S (k ()) u) : Alike R S (modify f >>= k) u :=
  .left h fun _ => hk

-- ---------------------------------------------------------------------------
-- Runs
-- ---------------------------------------------------------------------------

theorem Alike.symm (sym : ∀ s s', R s s' → R s' s) {t : Task σ α} {u : Task σ β}
    (h : Alike R S t u) : Alike R (fun b a => S a b) u t := by
  induction h with
  | done hS => exact .done hS
  | act step _ ih =>
    exact .act (fun s s' hR => sym _ _ (step s' s (sym _ _ hR))) fun s s' hR => ih s' s (sym _ _ hR)
  | yield _ ih => exact .yield ih
  | left step _ ih => exact .right (fun s s' hR => sym _ _ (step s' s (sym _ _ hR))) ih
  | right step _ ih => exact .left (fun s s' hR => sym _ _ (step s' s (sym _ _ hR))) ih

/-- What one of them may come to, the other may come to something like. -/
theorem Alike.runs {t : Task σ α} {u : Task σ β} (h : Alike R S t u) (heedless : Heedless R rely)
    (hR : R s s') (hr : Runs rely t s a last) :
    ∃ b last', Runs rely u s' b last' ∧ S a b ∧ R last last' := by
  induction h generalizing s s' with
  | done hS =>
    obtain ⟨rfl, rfl⟩ := runs_done.mp hr
    exact ⟨_, s', .done, hS, hR⟩
  | act step _ ih =>
    obtain ⟨b, last', hu, rest⟩ := ih s s' hR (step s s' hR) (runs_act.mp hr)
    exact ⟨b, last', .act hu, rest⟩
  | yield _ ih =>
    obtain ⟨mid, hm, hr⟩ := runs_yield.mp hr
    obtain ⟨mid', hm', hR⟩ := heedless s s' mid hR hm
    obtain ⟨b, last', hu, rest⟩ := ih hR hr
    exact ⟨b, last', .yield hm' hu, rest⟩
  | left step _ ih => exact ih s (step s s' hR) (runs_act.mp hr)
  | right step _ ih =>
    obtain ⟨b, last', hu, rest⟩ := ih s' (step s s' hR) hr
    exact ⟨b, last', .act hu, rest⟩

theorem Alike.indistinct (sym : ∀ s s', R s s' → R s' s) {t : Task σ α} {u : Task σ β}
    (h : Alike R S t u) : Indistinct R t u := by
  intro rely heedless s s' hR
  constructor
  · intro a last hr
    obtain ⟨b, last', hu, -, hR⟩ := h.runs heedless hR hr
    exact ⟨b, last', hu, hR⟩
  · intro b last' hu
    obtain ⟨a, last, hr, -, hR⟩ := (h.symm sym).runs heedless (sym _ _ hR) hu
    exact ⟨a, last, hr, sym _ _ hR⟩

end RouteBus.Task
