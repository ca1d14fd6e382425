import RouteBus.Proofs.Task.Ensures

/-!
# Traces

A run told as the steps that were made in it, one after another, each with the place of the task
that made it. What a task does in a run are its own steps of the trace.
-/

namespace RouteBus.Task

inductive Trace :
    List (Task σ α) → σ → List (Nat × σ × σ) → List (Task σ α) → σ → Prop
  | refl : Trace ts s [] ts s
  | act : ts[i]? = some (.act effect next) → Trace (ts.set i (next s)) (effect s) trace ts' s' →
      Trace ts s ((i, s, effect s) :: trace) ts' s'
  | resume : ts[i]? = some (.yield rest) → Trace (ts.set i rest) s trace ts' s' →
      Trace ts s trace ts' s'

/-- The steps that the task at a place made. -/
def own (i : Nat) (trace : List (Nat × σ × σ)) : List (σ × σ) :=
  trace.filterMap fun (j, step) => if j = i then some step else none

variable {ts ts' : List (Task σ α)} {s s' : σ} {trace before after : List (Nat × σ × σ)}

@[simp] theorem own_append (i : Nat) (before after : List (Nat × σ × σ)) :
    own i (before ++ after) = own i before ++ own i after :=
  List.filterMap_append ..

@[simp] theorem own_cons_self (i : Nat) (step : σ × σ) (trace : List (Nat × σ × σ)) :
    own i ((i, step) :: trace) = step :: own i trace := by
  simp [own]

theorem own_cons_other (h : j ≠ i) (step : σ × σ) (trace : List (Nat × σ × σ)) :
    own i ((j, step) :: trace) = own i trace := by
  simp [own, h]

@[simp] theorem own_map_self (i : Nat) (steps : List (σ × σ)) :
    own i (steps.map (i, ·)) = steps := by
  induction steps with
  | nil => rfl
  | cons step steps ih => rw [List.map_cons, own_cons_self, ih]

theorem own_eq_cons (h : own i trace = step :: steps) :
    ∃ before after, trace = before ++ (i, step) :: after ∧ own i before = [] ∧
      own i after = steps := by
  obtain ⟨before, ⟨j, other⟩, after, rfl, hb, ho, ha⟩ := List.filterMap_eq_cons_iff.mp h
  obtain ⟨rfl, he⟩ := Option.ite_none_right_eq_some.mp ho
  obtain rfl := Option.some.inj he
  exact ⟨before, after, rfl, List.filterMap_eq_nil_iff.mpr hb, ha⟩

theorem mem_of_mem_own (h : step ∈ own i trace) : (i, step) ∈ trace := by
  obtain ⟨⟨j, other⟩, hm, ho⟩ := List.mem_filterMap.mp h
  obtain ⟨rfl, he⟩ := Option.ite_none_right_eq_some.mp ho
  obtain rfl := Option.some.inj he
  exact hm

namespace Trace

-- ---------------------------------------------------------------------------
-- Parts of a trace
-- ---------------------------------------------------------------------------

theorem trans (h : Trace ts s before mid m) (h' : Trace mid m after ts' s') :
    Trace ts s (before ++ after) ts' s' := by
  induction h with
  | refl => exact h'
  | act hi _ ih => exact .act hi (ih h')
  | resume hi _ ih => exact .resume hi (ih h')

theorem split (h : Trace ts s (before ++ after) ts' s') :
    ∃ mid m, Trace ts s before mid m ∧ Trace mid m after ts' s' := by
  generalize hw : before ++ after = whole at h
  induction h generalizing before with
  | refl =>
    obtain ⟨rfl, rfl⟩ := List.append_eq_nil_iff.mp hw
    exact ⟨_, _, .refl, .refl⟩
  | act hi h ih =>
    cases before with
    | nil =>
      subst hw
      exact ⟨_, _, .refl, .act hi h⟩
    | cons step before =>
      obtain ⟨rfl, hrest⟩ := List.cons.inj hw
      obtain ⟨mid, m, hb, ha⟩ := ih hrest
      exact ⟨mid, m, .act hi hb, ha⟩
  | resume hi _ ih =>
    obtain ⟨mid, m, hb, ha⟩ := ih hw
    exact ⟨mid, m, .resume hi hb, ha⟩

theorem of_cons (h : Trace ts s ((i, p, q) :: after) ts' s') :
    p = s ∧ ∃ mid, Trace mid q after ts' s' := by
  generalize hw : (i, p, q) :: after = whole at h
  induction h with
  | refl => cases hw
  | act hi h _ =>
    cases hw
    exact ⟨rfl, _, h⟩
  | resume _ _ ih => exact ih hw

/-- What is done behind a step begins where the step ends. -/
theorem behind (h : Trace ts s trace ts' s') (suffix : (i, p, q) :: after <:+ trace) :
    ∃ mid, Trace mid q after ts' s' := by
  obtain ⟨before, rfl⟩ := suffix
  obtain ⟨mid, m, -, h⟩ := h.split
  exact h.of_cons.2

-- ---------------------------------------------------------------------------
-- What the tasks do
-- ---------------------------------------------------------------------------

theorem walks (h : Trace ts s trace ts' s') (hi : ts[i]? = some t) :
    ∃ t', ts'[i]? = some t' ∧ Walks t (own i trace) t' := by
  induction h generalizing t with
  | refl => exact ⟨t, hi, .refl⟩
  | @act _ j _ _ _ _ _ _ hj _ ih =>
    obtain ⟨hl, -⟩ := List.getElem?_eq_some_iff.mp hj
    by_cases hji : j = i
    · subst hji
      obtain rfl := Option.some.inj (hj.symm.trans hi)
      obtain ⟨t', ht', hw⟩ := ih (List.getElem?_set_self hl)
      rw [own_cons_self]
      exact ⟨t', ht', .act hw⟩
    · rw [own_cons_other hji]
      exact ih (by rw [List.getElem?_set_ne hji]; exact hi)
  | @resume _ j _ _ _ _ _ hj _ ih =>
    obtain ⟨hl, -⟩ := List.getElem?_eq_some_iff.mp hj
    by_cases hji : j = i
    · subst hji
      obtain rfl := Option.some.inj (hj.symm.trans hi)
      obtain ⟨t', ht', hw⟩ := ih (List.getElem?_set_self hl)
      exact ⟨t', ht', .resume hw⟩
    · exact ih (by rw [List.getElem?_set_ne hji]; exact hi)

theorem mem_bound (h : Trace ts s trace ts' s') : ∀ step ∈ trace, step.1 < ts.length := by
  induction h with
  | refl => simp
  | act hi _ ih =>
    rw [List.length_set] at ih
    exact List.forall_mem_cons.mpr ⟨(List.getElem?_eq_some_iff.mp hi).1, ih⟩
  | resume _ _ ih =>
    rw [List.length_set] at ih
    exact ih

/-- What every step keeps holds where each of them begins, and at the end. -/
theorem carries {P : σ → Prop} (h : Trace ts s trace ts' s')
    (keeps : ∀ step ∈ trace, P step.2.1 → P step.2.2) (hp : P s) :
    (∀ step ∈ trace, P step.2.1) ∧ P s' := by
  induction h with
  | refl => exact ⟨by simp, hp⟩
  | act _ _ ih =>
    obtain ⟨first, rest⟩ := List.forall_mem_cons.mp keeps
    obtain ⟨all, last⟩ := ih rest (first hp)
    exact ⟨List.forall_mem_cons.mpr ⟨hp, all⟩, last⟩
  | resume _ _ ih => exact ih keeps hp

end Trace

theorem Walks.keeps (h : Walks t steps t') (hk : t.Keeps R) : ∀ step ∈ steps, R step.1 step.2 := by
  induction h with
  | refl => simp
  | act _ ih => exact List.forall_mem_cons.mpr ⟨(hk _).1, ih (hk _).2⟩
  | resume _ ih => exact ih hk

/-- A step that the first task does not make is made behind it. -/
theorem Walks.beyond {u : Task σ α} {k : α → Task σ β} {before after : List (σ × σ)}
    (h : Walks (u >>= k) (before ++ step :: after) (.done b)) (hk : u.Keeps R)
    (hs : ¬ R step.1 step.2) :
    ∃ a rest, Walks (k a) (rest ++ step :: after) (.done b) := by
  obtain ⟨a, first, second, he, hu, hw⟩ := walks_bind h
  have kept := hu.keeps hk
  rcases List.append_eq_append_iff.mp he with ⟨between, rfl, hb⟩ | ⟨between, rfl, rfl⟩
  · rcases between with _ | ⟨other, between⟩
    · exact ⟨a, [], by rwa [List.nil_append, hb]⟩
    · obtain ⟨rfl, rfl⟩ := List.cons_eq_cons.mp hb
      exact absurd (kept step (by simp)) hs
  · exact ⟨a, between, hw⟩

/-- Every step is of the kind that the task at its place keeps to. -/
theorem Trace.keeps {R : Nat → σ → σ → Prop} (h : Trace ts s trace ts' s')
    (hk : ∀ i (t : Task σ α), ts[i]? = some t → t.Keeps (R i)) :
    ∀ step ∈ trace, R step.1 step.2.1 step.2.2 := by
  rintro ⟨i, step⟩ hm
  obtain ⟨t, ht⟩ : ∃ t, ts[i]? = some t := ⟨_, List.getElem?_eq_getElem (h.mem_bound _ hm)⟩
  obtain ⟨_, -, hw⟩ := h.walks ht
  refine hw.keeps (hk i t ht) step ?_
  exact List.mem_filterMap.mpr ⟨(i, step), hm, if_pos rfl⟩

/-- One task may do more than the others. -/
theorem Trace.keeps_but {P Q : σ → σ → Prop} {t : Task σ α} (h : Trace ts s trace ts' s')
    (hj : ts[j]? = some t) (ht : t.Keeps P) (weaker : ∀ s s', Q s s' → P s s')
    (others : ∀ k (t : Task σ α), ts[k]? = some t → k = j ∨ t.Keeps Q) :
    ∀ step ∈ trace, P step.2.1 step.2.2 ∧ (step.1 ≠ j → Q step.2.1 step.2.2) := by
  refine h.keeps (R := fun k s s' => P s s' ∧ (k ≠ j → Q s s')) fun k t' hk => ?_
  by_cases same : k = j
  · subst same
    obtain rfl := Option.some.inj (hk.symm.trans hj)
    exact ht.mono fun _ _ hp => ⟨hp, fun other => absurd rfl other⟩
  · have kept := (others k t' hk).resolve_left same
    exact kept.mono fun _ _ hq => ⟨weaker _ _ hq, fun _ => hq⟩

-- ---------------------------------------------------------------------------
-- Every run has a trace
-- ---------------------------------------------------------------------------

theorem Trace.later (h : Trace ts s trace ts' s') (t : Task σ α) :
    Trace (t :: ts) s (trace.map fun (i, step) => (i + 1, step)) (t :: ts') s' := by
  induction h with
  | refl => exact .refl
  | act hi _ ih => exact .act (i := _ + 1) hi ih
  | resume hi _ ih => exact .resume (i := _ + 1) hi ih

theorem Moves.exists_trace (h : Moves ts s ts' s') : ∃ trace, Trace ts s trace ts' s' := by
  induction h with
  | act => exact ⟨_, .act (i := 0) rfl .refl⟩
  | resume => exact ⟨_, .resume (i := 0) rfl .refl⟩
  | later _ ih =>
    obtain ⟨trace, h⟩ := ih
    exact ⟨_, h.later _⟩

theorem Reaches.exists_trace (h : Reaches ts s ts' s') : ∃ trace, Trace ts s trace ts' s' := by
  induction h with
  | refl => exact ⟨[], .refl⟩
  | move _ hm ih =>
    obtain ⟨before, hb⟩ := ih
    obtain ⟨after, ha⟩ := hm.exists_trace
    exact ⟨_, hb.trans ha⟩

-- ---------------------------------------------------------------------------
-- Every trace is of a run
-- ---------------------------------------------------------------------------

/-- What a task may do at the head of a list, it may do wherever it stands. -/
theorem moves_set (hi : ts[i]? = some t) (head : ∀ later, Moves (t :: later) s (t' :: later) s') :
    Moves ts s (ts.set i t') s' := by
  induction ts generalizing i with
  | nil => cases hi
  | cons first ts ih =>
    cases i with
    | zero =>
      cases hi
      exact head ts
    | succ i => exact .later (ih hi)

theorem moves_act (hi : ts[i]? = some (.act effect next)) :
    Moves ts s (ts.set i (next s)) (effect s) :=
  moves_set hi fun _ => .act

theorem moves_resume (hi : ts[i]? = some (.yield rest)) : Moves ts s (ts.set i rest) s :=
  moves_set hi fun _ => .resume

theorem Trace.reaches (h : Trace ts s trace ts' s') : Reaches ts s ts' s' := by
  induction h with
  | refl => exact .refl
  | act hi _ ih => exact .trans (.move .refl (moves_act hi)) ih
  | resume hi _ ih => exact .trans (.move .refl (moves_resume hi)) ih

/-- A step of a trace is a move between two parts of the run. -/
theorem Trace.moves (h : Trace ts s trace ts' s') (hm : (i, p, q) ∈ trace) :
    ∃ mid mid', Reaches ts s mid p ∧ Moves mid p mid' q ∧ Reaches mid' q ts' s' := by
  induction h with
  | refl => cases hm
  | act hi h ih =>
    rcases List.mem_cons.mp hm with first | later
    · cases first
      exact ⟨_, _, .refl, moves_act hi, h.reaches⟩
    · obtain ⟨mid, mid', before, move, after⟩ := ih later
      exact ⟨mid, mid', .trans (.move .refl (moves_act hi)) before, move, after⟩
  | resume hi _ ih =>
    obtain ⟨mid, mid', before, move, after⟩ := ih hm
    exact ⟨mid, mid', .trans (.move .refl (moves_resume hi)) before, move, after⟩

/-- The run up to the end of the first step, and the trace from there on. -/
theorem Trace.first (h : Trace ts s ((i, p, q) :: after) ts' s') :
    p = s ∧ ∃ mid, Reaches ts s mid q ∧ Trace mid q after ts' s' := by
  generalize hw : (i, p, q) :: after = whole at h
  induction h with
  | refl => cases hw
  | act hi h _ =>
    cases hw
    exact ⟨rfl, _, .move .refl (moves_act hi), h⟩
  | resume hi _ ih =>
    obtain ⟨hp, mid, hr, h⟩ := ih hw
    exact ⟨hp, mid, .trans (.move .refl (moves_resume hi)) hr, h⟩

theorem set_self {t : Task σ α} (hi : ts[i]? = some t) : ts.set i t = ts := by
  obtain ⟨hl, rfl⟩ := List.getElem?_eq_some_iff.mp hi
  exact List.set_getElem_self hl

theorem getElem?_set {t t' : Task σ α} (hi : ts[i]? = some t) : (ts.set i t')[i]? = some t' :=
  List.getElem?_set_self (List.getElem?_eq_some_iff.mp hi).1

/-- A task that runs while the others wait makes all the steps. -/
theorem trace_turn (hi : ts[i]? = some t) (s : σ) :
    ∃ steps : List (σ × σ), Trace ts s (steps.map (i, ·)) (ts.set i (t.turn s).1) (t.turn s).2 := by
  induction t generalizing ts s with
  | done value => exact ⟨[], by rw [turn, set_self hi]; exact .refl⟩
  | act effect next ih =>
    obtain ⟨steps, h⟩ := ih s (getElem?_set hi) (effect s)
    rw [List.set_set] at h
    exact ⟨(s, effect s) :: steps, .act hi h⟩
  | yield rest => exact ⟨[], .resume hi .refl⟩

theorem trace_run (hi : ts[i]? = some t) (s : σ) :
    ∃ steps : List (σ × σ),
      Trace ts s (steps.map (i, ·)) (ts.set i (.done (t.run s).1)) (t.run s).2 := by
  induction t generalizing ts s with
  | done value => exact ⟨[], by rw [run, set_self hi]; exact .refl⟩
  | act effect next ih =>
    obtain ⟨steps, h⟩ := ih s (getElem?_set hi) (effect s)
    rw [List.set_set] at h
    exact ⟨(s, effect s) :: steps, .act hi h⟩
  | yield rest ih =>
    obtain ⟨steps, h⟩ := ih (getElem?_set hi) s
    rw [List.set_set] at h
    exact ⟨steps, .resume hi h⟩

end RouteBus.Task
