import RouteBus.Proofs.Task.Interleaving
import RouteBus.Proofs.Task.Runs

/-!
# What a task ensures

What holds when a task has ended, told from what held when it was begun. What others may
do to the state while the task is suspended keeps the condition that holds there.
-/

namespace RouteBus.Task

variable {rely R : σ → σ → Prop} {pre mid : σ → Prop}

-- ---------------------------------------------------------------------------
-- Steps of the task itself
-- ---------------------------------------------------------------------------

def Keeps (R : σ → σ → Prop) : Task σ α → Prop
  | .done _ => True
  | .act effect next => ∀ s, R s (effect s) ∧ Keeps R (next s)
  | .yield rest => Keeps R rest

theorem keeps_bind {t : Task σ α} {k : α → Task σ β} (ht : t.Keeps R) (hk : ∀ a, (k a).Keeps R) :
    (t >>= k).Keeps R := by
  induction t with
  | done value => exact hk value
  | act effect next ih => exact fun s => ⟨(ht s).1, ih s (ht s).2⟩
  | yield rest ih => exact ih ht

theorem keeps_map (f : α → β) {t : Task σ α} (ht : t.Keeps R) : (f <$> t).Keeps R := by
  rw [map_eq_pure_bind]
  exact keeps_bind ht fun _ => trivial

theorem keeps_throughTurn {suspended : Task σ α → Task σ γ} {ended : α → Task σ γ}
    (hs : ∀ t, t.Keeps R → (suspended t).Keeps R) (he : ∀ a, (ended a).Keeps R) {t : Task σ α}
    (ht : t.Keeps R) : (throughTurn suspended ended t).Keeps R := by
  induction t with
  | done value => exact he value
  | act effect next ih => exact fun s => ⟨(ht s).1, ih s (ht s).2⟩
  | yield rest => exact hs rest ht

theorem keeps_both {t : Task σ α} {u : Task σ β} (ht : t.Keeps R) (hu : u.Keeps R) :
    (t.both u).Keeps R := by
  induction t generalizing u with
  | done value => exact keeps_map _ hu
  | act effect next ih => exact fun s => ⟨(ht s).1, ih s (ht s).2 hu⟩
  | yield rest ih =>
    have hr : rest.Keeps R := ht
    refine keeps_throughTurn (fun u hu => ?_) (fun value => ?_) hu
    · exact ih hr hu
    · exact keeps_map (·, value) hr

theorem keeps_alternating {t : Task σ α} {u : Task σ β} (ht : t.Keeps R) (hu : u.Keeps R) :
    (t.alternate u).Keeps R ∧ (t.alternateLeft u).Keeps R := by
  induction t generalizing u with
  | done value => exact ⟨keeps_map _ hu, keeps_map _ hu⟩
  | act effect next ih =>
    exact ⟨fun s => ⟨(ht s).1, (ih s (ht s).2 hu).1⟩, fun s => ⟨(ht s).1, (ih s (ht s).2 hu).2⟩⟩
  | yield rest ih =>
    have hr : rest.Keeps R := ht
    refine ⟨keeps_throughTurn (fun u hu => ?_) (fun value => ?_) hu, (ih hr hu).1⟩
    · change (throughTurn _ _ u).Keeps R
      refine keeps_throughTurn (fun u hu => ?_) (fun value => ?_) hu
      · exact (ih hr hu).2
      · exact keeps_map (·, value) hr
    · exact keeps_map (·, value) hr

theorem keeps_alternate {t : Task σ α} {u : Task σ β} (ht : t.Keeps R) (hu : u.Keeps R) :
    (t.alternate u).Keeps R :=
  (keeps_alternating ht hu).1

theorem Keeps.mono {R' : σ → σ → Prop} (h : ∀ s s', R s s' → R' s s') {t : Task σ α}
    (ht : t.Keeps R) : t.Keeps R' := by
  induction t with
  | done value => trivial
  | act effect next ih => exact fun s => ⟨h _ _ (ht s).1, ih s (ht s).2⟩
  | yield rest ih => exact ih ht

/-- A move is a step of this kind, or changes nothing. -/
theorem Moves.keeps {ts ts' : List (Task σ α)} (h : Moves ts s ts' s')
    (hk : ∀ t ∈ ts, t.Keeps R) : (∀ t ∈ ts', t.Keeps R) ∧ (R s s' ∨ s' = s) := by
  induction h with
  | act =>
    obtain ⟨ht, hts⟩ := List.forall_mem_cons.mp hk
    exact ⟨List.forall_mem_cons.mpr ⟨(ht _).2, hts⟩, .inl (ht _).1⟩
  | resume =>
    obtain ⟨ht, hts⟩ := List.forall_mem_cons.mp hk
    exact ⟨List.forall_mem_cons.mpr ⟨ht, hts⟩, .inr rfl⟩
  | later _ ih =>
    obtain ⟨ht, hts⟩ := List.forall_mem_cons.mp hk
    obtain ⟨hts', hr⟩ := ih hts
    exact ⟨List.forall_mem_cons.mpr ⟨ht, hts'⟩, hr⟩

/-- What steps of this kind keep holds throughout. -/
theorem Reaches.keeps {ts ts' : List (Task σ α)} (h : Reaches ts s ts' s')
    (hk : ∀ t ∈ ts, t.Keeps R) (step : ∀ s s', R s s' → pre s → pre s') (hp : pre s) :
    (∀ t ∈ ts', t.Keeps R) ∧ pre s' := by
  induction h with
  | refl => exact ⟨hk, hp⟩
  | move _ hm ih =>
    obtain ⟨hk', hp'⟩ := ih
    obtain ⟨hk'', hr | rfl⟩ := hm.keeps hk'
    · exact ⟨hk'', step _ _ hr hp'⟩
    · exact ⟨hk'', hp'⟩

-- ---------------------------------------------------------------------------
-- Conditions
-- ---------------------------------------------------------------------------

/-- Begun where `pre` holds, the task ends where `post` does. -/
def Ensures (rely : σ → σ → Prop) (pre : σ → Prop) (t : Task σ α) (post : α → σ → Prop) : Prop :=
  ∀ s a s', pre s → Runs rely t s a s' → post a s'

theorem Keeps.ensures {t : Task σ α} (ht : t.Keeps R) (step : ∀ s s', R s s' → pre s → pre s')
    (company : ∀ s s', rely s s' → pre s → pre s') : Ensures rely pre t fun _ => pre := by
  intro s a s' hs h
  -- Along the run: the task keeps the condition at its steps, the others where it is suspended.
  induction h with
  | done => exact hs
  | act _ ih => exact ih (ht _).2 (step _ _ (ht _).1 hs)
  | yield hm _ ih => exact ih ht (company _ _ hm hs)

theorem ensures_done {post : α → σ → Prop} (h : ∀ s, pre s → post a s) :
    Ensures rely pre (.done a) post := by
  intro s b s' hs hr
  obtain ⟨rfl, rfl⟩ := runs_done.mp hr
  exact h _ hs

theorem ensures_bind {t : Task σ α} {k : α → Task σ β} {mid : α → σ → Prop} {post : β → σ → Prop}
    (ht : Ensures rely pre t mid) (hk : ∀ a, Ensures rely (mid a) (k a) post) :
    Ensures rely pre (t >>= k) post := by
  intro s b s' hs h
  obtain ⟨a, m, ha, hb⟩ := runs_bind.mp h
  exact hk a m b s' (ht s a m hs ha) hb

/-- The first task gives one value only. -/
theorem ensures_then {t : Task σ α} {k : α → Task σ β} (value : α) {post : β → σ → Prop}
    (ht : Ensures rely pre t fun a s => a = value ∧ mid s) (hk : Ensures rely mid (k value) post) :
    Ensures rely pre (t >>= k) post := by
  refine ensures_bind ht fun a => ?_
  rintro s b s' ⟨rfl, hs⟩ h
  exact hk s b s' hs h

theorem ensures_map {t : Task σ α} {f : α → β} {post : β → σ → Prop}
    (ht : Ensures rely pre t fun a => post (f a)) : Ensures rely pre (f <$> t) post := by
  rw [map_eq_pure_bind]
  exact ensures_bind ht fun _ => ensures_done fun _ => id

theorem ensures_atomically {f : σ → α × σ} {post : α → σ → Prop}
    (h : ∀ s, pre s → post (f s).1 (f s).2) : Ensures rely pre (atomically f) post := by
  intro s a s' hs hr
  rw [atomically, runs_act, runs_done] at hr
  obtain ⟨rfl, rfl⟩ := hr
  exact h s hs

theorem ensures_read {f : σ → α} {post : α → σ → Prop} (h : ∀ s, pre s → post (f s) s) :
    Ensures rely pre (read f) post := by
  intro s a s' hs hr
  rw [read, runs_act, runs_done] at hr
  obtain ⟨rfl, he⟩ := hr
  exact he ▸ h s hs

theorem ensures_modify {f : σ → σ} {post : Unit → σ → Prop} (h : ∀ s, pre s → post () (f s)) :
    Ensures rely pre (modify f) post := by
  intro s a s' hs hr
  rw [modify, runs_act, runs_done] at hr
  obtain ⟨-, rfl⟩ := hr
  exact h s hs

end RouteBus.Task
