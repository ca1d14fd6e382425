import Mathlib.Algebra.BigOperators.Group.Finset.Basic
import Mathlib.Data.List.Chain
import RouteBus.Proofs.Task.Traces

/-!
# Upkeep

A task may break an invariant as long as it is busy, provided that no other goes on meanwhile,
and has restored it wherever another may. What holds then holds in all runs that no task is
disturbed in.
-/

namespace RouteBus.Task

structure Upkeep (σ δ : Type) where
  /-- The invariant, on a state and all that is held by any task. -/
  holds : σ → Multiset δ → Prop
  /-- A task is amid something that no other may come between. -/
  busy : σ → Prop

variable {σ δ : Type} {K : Upkeep σ δ} {held extra more : Multiset δ}

/-- From here the task restores the invariant wherever others may go on, and ends holding what
`after` says; `extra` is what the others hold. -/
def Restores (K : Upkeep σ δ) (after : α → Multiset δ) : Task σ α → σ → Multiset δ → Prop
  | .done value, s, extra => K.holds s (after value + extra)
  | .act effect next, s, extra =>
    K.busy (effect s) ∧ Restores K after (next s) (effect s) extra ∨
      ∃ held, K.holds (effect s) (held + extra) ∧
        ∀ s' others, K.holds s' (held + others) → Restores K after (next s) s' others
  | .yield rest, s, extra =>
    ∃ held, K.holds s (held + extra) ∧
      ∀ s' others, K.holds s' (held + others) → Restores K after rest s' others

def Upholds (K : Upkeep σ δ) (held : Multiset δ) (after : α → Multiset δ) (t : Task σ α) : Prop :=
  ∀ s extra, K.holds s (held + extra) → Restores K after t s extra

-- ---------------------------------------------------------------------------
-- One after another
-- ---------------------------------------------------------------------------

theorem upholds_done (value : α) (after : α → Multiset δ) :
    Upholds K (after value) after (.done value : Task σ α) :=
  fun _ _ h => h

theorem upholds_yield {after : α → Multiset δ} {rest : Task σ α} :
    Upholds K held after (.yield rest) ↔ Upholds K held after rest := by
  constructor
  · intro h s extra hi
    obtain ⟨held', hi', hr⟩ := h s extra hi
    exact hr s extra hi'
  · exact fun h s extra hi => ⟨held, hi, h⟩

theorem upholds_act {after : α → Multiset δ} {effect : σ → σ} {next : σ → Task σ α}
    (mid : σ → Multiset δ)
    (he : ∀ s extra, K.holds s (held + extra) → K.holds (effect s) (mid s + extra))
    (hn : ∀ s, Upholds K (mid s) after (next s)) : Upholds K held after (.act effect next) :=
  fun s extra hi => .inr ⟨mid s, he s extra hi, hn s⟩

theorem upholds_atomically {f : σ → α × σ} {after : α → Multiset δ}
    (h : ∀ s extra, K.holds s (held + extra) → K.holds (f s).2 (after (f s).1 + extra)) :
    Upholds K held after (atomically f) :=
  upholds_act (fun s => after (f s).1) h fun _ => upholds_done _ _

theorem upholds_modify {f : σ → σ}
    (h : ∀ s extra, K.holds s (held + extra) → K.holds (f s) (more + extra)) :
    Upholds K held (fun _ => more) (modify f) :=
  upholds_act (fun _ => more) h fun _ => upholds_done () fun _ => more

theorem restores_bind {mid : α → Multiset δ} {after : β → Multiset δ} {t : Task σ α}
    {k : α → Task σ β} (ht : Restores K mid t s extra)
    (hk : ∀ a, Upholds K (mid a) after (k a)) : Restores K after (t >>= k) s extra := by
  induction t generalizing s extra with
  | done value => exact hk value s extra ht
  | act effect next ih =>
    rcases ht with ⟨hb, hn⟩ | ⟨held, hi, hn⟩
    · exact .inl ⟨hb, ih s hn⟩
    · exact .inr ⟨held, hi, fun s' others h => ih s (hn s' others h)⟩
  | yield rest ih =>
    obtain ⟨held, hi, hr⟩ := ht
    exact ⟨held, hi, fun s' others h => ih (hr s' others h)⟩

theorem upholds_bind {mid : α → Multiset δ} {after : β → Multiset δ} {t : Task σ α}
    {k : α → Task σ β} (ht : Upholds K held mid t) (hk : ∀ a, Upholds K (mid a) after (k a)) :
    Upholds K held after (t >>= k) :=
  fun s extra hi => restores_bind (ht s extra hi) hk

theorem restores_frame {after : α → Multiset δ} {t : Task σ α}
    (h : Restores K after t s (more + extra)) :
    Restores K (fun value => after value + more) t s extra := by
  induction t generalizing s extra with
  | done value =>
    rw [Restores, ← add_assoc] at h
    exact h
  | act effect next ih =>
    rcases h with ⟨hb, hn⟩ | ⟨held, hi, hn⟩
    · exact .inl ⟨hb, ih s hn⟩
    · refine .inr ⟨held + more, by rwa [add_assoc], fun s' others h => ih s (hn s' _ ?_)⟩
      rwa [← add_assoc]
  | yield rest ih =>
    obtain ⟨held, hi, hr⟩ := h
    refine ⟨held + more, by rwa [add_assoc], fun s' others h => ih (hr s' _ ?_)⟩
    rwa [← add_assoc]

/-- What is held besides is held still. -/
theorem upholds_frame {after : α → Multiset δ} {t : Task σ α} (h : Upholds K held after t)
    (more : Multiset δ) : Upholds K (held + more) (fun value => after value + more) t := by
  intro s extra hi
  rw [add_assoc] at hi
  exact restores_frame (h s _ hi)

-- ---------------------------------------------------------------------------
-- Side by side
-- ---------------------------------------------------------------------------

abbrev Clears (K : Upkeep σ δ) (held : Multiset δ) (t : Task σ α) : Prop :=
  Upholds K held (fun _ => 0) t

theorem clears_map {t : Task σ α} (f : α → β) (h : Clears K held t) : Clears K held (f <$> t) := by
  rw [map_eq_pure_bind]
  exact upholds_bind h fun _ => upholds_done _ _

theorem restores_throughTurn {suspended : Task σ α → Task σ γ} {ended : α → Task σ γ}
    (hs : ∀ held t, Clears K held t → Clears K (held + more) (suspended t))
    (he : ∀ a, Clears K more (ended a)) {t : Task σ α}
    (ht : Restores K (fun _ => 0) t s (more + extra)) :
    Restores K (fun _ => 0) (throughTurn suspended ended t) s extra := by
  induction t generalizing s extra with
  | done value =>
    rw [Restores, zero_add] at ht
    exact he value s extra ht
  | act effect next ih =>
    rcases ht with ⟨hb, hn⟩ | ⟨held, hi, hn⟩
    · exact .inl ⟨hb, ih s hn⟩
    · refine .inr ⟨held + more, by rwa [add_assoc], fun s' others h => ih s (hn s' _ ?_)⟩
      rwa [← add_assoc]
  | yield rest =>
    obtain ⟨held, hi, hr⟩ := ht
    rw [← add_assoc] at hi
    exact hs held rest hr s extra hi

theorem restores_both {t : Task σ α} {u : Task σ β}
    (ht : Restores K (fun _ => 0) t s (more + extra)) (hu : Clears K more u) :
    Restores K (fun _ => 0) (t.both u) s extra := by
  induction t generalizing s extra more u with
  | done value =>
    rw [Restores, zero_add] at ht
    exact clears_map _ hu s extra ht
  | act effect next ih =>
    rcases ht with ⟨hb, hn⟩ | ⟨held, hi, hn⟩
    · exact .inl ⟨hb, ih s hn hu⟩
    · refine .inr ⟨held + more, by rwa [add_assoc], fun s' others h => ih s (hn s' _ ?_) hu⟩
      rwa [← add_assoc]
  | yield rest ih =>
    obtain ⟨held, hi, hr⟩ := ht
    have left : Clears K held rest := hr
    rw [add_left_comm] at hi
    refine restores_throughTurn (fun other u hu => ?_) (fun b => ?_) (hu s _ hi)
    · refine upholds_yield.mpr fun s extra hi => ih (hr s _ ?_) hu
      rwa [add_left_comm, ← add_assoc]
    · exact upholds_yield.mpr (clears_map _ left)

theorem clears_both {t : Task σ α} {u : Task σ β} (ht : Clears K held t) (hu : Clears K more u) :
    Clears K (held + more) (t.both u) := by
  intro s extra hi
  rw [add_assoc] at hi
  exact restores_both (ht s _ hi) hu

theorem restores_alternate {t : Task σ α} {u : Task σ β}
    (ht : Restores K (fun _ => 0) t s (more + extra)) (hu : Clears K more u) :
    Restores K (fun _ => 0) (t.alternate u) s extra ∧
      Restores K (fun _ => 0) (t.alternateLeft u) s extra := by
  induction t generalizing s extra more u with
  | done value =>
    rw [Restores, zero_add] at ht
    exact ⟨clears_map _ hu s extra ht, more, ht, clears_map _ hu⟩
  | act effect next ih =>
    rcases ht with ⟨hb, hn⟩ | ⟨held, hi, hn⟩
    · exact ⟨.inl ⟨hb, (ih s hn hu).1⟩, .inl ⟨hb, (ih s hn hu).2⟩⟩
    · have go : ∀ s' others, K.holds s' (held + more + others) →
          Restores K (fun _ => 0) ((next s).alternate u) s' others ∧
            Restores K (fun _ => 0) ((next s).alternateLeft u) s' others := by
        intro s' others h
        rw [add_assoc] at h
        exact ih s (hn s' _ h) hu
      rw [← add_assoc] at hi
      exact ⟨.inr ⟨_, hi, fun s' others h => (go s' others h).1⟩,
        .inr ⟨_, hi, fun s' others h => (go s' others h).2⟩⟩
  | yield rest ih =>
    obtain ⟨held, hi, hr⟩ := ht
    have left : Clears K held rest := hr
    have go : ∀ other (u : Task σ β), Clears K other u → Clears K (held + other) (rest.alternate u) ∧
        Clears K (held + other) (rest.alternateLeft u) := by
      intro other u hu
      constructor
      · intro s extra h
        rw [add_assoc] at h
        exact (ih (hr s _ h) hu).1
      · intro s extra h
        rw [add_assoc] at h
        exact (ih (hr s _ h) hu).2
    constructor
    · rw [add_left_comm] at hi
      refine restores_throughTurn (fun other u hu => ?_) (fun b => ?_) (hu s _ hi)
      · refine upholds_yield.mpr ?_
        intro s extra h
        rw [add_assoc] at h
        refine restores_throughTurn (fun last u hu => ?_) (fun b => ?_) (hu s _ h)
        · rw [add_comm]
          exact (go last u hu).2
        · exact clears_map _ left
      · exact upholds_yield.mpr (clears_map _ left)
    · rw [← add_assoc] at hi
      exact ⟨held + more, hi, (go more u hu).1⟩

theorem clears_alternate {t : Task σ α} {u : Task σ β} (ht : Clears K held t)
    (hu : Clears K more u) : Clears K (held + more) (t.alternate u) := by
  intro s extra hi
  rw [add_assoc] at hi
  exact (restores_alternate (ht s _ hi) hu).1

-- ---------------------------------------------------------------------------
-- Among each other
-- ---------------------------------------------------------------------------

inductive Turns : List (Task σ α) → σ → List (Task σ α) → σ → Prop
  | refl : Turns ts s ts s
  | turn : Turns ts s ts' s' → ts'[i]? = some t →
      Turns ts s (ts'.set i (t.turn s').1) (t.turn s').2

/-- Where a task is busy no other makes the next step. -/
def Undisturbed (busy : σ → Prop) (trace : List (Nat × σ × σ)) : Prop :=
  trace.IsChain fun step later => busy step.2.2 → later.1 = step.1

def others (n : Nat) (shares : Nat → Multiset δ) (i : Nat) : Multiset δ :=
  ∑ k ∈ (Finset.range n).erase i, shares k

def AtRest (K : Upkeep σ δ) (ts : List (Task σ α)) (s : σ) : Prop :=
  ∃ shares : Nat → Multiset δ, (∀ k t, ts[k]? = some t → Clears K (shares k) t) ∧
    K.holds s (∑ k ∈ Finset.range ts.length, shares k)

/-- The task at a place restores the invariant, and the others can go on when it has. -/
def InTurn (K : Upkeep σ δ) (i : Nat) (ts : List (Task σ α)) (s : σ) : Prop :=
  ∃ shares : Nat → Multiset δ, (∀ k t, ts[k]? = some t → k ≠ i → Clears K (shares k) t) ∧
    ∃ t, ts[i]? = some t ∧ Restores K (fun _ => 0) t s (others ts.length shares i)

variable {ts ts' : List (Task σ α)} {s s' : σ} {shares : Nat → Multiset δ} {i k : Nat}

theorem AtRest.inTurn (h : AtRest K ts s) (hi : ts[i]? = some t) : InTurn K i ts s := by
  obtain ⟨shares, clear, holds⟩ := h
  have hl : i ∈ Finset.range ts.length :=
    Finset.mem_range.mpr (List.getElem?_eq_some_iff.mp hi).1
  rw [← Finset.add_sum_erase _ _ hl] at holds
  exact ⟨shares, fun k t hk _ => clear k t hk, t, hi, clear i t hi s _ holds⟩

theorem atRest_of_set (clear : ∀ k t, ts[k]? = some t → k ≠ i → Clears K (shares k) t)
    (hi : i < ts.length) (holds : K.holds s (held + others ts.length shares i))
    (ht : Clears K held t) : AtRest K (ts.set i t) s := by
  refine ⟨Function.update shares i held, fun k u hk => ?_, ?_⟩
  · by_cases hki : k = i
    · subst hki
      rw [List.getElem?_set_self hi] at hk
      obtain rfl := Option.some.inj hk
      rwa [Function.update_self]
    · rw [List.getElem?_set_ne (Ne.symm hki)] at hk
      rw [Function.update_of_ne hki]
      exact clear k u hk hki
  · rw [List.length_set, ← Finset.add_sum_erase _ _ (Finset.mem_range.mpr hi), Function.update_self]
    rwa [Finset.sum_congr rfl fun k hk => Function.update_of_ne (Finset.ne_of_mem_erase hk) ..]

theorem inTurn_set (clear : ∀ k t, ts[k]? = some t → k ≠ i → Clears K (shares k) t)
    (hi : i < ts.length) (ht : Restores K (fun _ => 0) t s (others ts.length shares i)) :
    InTurn K i (ts.set i t) s := by
  refine ⟨shares, fun k u hk hki => ?_, t, List.getElem?_set_self hi, ?_⟩
  · rw [List.getElem?_set_ne (Ne.symm hki)] at hk
    exact clear k u hk hki
  · rwa [List.length_set]

theorem restores_turn {after : α → Multiset δ} {t : Task σ α} (h : Restores K after t s extra) :
    ∃ held, K.holds (t.turn s).2 (held + extra) ∧ Upholds K held after (t.turn s).1 := by
  induction t generalizing s with
  | done value => exact ⟨after value, h, upholds_done value after⟩
  | act effect next ih =>
    rcases h with ⟨-, hn⟩ | ⟨held, hi, hn⟩
    · exact ih s hn
    · exact ih s (hn _ _ hi)
  | yield rest => exact h

/-- Where a turn has ended the invariant holds: no task is suspended while it is busy. -/
theorem Turns.upkeep (h : Turns ts s ts' s') (start : AtRest K ts s) : AtRest K ts' s' := by
  induction h with
  | refl => exact start
  | turn _ hi ih =>
    obtain ⟨shares, clear, t, ht, restores⟩ := ih.inTurn hi
    obtain rfl := Option.some.inj (ht.symm.trans hi)
    obtain ⟨held, holds, hr⟩ := restores_turn restores
    exact atRest_of_set clear (List.getElem?_eq_some_iff.mp hi).1 holds hr

theorem clears_resume (hi : ts[i]? = some (.yield rest)) (hr : Clears K (shares i) (.yield rest))
    (hu : ts[k]? = some u → Clears K (shares k) u) (hk : (ts.set i rest)[k]? = some u) :
    Clears K (shares k) u := by
  by_cases hki : i = k
  · subst hki
    rw [List.getElem?_set_self (List.getElem?_eq_some_iff.mp hi).1] at hk
    obtain rfl := Option.some.inj hk
    exact upholds_yield.mp hr
  · rw [List.getElem?_set_ne hki] at hk
    exact hu hk

/-- In a run that disturbs nobody the invariant holds wherever no task is busy. -/
theorem Trace.upkeep (h : Trace ts s trace ts' s') (calm : Undisturbed K.busy trace)
    (start : AtRest K ts s ∨ ∃ i, K.busy s ∧ InTurn K i ts s ∧ ∀ step ∈ trace.head?, step.1 = i)
    (idle : ¬ K.busy s') : AtRest K ts' s' := by
  induction h with
  | refl =>
    rcases start with rest | ⟨_, hb, _⟩
    · exact rest
    · exact absurd hb idle
  | @act ts i effect trace ts' s' s next hi _ ih =>
    have turn : InTurn K i ts s := by
      rcases start with rest | ⟨j, _, turn, hj⟩
      · exact rest.inTurn hi
      · obtain rfl : i = j := hj _ rfl
        exact turn
    obtain ⟨shares, clear, t, ht, restores⟩ := turn
    obtain rfl := Option.some.inj (ht.symm.trans hi)
    have hl := (List.getElem?_eq_some_iff.mp hi).1
    obtain ⟨first, later⟩ := List.isChain_cons.mp calm
    rcases restores with ⟨hb, hn⟩ | ⟨held, holds, hn⟩
    · exact ih later (.inr ⟨i, hb, inTurn_set clear hl hn, fun step hs => first step hs hb⟩) idle
    · exact ih later (.inl (atRest_of_set clear hl holds hn)) idle
  | @resume ts i s trace ts' s' rest hi _ ih =>
    refine ih calm ?_ idle
    rcases start with ⟨shares, clear, holds⟩ | ⟨j, hb, ⟨shares, clear, t, ht, restores⟩, hj⟩
    · refine .inl ⟨shares, fun k u => clears_resume hi (clear i _ hi) (clear k u), ?_⟩
      rwa [List.length_set]
    · by_cases hij : i = j
      · subst hij
        obtain rfl := Option.some.inj (ht.symm.trans hi)
        obtain ⟨held, holds, hr⟩ := restores
        exact .inl (atRest_of_set clear (List.getElem?_eq_some_iff.mp hi).1 holds hr)
      · refine .inr ⟨j, hb, ⟨shares, fun k u hk hkj => ?_, t, ?_, ?_⟩, hj⟩
        · exact clears_resume hi (clear i _ hi hij) (fun hk => clear k u hk hkj) hk
        · rwa [List.getElem?_set_ne hij]
        · rwa [List.length_set]

end RouteBus.Task
