import RouteBus.Proofs.Task.Ensures

/-!
# Turns

What a task alone does in each of its turns, told by what it adds to a log. A task that is confined
to one part of the state logs the same wherever that part is the same, so tasks confined to parts
of their own log side by side what they log alone.
-/

namespace RouteBus.Task

def news (log : σ → List ℓ) (s s' : σ) : List ℓ := (log s').drop (log s).length

/-- What the task logs in each turn if nobody else goes on. -/
def turnLogs (log : σ → List ℓ) : Task σ α → σ → List (List ℓ)
  | .done _, _ => [[]]
  | .act effect next, s =>
    (turnLogs log (next s) (effect s)).modifyHead (news log s (effect s) ++ ·)
  | .yield rest, s => [] :: turnLogs log rest s

def logged (log : σ → List ℓ) (t : Task σ α) (s : σ) : List ℓ := (turnLogs log t s).flatten

/-- The step adds to the log. What it does and what goes on behind it hangs on one part of the
state, and the other part stays as it is. -/
structure PrivateStep (log : σ → List ℓ) (own : σ → μ) (other : σ → ν) (effect : σ → σ)
    (next : σ → Task σ α) : Prop where
  appends : ∀ s, log s <+: log (effect s)
  spares : ∀ s, other (effect s) = other s
  own_congr : ∀ s s', own s = own s' → own (effect s) = own (effect s')
  news_congr : ∀ s s', own s = own s' → news log s (effect s) = news log s' (effect s')
  next_congr : ∀ s s', own s = own s' → next s = next s'

def Confined (log : σ → List ℓ) (own : σ → μ) (other : σ → ν) : Task σ α → Prop
  | .done _ => True
  | .act effect next =>
    PrivateStep log own other effect next ∧ ∀ s, Confined log own other (next s)
  | .yield rest => Confined log own other rest

/-- Two logs side by side: in each turn the left one first, and behind the end of one of them the
other alone. -/
def alongside (left right : List (List ℓ)) : List (List ℓ) :=
  List.zipWithAll (fun first second => first.getD [] ++ second.getD []) left right

def marked (left right : List (List ℓ)) : List (ℓ ⊕ ℓ) :=
  (List.zipWithAll (fun first second => (first.getD []).map .inl ++ (second.getD []).map .inr)
    left right).flatten

structure Joins (log : σ → List ℓ) (own : σ → μ) (other : σ → ν) (t : Task σ α) (u : Task σ β)
    (s : σ) (joined : Task σ γ) : Prop where
  own : own (joined.run s).2 = own (t.run s).2
  other : other (joined.run s).2 = other (u.run s).2
  turns : turnLogs log joined s = alongside (turnLogs log t s) (turnLogs log u s)

def unsuspended : Task σ α → Task σ α
  | .done value => .done value
  | .act effect next => .act effect fun s => (next s).unsuspended
  | .yield rest => rest.unsuspended

variable {log : σ → List ℓ} {own : σ → μ} {other : σ → ν} {s s' : σ}

-- ---------------------------------------------------------------------------
-- Logs
-- ---------------------------------------------------------------------------

theorem turnLogs_ne_nil (log : σ → List ℓ) (t : Task σ α) (s : σ) : turnLogs log t s ≠ [] := by
  induction t generalizing s with
  | done | yield => exact List.cons_ne_nil _ _
  | act effect next ih => simpa [turnLogs] using ih s (effect s)

theorem exists_turnLogs (log : σ → List ℓ) (t : Task σ α) (s : σ) :
    ∃ first rest, turnLogs log t s = first :: rest :=
  List.exists_cons_of_ne_nil (turnLogs_ne_nil log t s)

@[simp] theorem logged_act (effect : σ → σ) (next : σ → Task σ α) (s : σ) :
    logged log (.act effect next) s =
      news log s (effect s) ++ logged log (next s) (effect s) := by
  obtain ⟨first, rest, h⟩ := exists_turnLogs log (next s) (effect s)
  simp [logged, turnLogs, h]

theorem run_map (f : α → β) (t : Task σ α) (s : σ) :
    (f <$> t).run s = (f (t.run s).1, (t.run s).2) := by
  rw [map_eq_pure_bind, run_bind]
  rfl

theorem turnLogs_map (f : α → β) (t : Task σ α) (s : σ) :
    turnLogs log (f <$> t) s = turnLogs log t s := by
  rw [map_eq_pure_bind]
  induction t generalizing s with
  | done value => rfl
  | act effect next ih =>
    simp only [act_bind, turnLogs, ih]
  | yield rest ih => simp only [yield_bind, turnLogs, ih]

theorem news_append (h : log s <+: log s') : log s' = log s ++ news log s s' := by
  obtain ⟨added, h⟩ := h
  rw [news, ← h, List.drop_left]

/-- What is in the log at the end is what was there before, and what the task has logged. -/
theorem log_run {t : Task σ α} (appends : t.Keeps fun s s' => log s <+: log s') (s : σ) :
    log (t.run s).2 = log s ++ logged log t s := by
  induction t generalizing s with
  | done value => exact (List.append_nil _).symm
  | act effect next ih =>
    obtain ⟨first, later⟩ := appends s
    rw [run, ih s later, logged_act, news_append first, List.append_assoc]
  | yield rest ih => exact ih appends s

-- ---------------------------------------------------------------------------
-- Suspensions
-- ---------------------------------------------------------------------------

@[simp] theorem run_unsuspended (t : Task σ α) (s : σ) : t.unsuspended.run s = t.run s := by
  induction t generalizing s with
  | done value => rfl
  | act effect next ih => exact ih s (effect s)
  | yield rest ih => exact ih s

-- ---------------------------------------------------------------------------
-- Confined tasks
-- ---------------------------------------------------------------------------

theorem PrivateStep.andThen {effect : σ → σ} {next : σ → Task σ α}
    (step : PrivateStep log own other effect next) (f : Task σ α → Task σ β) :
    PrivateStep log own other effect fun s => f (next s) where
  appends := step.appends
  spares := step.spares
  own_congr := step.own_congr
  news_congr := step.news_congr
  next_congr s s' h := congrArg f (step.next_congr s s' h)

theorem confined_bind {t : Task σ α} {k : α → Task σ β} (ht : t.Confined log own other)
    (hk : ∀ value, (k value).Confined log own other) : (t >>= k).Confined log own other := by
  induction t with
  | done value => exact hk value
  | act effect next ih =>
    obtain ⟨step, hn⟩ := ht
    exact ⟨step.andThen (· >>= k), fun s => ih s (hn s)⟩
  | yield rest ih => exact ih ht

theorem confined_map (f : α → β) {t : Task σ α} (ht : t.Confined log own other) :
    (f <$> t).Confined log own other := by
  rw [map_eq_pure_bind]
  exact confined_bind ht fun _ => trivial

theorem confined_throughTurn {suspended : Task σ α → Task σ β} {ended : α → Task σ β}
    (hs : ∀ t, t.Confined log own other → (suspended t).Confined log own other)
    (he : ∀ value, (ended value).Confined log own other) {t : Task σ α}
    (ht : t.Confined log own other) :
    (throughTurn suspended ended t).Confined log own other := by
  induction t with
  | done value => exact he value
  | act effect next ih =>
    obtain ⟨step, hn⟩ := ht
    exact ⟨step.andThen (throughTurn suspended ended), fun s => ih s (hn s)⟩
  | yield rest => exact hs rest ht

theorem confined_both {t : Task σ α} {u : Task σ β} (ht : t.Confined log own other)
    (hu : u.Confined log own other) : (t.both u).Confined log own other := by
  induction t generalizing u with
  | done value => exact confined_map _ hu
  | act effect next ih =>
    obtain ⟨step, hn⟩ := ht
    exact ⟨step.andThen (both · u), fun s => ih s (hn s) hu⟩
  | yield rest ih =>
    have hr : rest.Confined log own other := ht
    refine confined_throughTurn (fun u hu => ?_) (fun value => ?_) hu
    · exact ih hr hu
    · exact confined_map (·, value) hr

theorem Confined.spares {t : Task σ α} (ht : t.Confined log own other) (s : σ) :
    other (t.run s).2 = other s := by
  induction t generalizing s with
  | done value => rfl
  | act effect next ih => exact (ih s (ht.2 s) (effect s)).trans (ht.1.spares s)
  | yield rest ih => exact ih ht s

theorem Confined.appends {t : Task σ α} (ht : t.Confined log own other) :
    t.Keeps fun s s' => log s <+: log s' := by
  induction t with
  | done value => trivial
  | act effect next ih => exact fun s => ⟨ht.1.appends s, ih s (ht.2 s)⟩
  | yield rest ih => exact ih ht

/-- Where its own part of the state is the same, the task does the same. -/
theorem Confined.run_congr {t : Task σ α} (ht : t.Confined log own other) (h : own s = own s') :
    (t.run s).1 = (t.run s').1 ∧ own (t.run s).2 = own (t.run s').2 ∧
      turnLogs log t s = turnLogs log t s' := by
  induction t generalizing s s' with
  | done value => exact ⟨rfl, h, rfl⟩
  | act effect next ih =>
    obtain ⟨step, hn⟩ := ht
    obtain ⟨given, owned, logs⟩ := ih s (hn s) (step.own_congr s s' h)
    simp only [run, turnLogs, ← step.next_congr s s' h, ← step.news_congr s s' h, ← logs]
    exact ⟨given, owned, trivial⟩
  | yield rest ih =>
    obtain ⟨given, owned, logs⟩ := ih ht h
    exact ⟨given, owned, congrArg ([] :: ·) logs⟩

-- ---------------------------------------------------------------------------
-- Side by side
-- ---------------------------------------------------------------------------

section
variable {left right : List (List ℓ)}

@[simp] theorem alongside_nil (left : List (List ℓ)) : alongside left [] = left := by
  simp [alongside]

@[simp] theorem nil_alongside (right : List (List ℓ)) : alongside [] right = right := by
  simp [alongside]

@[simp] theorem alongside_cons (first second : List ℓ) (left right : List (List ℓ)) :
    alongside (first :: left) (second :: right) = (first ++ second) :: alongside left right := rfl

theorem length_alongside (left right : List (List ℓ)) :
    (alongside left right).length = max left.length right.length := by
  induction left generalizing right with
  | nil => simp
  | cons first left ih =>
    cases right with
    | nil => simp
    | cons second right => simp [ih, Nat.succ_max_succ]

theorem getElem?_alongside (left right : List (List ℓ)) (i : Nat) :
    (alongside left right)[i]?.getD [] = left[i]?.getD [] ++ right[i]?.getD [] := by
  rw [alongside, List.getElem?_zipWithAll]
  cases left[i]? <;> cases right[i]? <;> rfl

@[simp] theorem marked_nil (left : List (List ℓ)) : marked left [] = left.flatten.map .inl := by
  simp [marked, List.map_flatten]

@[simp] theorem nil_marked (right : List (List ℓ)) : marked [] right = right.flatten.map .inr := by
  simp [marked, List.map_flatten]

@[simp] theorem marked_cons (first second : List ℓ) (left right : List (List ℓ)) :
    marked (first :: left) (second :: right) =
      first.map .inl ++ second.map .inr ++ marked left right := rfl

theorem map_marked (left right : List (List ℓ)) :
    (marked left right).map (Sum.elim id id) = (alongside left right).flatten := by
  induction left generalizing right with
  | nil => simp [-List.map_flatten]
  | cons first left ih => cases right <;> simp [ih, -List.map_flatten]

theorem filterMap_marked (left right : List (List ℓ)) :
    (marked left right).filterMap Sum.getLeft? = left.flatten ∧
      (marked left right).filterMap Sum.getRight? = right.flatten := by
  induction left generalizing right with
  | nil => simp [Function.comp_def]
  | cons first left ih => cases right <;> simp [Function.comp_def, ih]

end

theorem joins_both {t : Task σ α} {u : Task σ β} (ht : t.Confined log own other)
    (hu : u.Confined log other own) (s : σ) : Joins log own other t u s (t.both u) := by
  induction t generalizing u s with
  | done value =>
    refine ⟨?_, ?_, ?_⟩
    · rw [both, run_map]
      exact hu.spares s
    · rw [both, run_map]
    · rw [both, turnLogs_map]
      obtain ⟨first, rest, h⟩ := exists_turnLogs log u s
      simp [turnLogs, h]
  | act effect next ih =>
    obtain ⟨step, hn⟩ := ht
    obtain ⟨-, same, logs⟩ := hu.run_congr (step.spares s)
    have joins := ih s (hn s) hu (effect s)
    refine ⟨joins.own, joins.other.trans same, ?_⟩
    obtain ⟨first, rest, h⟩ := exists_turnLogs log (next s) (effect s)
    obtain ⟨first', rest', h'⟩ := exists_turnLogs log u s
    simp [both, turnLogs, joins.turns, logs, h, h']
  | yield rest ih =>
    have hr : rest.Confined log own other := ht
    rw [both]
    -- the left side has ended its turn, so the steps up to the next suspension are the right one's
    induction u generalizing s with
    | done value =>
      refine ⟨?_, ?_, ?_⟩
      · change own (((·, value) <$> rest).run s).2 = _
        rw [run_map]
        rfl
      · change other (((·, value) <$> rest).run s).2 = _
        rw [run_map]
        exact hr.spares s
      · simp [throughTurn, turnLogs, turnLogs_map]
    | act effect next ih =>
      obtain ⟨step, hn⟩ := hu
      obtain ⟨-, same, logs⟩ := hr.run_congr (step.spares s)
      have joins := ih s (hn s) (effect s)
      refine ⟨joins.own.trans same, joins.other, ?_⟩
      obtain ⟨first, later, h⟩ := exists_turnLogs log (next s) (effect s)
      have turns := joins.turns
      simp only [turnLogs, logs, h, alongside_cons] at turns
      simp [throughTurn, turnLogs, turns, h]
    | yield right =>
      have joins := ih hr (u := right) hu s
      refine ⟨joins.own, joins.other, ?_⟩
      simp [throughTurn, turnLogs, joins.turns]

end RouteBus.Task
