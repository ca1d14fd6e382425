/-!
# Tasks

A task is a computation on a shared state that may suspend. It is a finite tree
of atomic steps and suspensions, so what runs between two suspensions is never
interrupted, and whoever schedules several tasks decides at each suspension
which of them goes on.
-/

namespace RouteBus

inductive Task (σ : Type) (α : Type) where
  | done (value : α)
  /-- One atomic step: changes the state and goes on with what it was before. -/
  | act (effect : σ → σ) (next : σ → Task σ α)
  | yield (rest : Task σ α)

namespace Task

variable {σ α β γ : Type}

def bind : Task σ α → (α → Task σ β) → Task σ β
  | .done value, k => k value
  | .act effect next, k => .act effect fun s => (next s).bind k
  | .yield rest, k => .yield (rest.bind k)

instance : Monad (Task σ) where
  pure := .done
  bind := bind

@[simp] theorem pure_eq (value : α) : (pure value : Task σ α) = .done value := rfl
@[simp] theorem done_bind (value : α) (k : α → Task σ β) : (.done value : Task σ α) >>= k = k value := rfl
@[simp] theorem act_bind (effect : σ → σ) (next : σ → Task σ α) (k : α → Task σ β) :
    .act effect next >>= k = .act effect fun s => next s >>= k := rfl
@[simp] theorem yield_bind (rest : Task σ α) (k : α → Task σ β) :
    .yield rest >>= k = .yield (rest >>= k) := rfl

theorem bind_done (t : Task σ α) : t >>= .done = t := by
  induction t with
  | done => rfl
  | act effect next ih => simp [ih]
  | yield rest ih => simp [ih]

theorem bind_assoc (t : Task σ α) (k : α → Task σ β) (l : β → Task σ γ) :
    t >>= k >>= l = t >>= fun value => k value >>= l := by
  induction t with
  | done => rfl
  | act effect next ih => simp [ih]
  | yield rest ih => simp [ih]

instance : LawfulMonad (Task σ) :=
  LawfulMonad.mk' _ bind_done (fun _ _ => rfl) bind_assoc

-- ---------------------------------------------------------------------------
-- Atomic steps
-- ---------------------------------------------------------------------------

def atomically (f : σ → α × σ) : Task σ α := .act (fun s => (f s).2) fun s => .done (f s).1

def read (f : σ → α) : Task σ α := .act id fun s => .done (f s)

def modify (f : σ → σ) : Task σ Unit := .act f fun _ => .done ()

def pause : Nat → Task σ Unit
  | 0 => .done ()
  | n + 1 => .yield (pause n)

-- ---------------------------------------------------------------------------
-- Running
-- ---------------------------------------------------------------------------

def turn : Task σ α → σ → Task σ α × σ
  | .done value, s => (.done value, s)
  | .act effect next, s => turn (next s) (effect s)
  | .yield rest, s => (rest, s)

def run : Task σ α → σ → α × σ
  | .done value, s => (value, s)
  | .act effect next, s => run (next s) (effect s)
  | .yield rest, s => run rest s

@[simp] theorem run_done (value : α) (s : σ) : (done value).run s = (value, s) := rfl

theorem run_bind (t : Task σ α) (k : α → Task σ β) (s : σ) :
    (t >>= k).run s = (k (t.run s).1).run (t.run s).2 := by
  induction t generalizing s with
  | done => rfl
  | act effect next ih => exact ih s (effect s)
  | yield rest ih => exact ih s

-- ---------------------------------------------------------------------------
-- Running side by side
-- ---------------------------------------------------------------------------

/-- Runs a task to the end of the turn, then goes on as `suspended` says with what
is left of it, or in the same turn as `ended` says. -/
def throughTurn (suspended : Task σ α → Task σ γ) (ended : α → Task σ γ) : Task σ α → Task σ γ
  | .done value => ended value
  | .act effect next => .act effect fun s => throughTurn suspended ended (next s)
  | .yield rest => suspended rest

/-- Runs two tasks side by side. In each turn the left one goes first; a side
that has ended takes no further part. -/
def both : Task σ α → Task σ β → Task σ (α × β)
  | .done value, right => (value, ·) <$> right
  | .act effect next, right => .act effect fun s => both (next s) right
  | .yield rest, right =>
    right.throughTurn (fun right => .yield (both rest right))
      fun value => .yield ((·, value) <$> rest)

/-- Runs tasks side by side; in each turn they go in the order of the list. -/
def joinAll : List (Task σ α) → Task σ (List α)
  | [] => .done []
  | task :: tasks => (fun (value, values) => value :: values) <$> both task (joinAll tasks)

mutual

/-- Runs two tasks side by side. The left one goes first in this turn and the right
one in the next, and so on by turns; a side that has ended takes no further part. -/
def alternate : Task σ α → Task σ β → Task σ (α × β)
  | .done value, right => (value, ·) <$> right
  | .act effect next, right => .act effect fun s => alternate (next s) right
  | .yield rest, right =>
    right.throughTurn
      (fun right => .yield <|
        right.throughTurn (fun right => alternateLeft rest right) fun value => (·, value) <$> rest)
      fun value => .yield ((·, value) <$> rest)

/-- Ends a turn of two tasks in which the right one went first and is suspended. -/
def alternateLeft : Task σ α → Task σ β → Task σ (α × β)
  | .done value, right => .yield ((value, ·) <$> right)
  | .act effect next, right => .act effect fun s => alternateLeft (next s) right
  | .yield rest, right => .yield (alternate rest right)

end

/-- Runs tasks side by side; they go in the order of the list in the first turn, and
in each later turn in the reverse of the order of the turn before. -/
def joinAlternating : List (Task σ α) → Task σ (List α)
  | [] => .done []
  | task :: tasks =>
    (fun (value, values) => value :: values) <$> alternate task (joinAlternating tasks)

end Task

end RouteBus
