import RouteBus.Task

/-!
# Sequences

A sequence gives values one at a time, to whoever pulls them, and may run steps
and suspend in between. A stage put behind a sequence runs on a value when the
value is pulled through it and not before.
-/

namespace RouteBus

inductive Sequence (σ : Type) (α : Type) where
  | ended
  | item (value : α) (rest : Sequence σ α)
  | act (effect : σ → σ) (next : σ → Sequence σ α)
  | yield (rest : Sequence σ α)

namespace Sequence

/-- What can be put behind a sequence. From call to call it may keep in the state what it likes. -/
inductive Stage (σ : Type) : Type → Type → Type 1
  | map (f : α → σ → β × σ) : Stage σ α β
  | filter (p : α → σ → Bool × σ) : Stage σ α α
  | await (action : α → Task σ β) : Stage σ α β

variable {σ α β : Type}

def ofList : List α → Sequence σ α
  | [] => .ended
  | a :: as => .item a (ofList as)

-- ---------------------------------------------------------------------------
-- Stages
-- ---------------------------------------------------------------------------

/-- Runs a task before a sequence, which begins with the value of the task if it has one. -/
def after (rest : Sequence σ β) : Task σ (Option β) → Sequence σ β
  | .done none => rest
  | .done (some value) => .item value rest
  | .act effect next => .act effect fun s => after rest (next s)
  | .yield task => .yield (after rest task)

/-- Takes each value through a task that may reject it. -/
def filterMapTask (f : α → Task σ (Option β)) : Sequence σ α → Sequence σ β
  | .ended => .ended
  | .item value rest => after (filterMapTask f rest) (f value)
  | .act effect next => .act effect fun s => filterMapTask f (next s)
  | .yield rest => .yield (filterMapTask f rest)

def map (f : α → σ → β × σ) : Sequence σ α → Sequence σ β :=
  filterMapTask fun value => some <$> .atomically (f value)

def filter (p : α → σ → Bool × σ) : Sequence σ α → Sequence σ α :=
  filterMapTask fun value => (fun kept => if kept then some value else none) <$> .atomically (p value)

def await (action : α → Task σ β) : Sequence σ α → Sequence σ β :=
  filterMapTask fun value => some <$> action value

def Stage.attach : Stage σ α β → Sequence σ α → Sequence σ β
  | .map f, input => input.map f
  | .filter p, input => input.filter p
  | .await action, input => input.await action

-- ---------------------------------------------------------------------------
-- Pulling
-- ---------------------------------------------------------------------------

def forEach (sink : α → Task σ Unit) : Sequence σ α → Task σ Unit
  | .ended => .done ()
  | .item value rest => do
    sink value
    forEach sink rest
  | .act effect next => .act effect fun s => forEach sink (next s)
  | .yield rest => .yield (forEach sink rest)

def collect : Sequence σ α → Task σ (List α)
  | .ended => .done []
  | .item value rest => (value :: ·) <$> collect rest
  | .act effect next => .act effect fun s => collect (next s)
  | .yield rest => .yield (collect rest)

/-- Pulls the first `n` values and nothing behind them. -/
def take : Nat → Sequence σ α → Task σ (List α)
  | 0, _ => .done []
  | _ + 1, .ended => .done []
  | n + 1, .item value rest => (value :: ·) <$> take n rest
  | n + 1, .act effect next => .act effect fun s => take (n + 1) (next s)
  | n + 1, .yield rest => .yield (take (n + 1) rest)

end Sequence

end RouteBus
