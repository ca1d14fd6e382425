import RouteBus.Chain
import RouteBus.Sequence

/-!
# Trying out chains and sequences

Steps for chains of texts and stages for sequences of numbers that do something
simple and log when they do it. While they run, the latest entry of a log comes first.
-/

namespace RouteBus.Rehearsal

-- ---------------------------------------------------------------------------
-- Chains of texts
-- ---------------------------------------------------------------------------

/-- A step that appends a text, at once or after suspending a number of times. -/
structure Append where
  text : String
  yields : Option Nat
  deriving DecidableEq, Repr

inductive AppendNote where
  | ran (text input : String)
  | started (text input : String)
  | resumed (text : String) (turn : Nat)
  | ended (text : String)
  deriving DecidableEq, Repr

namespace Append

def turns (text : String) (turn : Nat) : Nat → Task (List AppendNote) Unit
  | 0 => .done ()
  | n + 1 => do
    Task.pause 1
    Task.modify (.resumed text turn :: ·)
    turns text (turn + 1) n

def perform (step : Append) (input : String) : Task (List AppendNote) String := do
  match step.yields with
  | none => Task.modify (.ran step.text input :: ·)
  | some n =>
    Task.modify (.started step.text input :: ·)
    turns step.text 1 n
    Task.modify (.ended step.text :: ·)
  return input ++ step.text

def runEach (chain : Chain Append) : List String → Task (List AppendNote) (List String)
  | [] => .done []
  | input :: inputs => do
    let output ← chain.run perform input
    return output :: (← runEach chain inputs)

/-- The outputs of a chain on inputs and the log, in the order in which it was written. -/
def tryOut (chain : Chain Append) (inputs : List String) : List String × List AppendNote :=
  let (outputs, log) := (runEach chain inputs).run []
  (outputs, log.reverse)

end Append

-- ---------------------------------------------------------------------------
-- Sequences of numbers
-- ---------------------------------------------------------------------------

inductive Stage where
  | add (n : Int)
  | mul (n : Int)
  /-- Appends two digits that count the values seen so far. -/
  | number
  | greater (n : Int)
  | divisible (n : Int)
  /-- Rejects a value that equals the one before it. -/
  | changed
  | await (n : Int) (yields : Nat)
  deriving DecidableEq, Repr

inductive StageNote where
  | saw (stage : Nat) (what : String) (value : Int)
  | received (value : Int)
  deriving DecidableEq, Repr

/-- What stages remember: the log, how many values each has seen, and the last one. -/
structure StageMemory where
  log : List StageNote
  counts : Nat → Nat
  last : Nat → Option Int

namespace StageMemory

def empty : StageMemory := ⟨[], fun _ => 0, fun _ => none⟩

def note (note : StageNote) (m : StageMemory) : StageMemory := { m with log := note :: m.log }

def see (i : Nat) (what : String) (value : Int) (m : StageMemory) : StageMemory :=
  let count := m.counts i + 1
  { log := .saw i what value :: m.log
    counts := fun j => if j = i then count else m.counts j
    last := fun j => if j = i then some value else m.last j }

end StageMemory

namespace Stage

def placed (i : Nat) : Stage → Sequence.Stage StageMemory Int Int
  | .add n => .map fun x m => (x + n, m.see i "add" x)
  | .mul n => .map fun x m => (x * n, m.see i "mul" x)
  | .number => .map fun x m => (x * 100 + m.counts i + 1, m.see i "number" x)
  | .greater n => .filter fun x m => (decide (n < x), m.see i "gt" x)
  | .divisible n => .filter fun x m => (x % n == 0, m.see i "divisible" x)
  | .changed => .filter fun x m => (m.last i != some x, m.see i "changed" x)
  | .await n yields => .await fun x => do
    Task.modify (·.see i "await" x)
    Task.pause yields
    Task.modify (·.see i "resume" x)
    return x + n

def attachAll (i : Nat) (input : Sequence StageMemory Int) : List Stage → Sequence StageMemory Int
  | [] => input
  | stage :: stages => attachAll (i + 1) ((stage.placed i).attach input) stages

inductive Pull where
  | all
  | first (n : Nat)
  /-- Logs what comes out and keeps nothing. -/
  | subscribe
  deriving DecidableEq, Repr

def Pull.task (values : Sequence StageMemory Int) : Pull → Task StageMemory (List Int)
  | .all => values.collect
  | .first n => values.take n
  | .subscribe => (fun _ => []) <$> values.forEach fun value => Task.modify (·.note (.received value))

/-- What comes out of stages behind a list of numbers and the log, in the order in
which it was written. -/
def tryOut (items : List Int) (stages : List Stage) (pull : Pull) : List Int × List StageNote :=
  let (output, memory) := (pull.task (attachAll 0 (.ofList items) stages)).run .empty
  (output, memory.log.reverse)

end Stage

end RouteBus.Rehearsal
