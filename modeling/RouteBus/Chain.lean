import RouteBus.Task

/-!
# Chains

A chain is built from steps on values of one type, one after another or side by
side. Steps run side by side start from the same value, and that value goes on
behind them, whatever they give.
-/

namespace RouteBus

inductive Chain (κ : Type) where
  | skip
  | leaf (step : κ)
  | andThen (first second : Chain κ)
  | both (left right : Chain κ)
  deriving Inhabited

namespace Chain

variable {κ σ α : Type}

def run (perform : κ → α → Task σ α) : Chain κ → α → Task σ α
  | .skip, value => .done value
  | .leaf step, value => perform step value
  | .andThen first second, value => do second.run perform (← first.run perform value)
  | .both left right, value =>
    (fun _ => value) <$> (left.run perform value).both (right.run perform value)

/-- All chains of a list with one connective between them, grouped to the left. -/
def fold (connect : Chain κ → Chain κ → Chain κ) : List (Chain κ) → Chain κ
  | [] => .skip
  | chain :: chains => chains.foldl connect chain

def sequence (chains : List (Chain κ)) : Chain κ := fold .andThen chains

def group (chains : List (Chain κ)) : Chain κ := fold .both chains

end Chain

end RouteBus
