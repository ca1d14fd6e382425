import RouteBus.Proofs.Hub.Classes
import RouteBus.Proofs.Task.Turns
import RouteBus.Rehearsal.Tryout

/-!
# Merging

Two chains side by side do, turn by turn, what each of them does alone on the same value: the left
one first, then the right one, and behind the end of one of them the other alone.
-/

namespace RouteBus

open RouteBus.Task (turnLogs alongside marked)

/-- What two tasks come to side by side, told from what they do alone from the same state. In each
turn they log what the left one logs in that turn and then what the right one does, they end with
the slower of them, and who looks at the entries of one side finds the log of that side. -/
structure FanOut {σ ℓ μ ν α β γ : Type} (log : σ → List ℓ) (left : σ → μ) (right : σ → ν)
    (t : Task σ α) (u : Task σ β) (value : γ) (s : σ) (joined : Task σ γ) : Prop where
  given : (joined.run s).1 = value
  turns : ∀ i : Nat, (turnLogs log joined s)[i]?.getD [] =
    (turnLogs log t s)[i]?.getD [] ++ (turnLogs log u s)[i]?.getD []
  length : (turnLogs log joined s).length =
    max (turnLogs log t s).length (turnLogs log u s).length
  all : log (joined.run s).2 =
    log s ++ (marked (turnLogs log t s) (turnLogs log u s)).map (Sum.elim id id)
  ofLeft : log (t.run s).2 =
    log s ++ (marked (turnLogs log t s) (turnLogs log u s)).filterMap Sum.getLeft?
  ofRight : log (u.run s).2 =
    log s ++ (marked (turnLogs log t s) (turnLogs log u s)).filterMap Sum.getRight?
  leftPart : left (joined.run s).2 = left (t.run s).2
  rightPart : right (joined.run s).2 = right (u.run s).2

section
variable {κ σ ℓ μ ν α β γ : Type} {perform : κ → α → Task σ α} {log : σ → List ℓ} {own : σ → μ}
  {other : σ → ν}

theorem Chain.confined {chain : Chain κ}
    (h : chain.Every fun step => ∀ value, (perform step value).Confined log own other)
    (value : α) : (chain.run perform value).Confined log own other := by
  induction chain generalizing value with
  | skip => trivial
  | leaf step => exact h value
  | andThen first second ih₁ ih₂ => exact Task.confined_bind (ih₁ h.1 value) (ih₂ h.2)
  | both left right ih₁ ih₂ =>
    exact Task.confined_map _ (Task.confined_both (ih₁ h.1 value) (ih₂ h.2 value))

theorem fanOut {t : Task σ α} {u : Task σ β} (ht : t.Confined log own other)
    (hu : u.Confined log other own) (value : γ) (s : σ) :
    FanOut log own other t u value s ((fun _ => value) <$> t.both u) := by
  have joins := Task.joins_both ht hu s
  have turns := (Task.turnLogs_map (fun _ => value) (t.both u) s).trans joins.turns
  have appends := Task.keeps_map (fun _ => value) (Task.keeps_both ht.appends hu.appends)
  constructor
  case given => rw [Task.run_map]
  case turns => exact fun i => turns ▸ Task.getElem?_alongside _ _ i
  case length => exact turns ▸ Task.length_alongside _ _
  case all => rw [Task.map_marked, ← turns]; exact Task.log_run appends s
  case ofLeft => rw [(Task.filterMap_marked _ _).1]; exact Task.log_run ht.appends s
  case ofRight => rw [(Task.filterMap_marked _ _).2]; exact Task.log_run hu.appends s
  case leftPart => rw [Task.run_map]; exact joins.own
  case rightPart => rw [Task.run_map]; exact joins.other

/-- If neither side touches what the other one works on, the two of them side by side give what they
were given, whatever they give themselves, and merge turn by turn what they do alone. -/
theorem fan_out_merges_turns {a b : Chain κ} {left : σ → μ} {right : σ → ν}
    (ha : a.Every fun step => ∀ value, (perform step value).Confined log left right)
    (hb : b.Every fun step => ∀ value, (perform step value).Confined log right left)
    (value : α) (s : σ) :
    FanOut log left right (a.run perform value) (b.run perform value) value s
      ((Chain.both a b).run perform value) :=
  fanOut (Chain.confined ha value) (Chain.confined hb value) value s

end

namespace Rehearsal.Append

abbrev SharesLog (t : Task (List AppendNote) α) : Prop :=
  t.Confined List.reverse (fun _ => ()) fun _ => ()

theorem sharesLog_note (note : AppendNote) : SharesLog (Task.modify (note :: ·)) := by
  have added : ∀ notes, Task.news List.reverse notes (note :: notes) = [note] := by simp [Task.news]
  refine ⟨⟨fun notes => ?_, fun _ => rfl, fun _ _ _ => rfl, fun notes notes' _ => ?_,
    fun _ _ _ => rfl⟩, fun _ => trivial⟩
  · exact ⟨[note], List.reverse_cons.symm⟩
  · rw [added, added]

theorem sharesLog_turns (text : String) (turn n : Nat) : SharesLog (turns text turn n) := by
  induction n generalizing turn with
  | zero => trivial
  | succ n ih =>
    have later : SharesLog (Task.pause 1) := trivial
    refine Task.confined_bind later fun _ => ?_
    exact Task.confined_bind (sharesLog_note _) fun _ => ih (turn + 1)

theorem sharesLog_perform (step : Append) (input : String) : SharesLog (step.perform input) := by
  obtain ⟨text, yields⟩ := step
  cases yields with
  | none => exact Task.confined_bind (sharesLog_note _) fun _ => trivial
  | some n =>
    refine Task.confined_bind (sharesLog_note _) fun _ => ?_
    refine Task.confined_bind (sharesLog_turns text 1 n) fun _ => ?_
    exact Task.confined_bind (sharesLog_note _) fun _ => trivial

def slow : Chain Append := .andThen (.leaf ⟨"a", some 2⟩) (.leaf ⟨"b", none⟩)

def quick : Chain Append := .both (.leaf ⟨"c", none⟩) (.leaf ⟨"d", some 1⟩)

/-- The right side has ended one turn before the left one. -/
theorem fan_out_merges_turns_slow_quick :
    FanOut List.reverse (fun _ => ()) (fun _ => ()) (slow.run perform "x") (quick.run perform "x")
      "x" [] ((Chain.both slow quick).run perform "x") ∧
    turnLogs List.reverse ((Chain.both slow quick).run perform "x") [] =
      [[.started "a" "x", .ran "c" "x", .started "d" "x"],
        [.resumed "a" 1, .resumed "d" 1, .ended "d"],
        [.resumed "a" 2, .ended "a", .ran "b" "xa"]] := by
  have ofSlow : slow.Every fun step => ∀ value, SharesLog (step.perform value) :=
    ⟨sharesLog_perform _, sharesLog_perform _⟩
  have ofQuick : quick.Every fun step => ∀ value, SharesLog (step.perform value) :=
    ⟨sharesLog_perform _, sharesLog_perform _⟩
  exact ⟨fan_out_merges_turns ofSlow ofQuick "x" [], rfl⟩

end Rehearsal.Append

end RouteBus
