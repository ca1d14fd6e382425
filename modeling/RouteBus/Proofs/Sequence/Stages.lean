import Mathlib.Data.List.Forall2
import RouteBus.Proofs.Task.Turns
import RouteBus.Sequence

/-!
# Stages of a sequence

A tower of stages behind a sequence is one stage that takes each value through all of them. What it
does on a list is told item by item: each item goes through the stages in order until one of them
rejects it, and the next item comes after that.
-/

namespace RouteBus.Sequence

-- ---------------------------------------------------------------------------
-- Towers
-- ---------------------------------------------------------------------------

inductive Stages (σ : Type) : Type → Type → Type 1
  | nil : Stages σ α α
  | cons (stage : Stage σ α β) (rest : Stages σ β γ) : Stages σ α γ

variable {σ ℓ μ : Type}

namespace Stage

def task : Stage σ α β → α → Task σ (Option β)
  | .map f, value => some <$> .atomically (f value)
  | .filter p, value => (fun kept => if kept then some value else none) <$> .atomically (p value)
  | .await action, value => some <$> action value

def unsuspended : Stage σ α β → Stage σ α β
  | .map f => .map f
  | .filter p => .filter p
  | .await action => .await fun value => (action value).unsuspended

theorem attach_eq (stage : Stage σ α β) (input : Sequence σ α) :
    stage.attach input = input.filterMapTask stage.task := by
  cases stage <;> rfl

theorem run_task_unsuspended (stage : Stage σ α β) (value : α) (s : σ) :
    (stage.unsuspended.task value).run s = (stage.task value).run s := by
  cases stage with
  | map | filter => rfl
  | await action => simp only [unsuspended, task, Task.run_map, Task.run_unsuspended]

end Stage

namespace Stages

def length : Stages σ α γ → Nat
  | .nil => 0
  | .cons _ rest => rest.length + 1

def append : Stages σ α β → Stages σ β γ → Stages σ α γ
  | .nil, more => more
  | .cons stage rest, more => .cons stage (rest.append more)

def attach : Stages σ α γ → Sequence σ α → Sequence σ γ
  | .nil, input => input
  | .cons stage rest, input => rest.attach (stage.attach input)

def through : Stages σ α γ → α → Task σ (Option γ)
  | .nil, value => .done (some value)
  | .cons stage rest, value => do
    match ← stage.task value with
    | none => return none
    | some given => rest.through given

def unsuspended : Stages σ α γ → Stages σ α γ
  | .nil => .nil
  | .cons stage rest => .cons stage.unsuspended rest.unsuspended

end Stages

-- ---------------------------------------------------------------------------
-- A tower as one stage
-- ---------------------------------------------------------------------------

theorem filterMapTask_after (f : β → Task σ (Option γ)) (rest : Sequence σ β)
    (t : Task σ (Option β)) :
    filterMapTask f (after rest t) = after (filterMapTask f rest) (do
      match ← t with
      | none => return none
      | some value => f value) := by
  induction t with
  | done given => cases given <;> rfl
  | act effect next ih => exact congrArg (act effect) (funext ih)
  | yield t ih => exact congrArg yield ih

theorem filterMapTask_filterMapTask (f : α → Task σ (Option β)) (g : β → Task σ (Option γ))
    (input : Sequence σ α) :
    filterMapTask g (filterMapTask f input) = filterMapTask (fun value => do
      match ← f value with
      | none => return none
      | some given => g given) input := by
  induction input with
  | ended => rfl
  | item value rest ih => rw [filterMapTask, filterMapTask_after, ih, filterMapTask]
  | act effect next ih => exact congrArg (act effect) (funext ih)
  | yield rest ih => exact congrArg yield ih

theorem filterMapTask_done (input : Sequence σ α) :
    filterMapTask (fun value => .done (some value)) input = input := by
  induction input with
  | ended => rfl
  | item value rest ih => exact congrArg (item value) ih
  | act effect next ih => exact congrArg (act effect) (funext ih)
  | yield rest ih => exact congrArg yield ih

theorem Stages.attach_eq (stages : Stages σ α γ) (input : Sequence σ α) :
    stages.attach input = input.filterMapTask stages.through := by
  induction stages with
  | nil => exact (filterMapTask_done input).symm
  | cons stage rest ih =>
    rw [attach, ih, stage.attach_eq, filterMapTask_filterMapTask]
    rfl

theorem Stages.attach_append (stages : Stages σ α β) (more : Stages σ β γ) (input : Sequence σ α) :
    (stages.append more).attach input = more.attach (stages.attach input) := by
  induction stages with
  | nil => rfl
  | cons stage rest ih => exact ih more _

-- ---------------------------------------------------------------------------
-- Item by item
-- ---------------------------------------------------------------------------

abbrev Value := Σ α : Type, α

/-- One call of a stage, known by its position. Nothing is given if it rejects the value. -/
structure Call (ℓ : Type) where
  stage : Nat
  input : Value
  given : Option Value
  entries : List ℓ

structure Passage (ℓ γ : Type) where
  calls : List (Call ℓ)
  out : Option γ

def Passage.entries (p : Passage ℓ γ) : List ℓ := p.calls.flatMap Call.entries

def outputs (passages : List (Passage ℓ γ)) : List γ := passages.filterMap Passage.out

def entries (passages : List (Passage ℓ γ)) : List ℓ := passages.flatMap Passage.entries

namespace Stages

def pass (log : σ → List ℓ) : Stages σ α γ → Nat → α → σ → Passage ℓ γ × σ
  | .nil, _, value, s => (⟨[], some value⟩, s)
  | .cons stage rest, i, value, s =>
    let ran := (stage.task value).run s
    let call := ⟨i, ⟨_, value⟩, ran.1.map (⟨_, ·⟩), Task.news log s ran.2⟩
    match ran.1 with
    | none => (⟨[call], none⟩, ran.2)
    | some given =>
      let passed := rest.pass log (i + 1) given ran.2
      (⟨call :: passed.1.calls, passed.1.out⟩, passed.2)

def process (log : σ → List ℓ) (stages : Stages σ α γ) : List α → σ → List (Passage ℓ γ) × σ
  | [], s => ([], s)
  | value :: items, s =>
    let passed := stages.pass log 0 value s
    let processed := stages.process log items passed.2
    (passed.1 :: processed.1, processed.2)

end Stages

/-- All that the stage does beside what is its own is to add to the log. What it gives and adds
hangs on its own part of the state. -/
structure Stage.Private {α β : Type} (log : σ → List ℓ) (own : σ → μ) (stage : Stage σ α β) :
    Prop where
  appends : ∀ value s, log s <+: log ((stage.task value).run s).2
  given_congr : ∀ value s s', own s = own s' →
    ((stage.task value).run s).1 = ((stage.task value).run s').1
  own_congr : ∀ value s s', own s = own s' →
    own ((stage.task value).run s).2 = own ((stage.task value).run s').2
  news_congr : ∀ value s s', own s = own s' →
    Task.news log s ((stage.task value).run s).2 = Task.news log s' ((stage.task value).run s').2

def Stages.Private (log : σ → List ℓ) (own : σ → μ) : Stages σ α γ → Prop
  | .nil => True
  | .cons stage rest => stage.Private log own ∧ rest.Private log own

variable {log : σ → List ℓ} {own : σ → μ} {s s' : σ}

/-- To a stage that is alone, all of the state is its own. -/
theorem Stage.Private.of_appends {stage : Stage σ α β}
    (h : ∀ value s, log s <+: log ((stage.task value).run s).2) : stage.Private log id where
  appends := h
  given_congr _ _ _ same := by rw [id_eq, id_eq] at same; rw [same]
  own_congr _ _ _ same := by rw [id_eq, id_eq] at same; rw [same]
  news_congr _ _ _ same := by rw [id_eq, id_eq] at same; rw [same]

theorem Stage.Private.of_confined {other : σ → ν} {stage : Stage σ α β}
    (h : ∀ value, (stage.task value).Confined log own other) : stage.Private log own := by
  have added : ∀ value s, log ((stage.task value).run s).2 =
      log s ++ Task.logged log (stage.task value) s :=
    fun value => Task.log_run (h value).appends
  constructor
  case appends => exact fun value s => ⟨_, (added value s).symm⟩
  case given_congr => exact fun value s s' same => ((h value).run_congr same).1
  case own_congr => exact fun value s s' same => ((h value).run_congr same).2.1
  case news_congr =>
    intro value s s' same
    rw [Task.news, Task.news, added, added, List.drop_left, List.drop_left, Task.logged,
      Task.logged, ((h value).run_congr same).2.2]

theorem Stage.Private.of_run_eq {stage other : Stage σ α β} (h : stage.Private log own)
    (same : ∀ value s, (other.task value).run s = (stage.task value).run s) :
    other.Private log own where
  appends := by simpa only [same] using h.appends
  given_congr := by simpa only [same] using h.given_congr
  own_congr := by simpa only [same] using h.own_congr
  news_congr := by simpa only [same] using h.news_congr

theorem Stages.private_unsuspended {stages : Stages σ α γ} :
    stages.unsuspended.Private log own ↔ stages.Private log own := by
  induction stages with
  | nil => rfl
  | cons stage rest ih =>
    refine and_congr ⟨fun h => ?_, fun h => ?_⟩ ih
    · exact h.of_run_eq fun value s => (stage.run_task_unsuspended value s).symm
    · exact h.of_run_eq stage.run_task_unsuspended

namespace Stages

theorem pass_cons (stage : Stage σ α β) (rest : Stages σ β γ) (i : Nat) (value : α) (s : σ) :
    (cons stage rest).pass log i value s =
      let call given := ⟨i, ⟨α, value⟩, given, Task.news log s ((stage.task value).run s).2⟩
      match ((stage.task value).run s).1 with
      | none => (⟨[call none], none⟩, ((stage.task value).run s).2)
      | some given =>
        let passed := rest.pass log (i + 1) given ((stage.task value).run s).2
        (⟨call (some ⟨β, given⟩) :: passed.1.calls, passed.1.out⟩, passed.2) := by
  rw [pass]
  cases ((stage.task value).run s).1 <;> rfl

theorem run_through (log : σ → List ℓ) (stages : Stages σ α γ) (i : Nat) (value : α) (s : σ) :
    (stages.through value).run s =
      ((stages.pass log i value s).1.out, (stages.pass log i value s).2) := by
  induction stages generalizing i s with
  | nil => rfl
  | cons stage rest ih =>
    rw [through, Task.run_bind, pass_cons]
    cases ((stage.task value).run s).1 with
    | none => rfl
    | some given => exact ih (i + 1) given _

theorem pass_log {stages : Stages σ α γ} (h : stages.Private log own) (i : Nat) (value : α)
    (s : σ) :
    log (stages.pass log i value s).2 = log s ++ (stages.pass log i value s).1.entries := by
  induction stages generalizing i s with
  | nil => exact (List.append_nil _).symm
  | cons stage rest ih =>
    obtain ⟨first, later⟩ := h
    have added := Task.news_append (first.appends value s)
    rw [pass_cons]
    cases ((stage.task value).run s).1 with
    | none => simpa [Passage.entries] using added
    | some given =>
      rw [ih later (i + 1) given, added]
      simp [Passage.entries]

theorem pass_congr {stages : Stages σ α γ} (h : stages.Private log own) (i : Nat) (value : α)
    (same : own s = own s') :
    (stages.pass log i value s).1 = (stages.pass log i value s').1 ∧
      own (stages.pass log i value s).2 = own (stages.pass log i value s').2 := by
  induction stages generalizing i s s' with
  | nil => exact ⟨rfl, same⟩
  | cons stage rest ih =>
    obtain ⟨first, later⟩ := h
    rw [pass_cons, pass_cons, first.given_congr value s s' same, first.news_congr value s s' same]
    have still := first.own_congr value s s' same
    cases ((stage.task value).run s').1 with
    | none => exact ⟨rfl, still⟩
    | some given =>
      obtain ⟨passage, owned⟩ := ih later (i + 1) given still
      dsimp only
      rw [passage]
      exact ⟨rfl, owned⟩

theorem pass_unsuspended (log : σ → List ℓ) (stages : Stages σ α γ) (i : Nat) (value : α) (s : σ) :
    stages.unsuspended.pass log i value s = stages.pass log i value s := by
  induction stages generalizing i s with
  | nil => rfl
  | cons stage rest ih => simp only [unsuspended, pass_cons, stage.run_task_unsuspended, ih]

theorem pass_append (log : σ → List ℓ) (stages : Stages σ α β) (more : Stages σ β γ) (i : Nat)
    (value : α) (s : σ) :
    (stages.append more).pass log i value s =
      match (stages.pass log i value s).1.out with
      | none => (⟨(stages.pass log i value s).1.calls, none⟩, (stages.pass log i value s).2)
      | some given =>
        let passed := more.pass log (i + stages.length) given (stages.pass log i value s).2
        (⟨(stages.pass log i value s).1.calls ++ passed.1.calls, passed.1.out⟩, passed.2) := by
  induction stages generalizing i s with
  | nil => rfl
  | cons stage rest ih =>
    rw [append, pass_cons, pass_cons]
    cases ((stage.task value).run s).1 with
    | none => rfl
    | some given =>
      dsimp only
      rw [ih]
      cases (rest.pass log (i + 1) given ((stage.task value).run s).2).1.out with
      | none => rfl
      | some out => simp [length, Nat.add_assoc, Nat.add_comm 1]

theorem process_take (log : σ → List ℓ) (stages : Stages σ α γ) (items : List α) (n : Nat) (s : σ) :
    (stages.process log (items.take n) s).1 = (stages.process log items s).1.take n := by
  induction items generalizing n s with
  | nil => simp [process]
  | cons value items ih =>
    cases n with
    | zero => rfl
    | succ n => exact congrArg (_ :: ·) (ih n _)

theorem process_log {stages : Stages σ α γ} (h : stages.Private log own) (items : List α) (s : σ) :
    log (stages.process log items s).2 =
      log s ++ Sequence.entries (stages.process log items s).1 := by
  induction items generalizing s with
  | nil => exact (List.append_nil _).symm
  | cons value items ih =>
    rw [process, ih, pass_log h 0 value s]
    simp [Sequence.entries]

theorem process_unsuspended (log : σ → List ℓ) (stages : Stages σ α γ) (items : List α) (s : σ) :
    stages.unsuspended.process log items s = stages.process log items s := by
  induction items generalizing s with
  | nil => rfl
  | cons value items ih => simp only [process, pass_unsuspended, ih]

end Stages

-- ---------------------------------------------------------------------------
-- Stage by stage
-- ---------------------------------------------------------------------------

namespace Passage

/-- What comes to the stage `i` of `n`, or out behind the last of them. -/
def arrivals (n i : Nat) (p : Passage ℓ γ) : List Value :=
  if i = n then (p.out.map (⟨γ, ·⟩)).toList
  else p.calls.filterMap fun call => if call.stage = i then some call.input else none

def given (i : Nat) (p : Passage ℓ γ) : List Value :=
  p.calls.filterMap fun call => if call.stage = i then call.given else none

end Passage

/-- Each item is taken through the `n` stages in order, and each stage gets what the one before it
gives. So every stage gets, in the order of the items, what has passed the stages before it. -/
structure InOrder {ℓ α γ : Type} (n : Nat) (items : List α) (passages : List (Passage ℓ γ)) :
    Prop where
  entered : passages.map (Passage.arrivals n 0) = items.map fun value => [⟨α, value⟩]
  handedOn : ∀ p ∈ passages, ∀ i < n, p.arrivals n (i + 1) = p.given i
  inTurn : ∀ p ∈ passages, p.calls.map Call.stage = List.range p.calls.length
  items : passages.flatMap (Passage.arrivals n 0) = items.map (⟨α, ·⟩)
  passed : ∀ i < n, passages.flatMap (Passage.arrivals n (i + 1)) =
    passages.flatMap (Passage.given i)

structure Way {ℓ α γ : Type} (i n : Nat) (value : α) (p : Passage ℓ γ) : Prop where
  entered : p.arrivals (i + n) i = [⟨α, value⟩]
  handedOn : ∀ j, i ≤ j → j < i + n → p.arrivals (i + n) (j + 1) = p.given j
  inTurn : p.calls.map Call.stage = List.range' i p.calls.length

namespace Passage

variable {i j n : Nat} {input : Value} {result : Option Value} {added : List ℓ}
  {calls : List (Call ℓ)} {out : Option γ}

theorem arrivals_cons_self (h : i ≠ n) :
    arrivals n i ⟨⟨i, input, result, added⟩ :: calls, out⟩ =
      input :: arrivals n i ⟨calls, out⟩ := by
  simp [arrivals, h]

theorem arrivals_cons_ne (h : i ≠ j) :
    arrivals n j ⟨⟨i, input, result, added⟩ :: calls, out⟩ = arrivals n j ⟨calls, out⟩ := by
  simp [arrivals, h]

theorem given_cons_self :
    given i ⟨⟨i, input, result, added⟩ :: calls, out⟩ =
      result.toList ++ given i ⟨calls, out⟩ := by
  cases result <;> simp [given]

theorem given_cons_ne (h : i ≠ j) :
    given j ⟨⟨i, input, result, added⟩ :: calls, out⟩ = given j ⟨calls, out⟩ := by
  simp [given, h]

end Passage

/-- No stage ahead of the first one is called. -/
theorem Way.ahead {i n : Nat} {value : α} {p : Passage ℓ γ} (way : Way (i + 1) n value p) :
    p.arrivals (i + 1 + n) i = [] ∧ p.given i = [] := by
  have behind : ∀ call ∈ p.calls, call.stage ≠ i := by
    intro call hc
    have h : call.stage ∈ List.range' (i + 1) p.calls.length :=
      way.inTurn ▸ List.mem_map_of_mem hc
    have := List.mem_range'_1.mp h
    omega
  constructor
  · rw [Passage.arrivals, if_neg (by omega)]
    exact List.filterMap_eq_nil_iff.mpr fun call hc => if_neg (behind call hc)
  · exact List.filterMap_eq_nil_iff.mpr fun call hc => if_neg (behind call hc)

theorem Stages.way_pass (log : σ → List ℓ) (stages : Stages σ α γ) (i : Nat) (value : α) (s : σ) :
    Way i stages.length value (stages.pass log i value s).1 := by
  induction stages generalizing i s with
  | nil =>
    refine ⟨by simp [pass, length, Passage.arrivals], fun j hj hn => ?_, rfl⟩
    exact absurd hn (Nat.not_lt.mpr hj)
  | cons stage rest ih =>
    have long : i + (rest.length + 1) = i + 1 + rest.length := by omega
    rw [pass_cons, length]
    cases ((stage.task value).run s).1 with
    | none =>
      constructor
      case entered => simp [Passage.arrivals]
      case handedOn =>
        intro j hj _
        simp [Passage.arrivals, Passage.given, show i ≠ j + 1 by omega]
      case inTurn => rfl
    | some given =>
      -- All later calls are of stages behind `i`, so of the columns of `i` only this call is seen.
      have way := ih (i + 1) given ((stage.task value).run s).2
      dsimp only
      constructor
      case entered =>
        rw [Passage.arrivals_cons_self (by omega), long, way.ahead.1]
      case handedOn =>
        intro j hj hn
        rw [long, Passage.arrivals_cons_ne (by omega)]
        rcases Nat.eq_or_lt_of_le hj with rfl | later
        · rw [Passage.given_cons_self, way.ahead.2, way.entered]
          rfl
        · rw [Passage.given_cons_ne (by omega)]
          exact way.handedOn j later (by omega)
      case inTurn =>
        rw [List.map_cons, way.inTurn, List.length_cons, List.range'_succ]

theorem Stages.ways_process (log : σ → List ℓ) (stages : Stages σ α γ) (items : List α) (s : σ) :
    List.Forall₂ (Way 0 stages.length) items (stages.process log items s).1 := by
  induction items generalizing s with
  | nil => exact .nil
  | cons value items ih => exact .cons (stages.way_pass log 0 value s) (ih _)

theorem Stages.inOrder_process (log : σ → List ℓ) (stages : Stages σ α γ) (items : List α) (s : σ) :
    InOrder stages.length items (stages.process log items s).1 := by
  have ways := stages.ways_process log items s
  generalize (stages.process log items s).1 = passages at ways
  have entered : passages.map (Passage.arrivals stages.length 0) =
      items.map fun value => [⟨α, value⟩] := by
    induction ways with
    | nil => rfl
    | cons way _ ih =>
      have first := way.entered
      rw [Nat.zero_add] at first
      rw [List.map_cons, List.map_cons, first, ih]
  have each : ∀ p ∈ passages, ∃ value : α, Way 0 stages.length value p := by
    clear entered
    induction ways with
    | nil => simp
    | cons way _ ih => exact List.forall_mem_cons.mpr ⟨⟨_, way⟩, ih⟩
  have handedOn : ∀ p ∈ passages, ∀ i < stages.length,
      p.arrivals stages.length (i + 1) = p.given i := by
    intro p hp i hi
    obtain ⟨value, way⟩ := each p hp
    have here := way.handedOn i (Nat.zero_le i) (by omega)
    rwa [Nat.zero_add] at here
  constructor
  case entered => exact entered
  case handedOn => exact handedOn
  case inTurn =>
    intro p hp
    obtain ⟨value, way⟩ := each p hp
    rw [way.inTurn, List.range_eq_range']
  case items =>
    rw [List.flatMap_def, entered, ← List.flatMap_def, ← List.map_eq_flatMap]
  case passed => exact fun i hi => List.flatMap_congr fun p hp => handedOn p hp i hi

end RouteBus.Sequence
