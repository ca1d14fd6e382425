import RouteBus.Proofs.Sequence.Stages
import RouteBus.Rehearsal.Tryout

/-!
# Pulling values through stages

Whoever pulls values through a tower of stages gets what comes of the items one by one. Who takes
only the first ones leaves all later items alone, and who hands them to a sink does so as soon as
they come out.
-/

namespace RouteBus.Sequence

/-- How many items are pulled for the first `k` values: none for none of them, all if there are too
few values, and else those up to the one that gives the last of these values. -/
inductive Pulled {ℓ γ : Type} (passages : List (Passage ℓ γ)) : Nat → Nat → Prop
  | nothing : Pulled passages 0 0
  | all : (outputs passages).length < k → Pulled passages k passages.length
  | upTo : passages[m]? = some p → p.out = some value →
      (outputs (passages.take m)).length = k → Pulled passages (k + 1) (m + 1)

/-- An item goes the same way if there is a sink. What comes out of it is handed to the sink before
anything else is done. -/
def Handed {σ ℓ γ : Type} (log : σ → List ℓ) (sink : γ → σ → σ) (n : Nat) (p : Passage ℓ γ)
    (q : Passage ℓ Unit) : Prop :=
  match p.out with
  | none => q.calls = p.calls
  | some value => ∃ s, q.calls =
      p.calls ++ [⟨n, ⟨γ, value⟩, some ⟨Unit, ()⟩, Task.news log s (sink value s)⟩]

/-- What one gets by pulling the items through the stages, told from what is done item by item. -/
structure Delivers {σ ℓ α γ : Type} (log : σ → List ℓ) (stages : Stages σ α γ)
    (sink : γ → σ → σ) (items : List α) (s : σ) (passages : List (Passage ℓ γ)) (last : σ) :
    Prop where
  all : (stages.attach (.ofList items)).collect.run s = (outputs passages, last)
  logged : log last = log s ++ entries passages
  first : ∀ k, ∃ m, Pulled passages k m ∧
    ((stages.attach (.ofList items)).take k).run s =
      ((outputs passages).take k, (stages.process log (items.take m) s).2) ∧
    log (stages.process log (items.take m) s).2 = log s ++ entries (passages.take m)
  handed : ∃ handings last', ((stages.attach (.ofList items)).forEach
      fun value => .modify (sink value)).run s = ((), last') ∧
    log last' = log s ++ entries handings ∧
    List.Forall₂ (Handed log sink stages.length) passages handings

variable {σ ℓ μ : Type} {log : σ → List ℓ} {own : σ → μ}

-- ---------------------------------------------------------------------------
-- One pull
-- ---------------------------------------------------------------------------

/-- Whoever pulls step by step comes to the first value when the task in front has ended. -/
theorem pull_after {pull : Sequence σ β → Task σ γ}
    (act : ∀ effect next, pull (.act effect next) = .act effect fun s => pull (next s))
    (yield : ∀ rest, pull (.yield rest) = .yield (pull rest)) (rest : Sequence σ β)
    (t : Task σ (Option β)) :
    pull (after rest t) = (do
      match ← t with
      | none => pull rest
      | some value => pull (.item value rest)) := by
  induction t with
  | done given => cases given <;> rfl
  | act effect next ih =>
    rw [after, act]
    exact congrArg (Task.act effect) (funext ih)
  | yield t ih =>
    rw [after, yield]
    exact congrArg Task.yield ih

theorem collect_after (rest : Sequence σ β) (t : Task σ (Option β)) :
    (after rest t).collect = (do
      match ← t with
      | none => rest.collect
      | some value => (value :: ·) <$> rest.collect) :=
  pull_after (fun _ _ => rfl) (fun _ => rfl) rest t

theorem take_after (k : Nat) (rest : Sequence σ β) (t : Task σ (Option β)) :
    (after rest t).take (k + 1) = (do
      match ← t with
      | none => rest.take (k + 1)
      | some value => (value :: ·) <$> rest.take k) :=
  pull_after (fun _ _ => rfl) (fun _ => rfl) rest t

theorem forEach_eq (sink : α → σ → σ) (input : Sequence σ α) :
    (input.forEach fun value => .modify (sink value)) =
      (fun _ => ()) <$> (input.map fun value s => ((), sink value s)).collect := by
  induction input with
  | ended => rfl
  | item value rest ih =>
    rw [forEach, ih, map, filterMapTask, collect_after]
    simp only [map_eq_pure_bind, bind_assoc, pure_bind]
    rfl
  | act effect next ih => exact congrArg (Task.act effect) (funext ih)
  | yield rest ih => exact congrArg Task.yield ih

-- ---------------------------------------------------------------------------
-- All values
-- ---------------------------------------------------------------------------

theorem run_collect (log : σ → List ℓ) (stages : Stages σ α γ) (items : List α) (s : σ) :
    (stages.attach (.ofList items)).collect.run s =
      (outputs (stages.process log items s).1, (stages.process log items s).2) := by
  rw [stages.attach_eq]
  induction items generalizing s with
  | nil => rfl
  | cons value items ih =>
    rw [ofList, filterMapTask, collect_after, Task.run_bind, stages.run_through log 0,
      Stages.process, outputs, List.filterMap_cons]
    cases (stages.pass log 0 value s).1.out with
    | none => exact ih _
    | some given => exact (Task.run_map ..).trans (by rw [ih]; rfl)

-- ---------------------------------------------------------------------------
-- The first values
-- ---------------------------------------------------------------------------

theorem Pulled.rejected {p : Passage ℓ γ} {passages : List (Passage ℓ γ)}
    (h : Pulled passages (k + 1) m) (hp : p.out = none) :
    Pulled (p :: passages) (k + 1) (m + 1) := by
  cases h with
  | all few => exact .all (by simpa [outputs, hp] using few)
  | upTo found given count => exact .upTo found given (by simpa [outputs, hp] using count)

theorem Pulled.passed {p : Passage ℓ γ} {passages : List (Passage ℓ γ)}
    (h : Pulled passages k m) (hp : p.out = some value) :
    Pulled (p :: passages) (k + 1) (m + 1) := by
  cases h with
  | nothing => exact .upTo (p := p) rfl hp rfl
  | all few => exact .all (by simpa [outputs, hp] using few)
  | upTo found given count => exact .upTo found given (by simpa [outputs, hp] using count)

/-- Taking the first values is stopping behind the item that gives the last of them. -/
theorem run_take (log : σ → List ℓ) (stages : Stages σ α γ) (items : List α) (k : Nat) (s : σ) :
    ∃ m, Pulled (stages.process log items s).1 k m ∧
      ((stages.attach (.ofList items)).take k).run s =
        ((outputs (stages.process log items s).1).take k,
          (stages.process log (items.take m) s).2) := by
  rw [stages.attach_eq]
  induction items generalizing k s with
  | nil =>
    cases k with
    | zero => exact ⟨0, .nothing, rfl⟩
    | succ k => exact ⟨0, .all (Nat.succ_pos k), rfl⟩
  | cons value items ih =>
    cases k with
    | zero => exact ⟨0, .nothing, by simp [take, Stages.process]⟩
    | succ k =>
      rw [ofList, filterMapTask, take_after, Task.run_bind, stages.run_through log 0,
        Stages.process, outputs, List.filterMap_cons]
      cases hp : (stages.pass log 0 value s).1.out with
      | none =>
        obtain ⟨m, pulled, run⟩ := ih (k + 1) (stages.pass log 0 value s).2
        exact ⟨m + 1, pulled.rejected hp, run⟩
      | some given =>
        obtain ⟨m, pulled, run⟩ := ih k (stages.pass log 0 value s).2
        exact ⟨m + 1, pulled.passed hp, (Task.run_map ..).trans (by rw [run]; rfl)⟩

-- ---------------------------------------------------------------------------
-- Into a sink
-- ---------------------------------------------------------------------------

def Stages.into (stages : Stages σ α γ) (sink : γ → σ → σ) : Stages σ α Unit :=
  stages.append (.cons (.map fun value s => ((), sink value s)) .nil)

structure Apart {σ ℓ μ γ : Type} (log : σ → List ℓ) (own : σ → μ) (sink : γ → σ → σ) : Prop where
  appends : ∀ value s, log s <+: log (sink value s)
  spares : ∀ value s, own (sink value s) = own s

theorem run_forEach (log : σ → List ℓ) (stages : Stages σ α γ) (sink : γ → σ → σ)
    (items : List α) (s : σ) :
    ((stages.attach (.ofList items)).forEach fun value => .modify (sink value)).run s =
      ((), ((stages.into sink).process log items s).2) := by
  have attached : (stages.attach (.ofList items)).map (fun value s => ((), sink value s)) =
      (stages.into sink).attach (.ofList items) :=
    (stages.attach_append (.cons (.map fun value s => ((), sink value s)) .nil) _).symm
  rw [forEach_eq, attached, Task.run_map, run_collect log]

theorem Stages.Private.into {stages : Stages σ α γ} {sink : γ → σ → σ}
    (h : stages.Private log own) (apart : Apart log own sink) :
    (stages.into sink).Private log id := by
  induction stages with
  | nil => exact ⟨.of_appends apart.appends, trivial⟩
  | cons stage rest ih => exact ⟨.of_appends h.1.appends, ih h.2 apart⟩

theorem handed_pass {stages : Stages σ α γ} {sink : γ → σ → σ} (h : stages.Private log own)
    (apart : Apart log own sink) (value : α) {s s' : σ} (same : own s = own s') :
    Handed log sink stages.length (stages.pass log 0 value s).1
        ((stages.into sink).pass log 0 value s').1 ∧
      own (stages.pass log 0 value s).2 = own ((stages.into sink).pass log 0 value s').2 := by
  obtain ⟨passage, owned⟩ := Stages.pass_congr h 0 value same
  rw [Stages.into, Stages.pass_append, ← passage, Handed]
  cases (stages.pass log 0 value s).1.out with
  | none => exact ⟨rfl, owned⟩
  | some given =>
    refine ⟨⟨(stages.pass log 0 value s').2, ?_⟩, ?_⟩
    · rw [Nat.zero_add]
      rfl
    · exact owned.trans (apart.spares given _).symm

theorem handed_process {stages : Stages σ α γ} {sink : γ → σ → σ} (h : stages.Private log own)
    (apart : Apart log own sink) (items : List α) {s s' : σ} (same : own s = own s') :
    List.Forall₂ (Handed log sink stages.length) (stages.process log items s).1
      ((stages.into sink).process log items s').1 := by
  induction items generalizing s s' with
  | nil => exact .nil
  | cons value items ih =>
    obtain ⟨handed, still⟩ := handed_pass h apart value same
    exact .cons handed (ih still)

-- ---------------------------------------------------------------------------
-- However it is pulled
-- ---------------------------------------------------------------------------

theorem delivers {stages : Stages σ α γ} {sink : γ → σ → σ} (h : stages.Private log own)
    (apart : Apart log own sink) (items : List α) (s : σ) :
    Delivers log stages sink items s (stages.process log items s).1
      (stages.process log items s).2 := by
  constructor
  case all => exact run_collect log stages items s
  case logged => exact Stages.process_log h items s
  case first =>
    intro k
    obtain ⟨m, pulled, run⟩ := run_take log stages items k s
    refine ⟨m, pulled, run, ?_⟩
    rw [Stages.process_log h, Stages.process_take]
  case handed =>
    refine ⟨((stages.into sink).process log items s).1, ((stages.into sink).process log items s).2,
      run_forEach log stages sink items s, ?_, handed_process h apart items rfl⟩
    exact Stages.process_log (h.into apart) items s

/-- Items are pulled through the stages one by one, each through all stages in order or as far as it
gets. Whoever pulls all values, takes the first of them or hands them to a sink gets what comes out
of the items, in the order of the items. Who takes the first ones leaves alone what is behind them,
and the sink gets each value right after the stages have given it. How often the stages suspend
makes no difference. -/
theorem sequences_lazy {stages : Stages σ α γ} {sink : γ → σ → σ} (h : stages.Private log own)
    (apart : Apart log own sink) (items : List α) (s : σ) :
    InOrder stages.length items (stages.process log items s).1 ∧
    ∀ others : Stages σ α γ, others.unsuspended = stages.unsuspended →
      Delivers log others sink items s (stages.process log items s).1
        (stages.process log items s).2 := by
  refine ⟨stages.inOrder_process log items s, fun others same => ?_⟩
  -- Item by item, both towers do what they have in common does, which is never suspended.
  rw [← stages.process_unsuspended, ← same, others.process_unsuspended]
  rw [← Stages.private_unsuspended, ← same, Stages.private_unsuspended] at h
  exact delivers h apart items s

end RouteBus.Sequence

-- ---------------------------------------------------------------------------
-- Stages for numbers
-- ---------------------------------------------------------------------------

namespace RouteBus.Rehearsal.Stage

open RouteBus.Task (PrivateStep)

def tower (i : Nat) : List Stage → Sequence.Stages StageMemory Int Int
  | [] => .nil
  | stage :: stages => .cons (stage.placed i) (tower (i + 1) stages)

theorem attachAll_eq (i : Nat) (input : Sequence StageMemory Int) (stages : List Stage) :
    attachAll i input stages = (tower i stages).attach input := by
  induction stages generalizing i input with
  | nil => rfl
  | cons stage stages ih => exact ih (i + 1) _

def written (m : StageMemory) : List StageNote := m.log.reverse

def remembered (m : StageMemory) : (Nat → Nat) × (Nat → Option Int) := (m.counts, m.last)

theorem news_see (i : Nat) (what : String) (x : Int) (m : StageMemory) :
    Task.news written m (m.see i what x) = [.saw i what x] := by
  simp [Task.news, written, StageMemory.see]

theorem privateStep_see (i : Nat) (what : String) (x : Int)
    {next : StageMemory → Task StageMemory α}
    (h : ∀ m m', remembered m = remembered m' → next m = next m') :
    PrivateStep written remembered (fun _ => ()) (·.see i what x) next where
  appends m := ⟨[.saw i what x], by simp [written, StageMemory.see]⟩
  spares _ := rfl
  own_congr m m' same := by
    obtain ⟨counts, last⟩ := Prod.mk.inj same
    simp only [remembered, StageMemory.see, counts, last]
  news_congr m m' _ := by rw [news_see, news_see]
  next_congr := h

theorem confined_pause (n : Nat) :
    (Task.pause n).Confined written remembered fun _ => () := by
  induction n with
  | zero => trivial
  | succ n ih => exact ih

theorem confined_see (i : Nat) (what : String) (x : Int) :
    (Task.modify (·.see i what x)).Confined written remembered fun _ => () :=
  ⟨privateStep_see i what x fun _ _ _ => rfl, fun _ => trivial⟩

theorem confined_task (stage : Stage) (i : Nat) (x : Int) :
    ((stage.placed i).task x).Confined written remembered fun _ => () := by
  cases stage with
  | add n | mul n | greater n | divisible n =>
    exact ⟨privateStep_see i _ x fun _ _ _ => rfl, fun _ => trivial⟩
  | number =>
    refine ⟨privateStep_see i "number" x fun m m' same => ?_, fun _ => trivial⟩
    exact congrArg (fun counts : Nat → Nat => Task.done (some (x * 100 + counts i + 1)))
      (Prod.mk.inj same).1
  | changed =>
    refine ⟨privateStep_see i "changed" x fun m m' same => ?_, fun _ => trivial⟩
    exact congrArg (fun last : Nat → Option Int =>
      Task.done (if last i != some x then some x else none)) (Prod.mk.inj same).2
  | await n yields =>
    refine Task.confined_map some (Task.confined_bind (confined_see i "await" x) fun _ => ?_)
    refine Task.confined_bind (confined_pause yields) fun _ => ?_
    exact Task.confined_bind (confined_see i "resume" x) fun _ => trivial

theorem private_tower (i : Nat) (stages : List Stage) :
    (tower i stages).Private written remembered := by
  induction stages generalizing i with
  | nil => trivial
  | cons stage stages ih => exact ⟨.of_confined (confined_task stage i), ih (i + 1)⟩

/-- What comes out and is logged if everything is pulled. -/
theorem tryOut_all (items : List Int) (stages : List Stage) :
    tryOut items stages .all =
      (Sequence.outputs ((tower 0 stages).process written items .empty).1,
        Sequence.entries ((tower 0 stages).process written items .empty).1) := by
  have h := private_tower 0 stages
  have logged := Sequence.Stages.process_log h items .empty
  rw [tryOut, Pull.task, attachAll_eq, Sequence.run_collect written]
  exact Prod.ext rfl logged

/-- What comes out and is logged if the first values are pulled. -/
theorem tryOut_first (items : List Int) (stages : List Stage) (k : Nat) :
    ∃ m, Sequence.Pulled ((tower 0 stages).process written items .empty).1 k m ∧
      tryOut items stages (.first k) =
        ((Sequence.outputs ((tower 0 stages).process written items .empty).1).take k,
          Sequence.entries (((tower 0 stages).process written items .empty).1.take m)) := by
  have h := private_tower 0 stages
  obtain ⟨m, pulled, run⟩ := Sequence.run_take written (tower 0 stages) items k .empty
  have logged := Sequence.Stages.process_log h (items.take m) .empty
  rw [Sequence.Stages.process_take] at logged
  refine ⟨m, pulled, ?_⟩
  rw [tryOut, Pull.task, attachAll_eq, run]
  exact Prod.ext rfl logged

theorem apart_received :
    Sequence.Apart written remembered fun value m => m.note (.received value) where
  appends value m := ⟨[.received value], by simp [written, StageMemory.note]⟩
  spares _ _ := rfl

/-- The second value comes of the third item. The last item is not pulled, and whether the second
stage suspends does not matter. -/
theorem sequences_lazy_numbered :
    Sequence.Delivers written (tower 0 [.changed, .await 1 2, .number])
      (fun value m => m.note (.received value)) [5, 5, 7, 9] .empty
      ((tower 0 [.changed, .await 1 0, .number]).process written [5, 5, 7, 9] .empty).1
      ((tower 0 [.changed, .await 1 0, .number]).process written [5, 5, 7, 9] .empty).2 ∧
    tryOut [5, 5, 7, 9] [.changed, .await 1 2, .number] (.first 2) =
      ([601, 802], [.saw 0 "changed" 5, .saw 1 "await" 5, .saw 1 "resume" 5, .saw 2 "number" 6,
        .saw 0 "changed" 5, .saw 0 "changed" 7, .saw 1 "await" 7, .saw 1 "resume" 7,
        .saw 2 "number" 8]) :=
  ⟨(Sequence.sequences_lazy (private_tower 0 _) apart_received _ _).2 _ rfl, rfl⟩

end RouteBus.Rehearsal.Stage
