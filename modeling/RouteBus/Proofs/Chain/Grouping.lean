import RouteBus.Navigation.Router
import RouteBus.Rehearsal.Performance
import RouteBus.Rehearsal.Tryout

/-!
# Grouping

However the steps of a chain are grouped, they make the same task: the same steps, suspended in the
same places. So nobody who runs beside it can tell, and what it gives and logs in each turn is the
same.
-/

namespace RouteBus

/-- The chains run the same steps in the same order, grouped in different ways. -/
inductive Chain.Rebracketed : Chain κ → Chain κ → Prop
  | refl (a : Chain κ) : Rebracketed a a
  | symm : Rebracketed a b → Rebracketed b a
  | trans : Rebracketed a b → Rebracketed b c → Rebracketed a c
  | andThen : Rebracketed a a' → Rebracketed b b' → Rebracketed (.andThen a b) (.andThen a' b')
  | both : Rebracketed a a' → Rebracketed b b' → Rebracketed (.both a b) (.both a' b')
  | andThen_assoc (a b c : Chain κ) :
    Rebracketed (.andThen (.andThen a b) c) (.andThen a (.andThen b c))
  | both_assoc (a b c : Chain κ) : Rebracketed (.both (.both a b) c) (.both a (.both b c))

-- ---------------------------------------------------------------------------
-- Tasks side by side
-- ---------------------------------------------------------------------------

namespace Task

variable {σ α β γ δ : Type}

theorem map_done (f : α → β) (value : α) : f <$> (done value : Task σ α) = done (f value) := rfl

theorem map_yield (f : α → β) (rest : Task σ α) : f <$> yield rest = yield (f <$> rest) := rfl

theorem map_throughTurn (f : γ → δ) (suspended : Task σ α → Task σ γ) (ended : α → Task σ γ)
    (t : Task σ α) :
    f <$> throughTurn suspended ended t =
      throughTurn (fun rest => f <$> suspended rest) (fun value => f <$> ended value) t := by
  induction t with
  | done | yield => rfl
  | act effect next ih => exact congrArg (act effect) (funext ih)

theorem throughTurn_map (f : α → β) (suspended : Task σ β → Task σ γ) (ended : β → Task σ γ)
    (t : Task σ α) :
    throughTurn suspended ended (f <$> t) =
      throughTurn (fun rest => suspended (f <$> rest)) (fun value => ended (f value)) t := by
  induction t with
  | done | yield => rfl
  | act effect next ih => exact congrArg (act effect) (funext ih)

theorem throughTurn_throughTurn (suspended : Task σ β → Task σ γ) (ended : β → Task σ γ)
    (suspended' : Task σ α → Task σ β) (ended' : α → Task σ β) (t : Task σ α) :
    throughTurn suspended ended (throughTurn suspended' ended' t) =
      throughTurn (fun rest => throughTurn suspended ended (suspended' rest))
        (fun value => throughTurn suspended ended (ended' value)) t := by
  induction t with
  | done | yield => rfl
  | act effect next ih => exact congrArg (act effect) (funext ih)

theorem map_both (f : α → γ) (t : Task σ α) (u : Task σ β) :
    both (f <$> t) u = (fun (value, other) => (f value, other)) <$> both t u := by
  induction t generalizing u with
  | done value => simp only [map_done, both, Functor.map_map]
  | act effect next ih => exact congrArg (act effect) (funext fun s => ih s u)
  | yield rest ih =>
    simp only [map_yield, both, map_throughTurn, ih, Functor.map_map]

theorem both_map (f : β → γ) (t : Task σ α) (u : Task σ β) :
    both t (f <$> u) = (fun (value, other) => (value, f other)) <$> both t u := by
  induction t generalizing u with
  | done value => simp only [both, Functor.map_map]
  | act effect next ih => exact congrArg (act effect) (funext fun s => ih s u)
  | yield rest ih =>
    simp only [both, throughTurn_map, map_throughTurn, map_yield, ih, Functor.map_map]

/-- Three tasks side by side, whichever two of them are put together first. -/
theorem both_assoc (t : Task σ α) (u : Task σ β) (v : Task σ γ) :
    both (both t u) v = (fun (first, second, third) => ((first, second), third)) <$>
      both t (both u v) := by
  induction t generalizing u v with
  | done value => simp only [both, map_both, Functor.map_map]
  | act effect next ih => exact congrArg (act effect) (funext fun s => ih s u v)
  | yield rest ih =>
    -- The first task has ended its turn. What follows in this turn is up to the second one.
    induction u with
    | done value =>
      simp only [both, throughTurn, throughTurn_map, map_throughTurn, map_yield, both_map,
        map_both, Functor.map_map]
    | act effect next ih => exact congrArg (act effect) (funext ih)
    | yield later =>
      simp only [both, throughTurn, throughTurn_throughTurn, map_throughTurn, map_yield, ih,
        both_map, Functor.map_map]

end Task

-- ---------------------------------------------------------------------------
-- Chains
-- ---------------------------------------------------------------------------

section
variable {ι σ α : Type} {perform : ι → α → Task σ α} {a b : Chain ι}

theorem Chain.run_andThen_assoc (perform : ι → α → Task σ α) (a b c : Chain ι) (value : α) :
    (andThen (andThen a b) c).run perform value = (andThen a (andThen b c)).run perform value :=
  Task.bind_assoc ..

theorem Chain.run_both_assoc (perform : ι → α → Task σ α) (a b c : Chain ι) (value : α) :
    (both (both a b) c).run perform value = (both a (both b c)).run perform value := by
  simp only [run, Task.map_both, Task.both_map, Task.both_assoc, Functor.map_map]

theorem Chain.Rebracketed.run_eq (h : a.Rebracketed b) (perform : ι → α → Task σ α) :
    a.run perform = b.run perform := by
  induction h with
  | refl a => rfl
  | symm _ ih => exact ih.symm
  | trans _ _ ih₁ ih₂ => exact ih₁.trans ih₂
  | andThen _ _ ih₁ ih₂ | both _ _ ih₁ ih₂ =>
    funext value
    simp only [run, ih₁, ih₂]
  | andThen_assoc a b c => exact funext (run_andThen_assoc perform a b c)
  | both_assoc a b c => exact funext (run_both_assoc perform a b c)

end

-- ---------------------------------------------------------------------------
-- Routes
-- ---------------------------------------------------------------------------

section
variable {ε ν κ : Type} {host : Host ε ν κ}

theorem runChains_append (chains others : List (RouteChain κ)) (params : Params) :
    Router.runChains host (chains ++ others) params =
      Router.runChains host chains params >>= Router.runChains host others := by
  induction chains generalizing params with
  | nil => rfl
  | cons chain chains ih =>
    simp only [List.cons_append, Router.runChains, ih]
    exact (Task.bind_assoc ..).symm

theorem runChains_singleton (chain : RouteChain κ) (params : Params) :
    Router.runChains host [chain] params = chain.run (Router.perform host) params :=
  Task.bind_done _

theorem run_foldl_andThen (chain : RouteChain κ) (chains : List (RouteChain κ)) (params : Params) :
    (chains.foldl .andThen chain).run (Router.perform host) params =
      Router.runChains host (chain :: chains) params := by
  induction chains generalizing chain with
  | nil => exact (runChains_singleton chain params).symm
  | cons next chains ih =>
    rw [List.foldl_cons, ih]
    exact Task.bind_assoc ..

theorem run_sequence (chains : List (RouteChain κ)) (params : Params) :
    (Chain.sequence chains).run (Router.perform host) params =
      Router.runChains host chains params := by
  cases chains with
  | nil => rfl
  | cons chain chains => exact run_foldl_andThen chain chains params

theorem runChains_group (before group after : List (RouteChain κ)) (params : Params) :
    Router.runChains host (before ++ Chain.sequence group :: after) params =
      Router.runChains host (before ++ group ++ after) params := by
  simp only [runChains_append, Router.runChains, run_sequence, Task.bind_assoc]

end

/-- How steps are grouped does not matter. One after another or side by side, and down to any depth,
they make the same task, whatever each of them does. A route does what the one chain of all its
steps does on what it captured, and the same if some of them that follow each other are put together
beforehand. -/
theorem grouping_irrelevant {ι σ α ε ν κ : Type} (perform : ι → α → Task σ α) (host : Host ε ν κ) :
    (∀ (a b c : Chain ι) (value : α),
      (Chain.andThen (.andThen a b) c).run perform value =
          (Chain.andThen a (.andThen b c)).run perform value ∧
        (Chain.both (.both a b) c).run perform value =
          (Chain.both a (.both b c)).run perform value) ∧
    (∀ a b : Chain ι, a.Rebracketed b → ∀ value, a.run perform value = b.run perform value) ∧
    (∀ (location : String) (index : Nat) (route : Route κ),
      Router.fire host location index route =
        match route.template.captures location with
        | none => .done none
        | some params => do
          Hub.tell (.chainStarted index params)
          let _ ← (Chain.sequence route.chains).run (Router.perform host) params
          return some params) ∧
    ∀ (location : String) (index : Nat) (template : Template)
      (before group after : List (RouteChain κ)),
      Router.fire host location index ⟨template, before ++ Chain.sequence group :: after⟩ =
        Router.fire host location index ⟨template, before ++ group ++ after⟩ := by
  refine ⟨fun a b c value => ⟨?_, ?_⟩, fun a b h value => ?_, fun location index route => ?_, ?_⟩
  · exact Chain.run_andThen_assoc perform a b c value
  · exact Chain.run_both_assoc perform a b c value
  · exact congrFun (h.run_eq perform) value
  · simp only [run_sequence]
    rfl
  · intro location index template before group after
    simp only [Router.fire, runChains_group]

open Rehearsal in
/-- The steps end in three different turns. -/
theorem grouping_irrelevant_nested :
    (Chain.both (.both (.leaf ⟨"a", some 2⟩) (.andThen (.leaf ⟨"b", some 1⟩) (.leaf ⟨"c", none⟩)))
        (.leaf ⟨"d", some 1⟩)).run Append.perform "x" =
      (Chain.both (.leaf ⟨"a", some 2⟩)
        (.both (.andThen (.leaf ⟨"b", some 1⟩) (.leaf ⟨"c", none⟩)) (.leaf ⟨"d", some 1⟩))).run
        Append.perform "x" ∧
    Append.tryOut (.both (.leaf ⟨"a", some 2⟩)
        (.both (.andThen (.leaf ⟨"b", some 1⟩) (.leaf ⟨"c", none⟩)) (.leaf ⟨"d", some 1⟩))) ["x"] =
      (["x"], [.started "a" "x", .started "b" "x", .started "d" "x", .resumed "a" 1,
        .resumed "b" 1, .ended "b", .ran "c" "xb", .resumed "d" 1, .ended "d", .resumed "a" 2,
        .ended "a"]) :=
  ⟨(grouping_irrelevant Append.perform Rehearsal.host).2.1 _ _ (.both_assoc ..) "x", rfl⟩

end RouteBus
