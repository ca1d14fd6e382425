import RouteBus.CommandLine.Run
import RouteBus.Proofs.Config.Validation
import RouteBus.Proofs.Hub.Actions
import RouteBus.Proofs.Navigation.Switching

/-!
# What a configured route does

The chain that is built from the lists of a route is the plain script over them: it closes, opens
and fetches by name, one after another, all with the values of the route. The two are the same
task, so nobody who runs beside it and no listener that it runs can tell them apart.
-/

namespace RouteBus

variable {ε ν κ : Type} {host : Host ε ν κ} {c : Config} {r : RoutePlan} {params : Params}

-- ---------------------------------------------------------------------------
-- Chains that hand their parameters on
-- ---------------------------------------------------------------------------

/-- Whatever is done, the parameters go on behind it. -/
def HandsBack (host : Host ε ν κ) (chain : RouteChain κ) : Prop :=
  ∀ params, ∃ t : Task (Hub ε ν κ) Unit,
    chain.run (Router.perform host) params = do t; return params

theorem runChains_handsBack {chains : List (RouteChain κ)} (h : ∀ chain ∈ chains, HandsBack host chain)
    (params : Params) (k : Params → Task (Hub ε ν κ) α) :
    Router.runChains host chains params >>= k =
      Router.runChains host chains params >>= fun _ => k params := by
  induction chains with
  | nil => rfl
  | cons chain chains ih =>
    obtain ⟨first, rest⟩ := List.forall_mem_cons.mp h
    obtain ⟨t, ht⟩ := first params
    simp only [Router.runChains, ht, Task.pure_eq, Task.bind_assoc, Task.done_bind, ih rest]

/-- Each chain is run on the parameters as they came. -/
theorem runChains_split {chain : RouteChain κ}
    (h : ∀ each ∈ before ++ chain :: after, HandsBack host each) (params : Params) :
    Router.runChains host (before ++ chain :: after) params = (do
      let _ ← Router.runChains host before params
      let _ ← chain.run (Router.perform host) params
      Router.runChains host after params) := by
  obtain ⟨ahead, rest⟩ := List.forall_mem_append.mp h
  have here : ∀ each ∈ [chain], HandsBack host each :=
    List.forall_mem_singleton.mpr (List.forall_mem_cons.mp rest).1
  rw [runChains_append, runChains_handsBack ahead, Router.runChains, ← runChains_singleton,
    runChains_handsBack here]

namespace Config

def callAll (c : Config) (host : Host ε ν κ) (operation : Operation) (args : List String) :
    List String → Task (Hub ε ν κ) Unit
  | [] => .done ()
  | endpoint :: endpoints => do
    match c.endpoint? endpoint with
    | none => return ()
    | some template => Bus.call host template args operation
    c.callAll host operation args endpoints

theorem handsBack_steps {endpoints : List String} {chains : List (RouteChain κ)}
    (h : List.Forall₂ (c.IsStep operation) endpoints chains) (host : Host ε ν κ) :
    ∀ chain ∈ chains, HandsBack host chain := by
  induction h with
  | nil => simp
  | cons step _ ih =>
    obtain ⟨text, t, -, -, rfl⟩ := step
    exact List.forall_mem_cons.mpr ⟨fun params => ⟨_, rfl⟩, ih⟩

theorem runChains_steps {endpoints : List String} {chains : List (RouteChain κ)}
    (h : List.Forall₂ (c.IsStep operation) endpoints chains) (host : Host ε ν κ) (params : Params) :
    Router.runChains host chains params = do
      c.callAll host operation params.values endpoints
      return params := by
  induction h with
  | nil => rfl
  | cons step _ ih =>
    obtain ⟨text, t, found, parsed, rfl⟩ := step
    simp only [Router.runChains, Chain.run, Router.perform, Bus.action, Bus.carryOut_eq_call parsed,
      callAll, found, Task.pure_eq, Task.bind_assoc, Task.done_bind, ih]

/-- A configured route closes, then opens, then fetches, as its lists say, and at last does what is
done at the end of each route. Its parameters reach every step as they came. -/
theorem route_follows_lists (valid : c.validate = .ok ()) (hr : r ∈ c.routes) {last : κ}
    {line : Params → ν}
    (closing : ∀ params, host.perform last params = do
      Task.modify (Hub.note (line params))
      return params) :
    ∃ chains, c.routeChains last r = .ok chains ∧ ∀ params,
      (Router.runChains host chains params = do
        c.callAll host .close params.values r.closes
        c.callAll host .stream params.values r.streams
        c.callAll host .fetch params.values r.fetches
        Task.modify (Hub.note (line params))
        return params) ∧
      ∀ before chain after, chains = before ++ chain :: after →
        Router.runChains host chains params = (do
          let _ ← Router.runChains host before params
          let _ ← chain.run (Router.perform host) params
          Router.runChains host after params) := by
  obtain ⟨closes, streams, fetches, built, hc, hs, hf⟩ := routeChains_ok valid hr last
  refine ⟨_, built, fun params => ⟨?_, ?_⟩⟩
  · simp only [runChains_append, runChains_singleton, runChains_steps hc, runChains_steps hs,
      runChains_steps hf, Chain.run, Router.perform, closing, Task.pure_eq, Task.bind_assoc,
      Task.done_bind]
  · intro before chain after he
    have handed : ∀ chain ∈ closes ++ streams ++ fetches ++ [.leaf (.custom last)],
        HandsBack host chain := by
      simp only [List.forall_mem_append, List.forall_mem_singleton]
      exact ⟨⟨⟨handsBack_steps hc host, handsBack_steps hs host⟩, handsBack_steps hf host⟩,
        fun params => ⟨_, closing params⟩⟩
    rw [he] at handed ⊢
    exact runChains_split handed params

-- The routes of the command line end with a line of the log.
example (files : CommandLine.KnownFiles) (root route : String) (topics : List String)
    (params : Params) :
    (CommandLine.host files root topics).perform route params = (do
      Task.modify (Hub.note (.line (.chainFinished route params.values)))
      return params) :=
  rfl

/-- The stream of the room is refused. What was said there is asked for all the same. -/
theorem route_follows_lists_troubled :
    ∃ chains, rooms.routeChains (.finish "/room/:room")
        ⟨"/room/:room", ["stream"], ["stream"], ["said"]⟩ = .ok chains ∧
      ((Router.runChains Rehearsal.host chains ⟨["room"], ["a"]⟩).run troubled).1 =
        ⟨["room"], ["a"]⟩ ∧
      ((Router.runChains Rehearsal.host chains ⟨["room"], ["a"]⟩).run troubled).2.host.wire.requests =
        ["said/a"] := by
  have valid : rooms.validate = .ok () := by cbv
  have closing : ∀ params, Rehearsal.host.perform (.finish "/room/:room") params = (do
      Task.modify (Hub.note (.finished "/room/:room" params.values))
      return params) := fun _ => rfl
  obtain ⟨chains, built, follows⟩ := route_follows_lists valid List.mem_cons_self closing
  refine ⟨chains, built, ?_⟩
  obtain ⟨script, -⟩ := follows ⟨["room"], ["a"]⟩
  rw [script]
  constructor
  · cbv
  · cbv

end Config

end RouteBus
