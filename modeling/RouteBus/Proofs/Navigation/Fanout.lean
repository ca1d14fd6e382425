import Mathlib
import RouteBus.Proofs.Rehearsal.Lawful

/-!
# Navigations fan out

A navigation runs each route of one snapshot that matches one location, once and in order,
whatever its chains do meanwhile. A registration adds one route and runs that one alone.
-/

namespace RouteBus

open RouteBus.Task (Walks Reaches Keeps)

-- ---------------------------------------------------------------------------
-- Which routes match
-- ---------------------------------------------------------------------------

/-- The routes that match, with their places and what they capture; `first` is the place of
the first route. -/
def matching (location : String) (first : Nat) (routes : List (Route κ)) :
    List (Nat × Route κ × Params) :=
  (routes.zipIdx first).filterMap fun (route, index) =>
    (route.template.captures location).map (index, route, ·)

inductive Performed (host : Host ε ν κ) :
    List (RouteChain κ) → Params → List (Hub ε ν κ × Hub ε ν κ) → Prop
  | nil : Performed host [] params []
  | cons : Walks (chain.run (Router.perform host) params) steps (.done given) →
      Performed host chains given more → Performed host (chain :: chains) params (steps ++ more)

inductive Fires (host : Host ε ν κ) :
    List (Nat × Route κ × Params) → List (Hub ε ν κ × Hub ε ν κ) → Prop
  | nil : Fires host [] []
  | cons : Performed host route.chains params steps → Fires host others more →
      Fires host ((index, route, params) :: others)
        ((hub, hub.record (.chainStarted index params)) :: (steps ++
          (hub', hub'.record
            (.navigationMatched hub'.router.name route.template.raw params)) :: more))

/-- A location is read and after it a list of routes. Those of the list that match the location
run, and nothing else is done but to say so. -/
def FansOut (host : Host ε ν κ) (navigation : Navigation) (steps : List (Hub ε ν κ × Hub ε ν κ))
    (count : Nat) : Prop :=
  ∃ start snapshot fired ending,
    steps = (start, (Router.arrive navigation.previous start).2) :: (snapshot, snapshot) ::
      (fired ++ ending) ∧
    Fires host (matching start.router.location.current 0 snapshot.router.routes) fired ∧
    count = (matching start.router.location.current 0 snapshot.router.routes).length ∧
    if count = 0 then ∃ hub, ending = [(hub, hub.record
      (.navigationUnmatched hub.router.name start.router.location.current))]
    else ending = []

def Replays (host : Host ε ν κ) (template location : String) (chains : List (RouteChain κ))
    (index : Nat) : Option Params → List (Hub ε ν κ × Hub ε ν κ) → Prop
  | none, steps => steps = []
  | some params, steps => ∃ hub performed hub', Performed host chains params performed ∧
      steps = (hub, hub.record (.chainStarted index params)) :: (performed ++
        [(hub', hub'.record (.routeReplayed hub'.router.name template location params))])

/-- A route is added behind all others, and after that the location read on which it runs. A
template that cannot be read does nothing. -/
def Enrols (host : Host ε ν κ) (template : String) (chains : List (RouteChain κ))
    (steps : List (Hub ε ν κ × Hub ε ν κ)) : Except TemplateError Unit → Prop
  | .error e => Template.parse template = .error e ∧ steps = []
  | .ok () => ∃ t adding reading replay, Template.parse template = .ok t ∧
      steps = (adding, (Router.addRoute ⟨t, chains⟩ adding).2) :: (reading, reading) :: replay ∧
      Replays host template reading.router.location.current chains adding.router.routes.length
        (t.captures reading.router.location.current) replay

inductive Enrolling : Hub ε ν κ → Hub ε ν κ → Prop
  | apart : hub'.router.routes = hub.router.routes →
      enrolled hub'.history = enrolled hub.history → Enrolling hub hub'
  | addRoute (route : Route κ) : Enrolling hub (Router.addRoute route hub).2

variable {ε ν κ α : Type} {hub hub' : Hub ε ν κ} {host : Host ε ν κ} {location : String}
  {route : Route κ} {params : Params} {steps : List (Hub ε ν κ × Hub ε ν κ)}

theorem matching_cons_none (h : route.template.captures location = none) (first : Nat)
    (routes : List (Route κ)) :
    matching location first (route :: routes) = matching location (first + 1) routes := by
  simp [matching, h]

theorem matching_cons_some (h : route.template.captures location = some params) (first : Nat)
    (routes : List (Route κ)) : matching location first (route :: routes) =
      (first, route, params) :: matching location (first + 1) routes := by
  simp [matching, h]

theorem mem_matching {routes : List (Route κ)} : (index, route, params) ∈ matching location 0 routes ↔
    routes[index]? = some route ∧ route.template.captures location = some params := by
  simp only [matching, List.mem_filterMap, Prod.exists, List.mem_zipIdx_iff_getElem?,
    Option.map_eq_some_iff, Prod.mk.injEq]
  constructor
  · rintro ⟨_, _, hr, _, hc, rfl, rfl, rfl⟩
    exact ⟨hr, hc⟩
  · rintro ⟨hr, hc⟩
    exact ⟨route, index, hr, params, hc, rfl, rfl, rfl⟩

theorem first_le_of_mem_matching {routes : List (Route κ)}
    (h : entry ∈ matching location first routes) : first ≤ entry.1 := by
  obtain ⟨⟨route, index⟩, hm, hc⟩ := List.mem_filterMap.mp h
  obtain ⟨params, -, rfl⟩ := Option.map_eq_some_iff.mp hc
  exact List.le_snd_of_mem_zipIdx hm

/-- Each route is there at most once, in the order of registration. -/
theorem matching_ascending (location : String) (first : Nat) (routes : List (Route κ)) :
    (matching location first routes).Pairwise (·.1 < ·.1) := by
  induction routes generalizing first with
  | nil => exact .nil
  | cons route routes ih =>
    cases hc : route.template.captures location with
    | none =>
      rw [matching_cons_none hc]
      exact ih (first + 1)
    | some params =>
      rw [matching_cons_some hc]
      exact .cons (fun entry he => first_le_of_mem_matching he) (ih (first + 1))

-- ---------------------------------------------------------------------------
-- Running them
-- ---------------------------------------------------------------------------

theorem runChains_walks {chains : List (RouteChain κ)} :
    (∃ given, Walks (Router.runChains host chains params) steps (.done given)) ↔
      Performed host chains params steps := by
  constructor
  · rintro ⟨given, h⟩
    induction chains generalizing params steps with
    | nil =>
      obtain ⟨rfl, -⟩ := Task.walks_done h
      exact .nil
    | cons chain chains ih =>
      obtain ⟨mid, before, after, rfl, hc, h⟩ := Task.walks_bind h
      exact .cons hc (ih h)
  · intro h
    induction h with
    | nil => exact ⟨_, .refl⟩
    | cons hc _ ih =>
      obtain ⟨given, h⟩ := ih
      exact ⟨given, hc.bind h⟩

theorem fire_none (hc : route.template.captures location = none) (index : Nat) :
    Router.fire host location index route = .done none := by
  simp [Router.fire, hc]

theorem fire_some (hc : route.template.captures location = some params) (index : Nat) :
    Router.fire host location index route = (do
      Hub.tell (.chainStarted index params)
      let _ ← Router.runChains host route.chains params
      return some params) := by
  simp [Router.fire, hc]

theorem fire_walks (hc : route.template.captures location = some params) :
    Walks (Router.fire host location index route) steps (.done fired) ↔
      fired = some params ∧ ∃ hub more, Performed host route.chains params more ∧
        steps = (hub, hub.record (.chainStarted index params)) :: more := by
  rw [fire_some hc]
  constructor
  · intro h
    obtain ⟨hub, rest, rfl, hchains⟩ := Task.walks_modify h
    obtain ⟨given, before, after, rfl, hr, hlast⟩ := Task.walks_bind hchains
    obtain ⟨rfl, rfl⟩ := Task.walks_done hlast
    exact ⟨rfl, hub, before, runChains_walks.mp ⟨given, hr⟩, by rw [List.append_nil]⟩
  · rintro ⟨rfl, hub, more, hp, rfl⟩
    obtain ⟨given, h⟩ := runChains_walks.mpr hp
    exact .act (h.map _)

theorem fireAll_walks {routes : List (Route κ)} :
    Walks (Router.fireAll host location first routes) steps (.done count) ↔
      Fires host (matching location first routes) steps ∧
        count = (matching location first routes).length := by
  induction routes generalizing first steps count with
  | nil =>
    constructor
    · intro h
      obtain ⟨rfl, rfl⟩ := Task.walks_done h
      exact ⟨.nil, rfl⟩
    · rintro ⟨⟨⟩, rfl⟩
      exact .refl
  | cons route routes ih =>
    cases hc : route.template.captures location with
    | none =>
      rw [matching_cons_none hc, ← ih, Router.fireAll, fire_none hc, Task.done_bind]
    | some params =>
      rw [matching_cons_some hc, Router.fireAll]
      constructor
      · intro h
        obtain ⟨fired, before, after, rfl, hf, hmatched⟩ := Task.walks_bind h
        obtain ⟨rfl, hub, more, hp, rfl⟩ := (fire_walks hc).mp hf
        obtain ⟨hub', rest, rfl, hlater⟩ := Task.walks_modify hmatched
        obtain ⟨later, rest, last, rfl, hl, hlast⟩ := Task.walks_bind hlater
        obtain ⟨rfl, rfl⟩ := Task.walks_done hlast
        obtain ⟨fires, rfl⟩ := ih.mp hl
        rw [List.append_nil]
        exact ⟨.cons hp fires, rfl⟩
      · rintro ⟨⟨⟩, rfl⟩
        rename_i performed others hub hub' hp hf
        have fired : Walks (Router.fire host location first route)
            ((hub, hub.record (.chainStarted first params)) :: performed) (.done (some params)) :=
          (fire_walks hc).mpr ⟨rfl, hub, performed, hp, rfl⟩
        have rest := (ih.mpr ⟨hf, rfl⟩).map (· + 1)
        exact fired.bind (.act rest)

-- ---------------------------------------------------------------------------
-- Navigations and registrations
-- ---------------------------------------------------------------------------

theorem onNavigation_walks {navigation : Navigation} :
    Walks (Router.onNavigation host navigation) steps (.done count) ↔
      FansOut host navigation steps count := by
  constructor
  · intro h
    obtain ⟨start, rest, rfl, harrived⟩ := Task.walks_atomically h
    obtain ⟨snapshot, rest, rfl, hread⟩ := Task.walks_read harrived
    obtain ⟨fired, before, after, rfl, hf, hlast⟩ := Task.walks_bind hread
    obtain ⟨fires, rfl⟩ := fireAll_walks.mp hf
    refine ⟨start, snapshot, before, after, rfl, fires, ?_⟩
    split at hlast
    · obtain ⟨hub, rest, rfl, hend⟩ := Task.walks_modify hlast
      obtain ⟨rfl, rfl⟩ := Task.walks_done hend
      refine ⟨rfl, ?_⟩
      rw [if_pos ‹_›]
      exact ⟨hub, rfl⟩
    · obtain ⟨rfl, rfl⟩ := Task.walks_done hlast
      refine ⟨rfl, ?_⟩
      rw [if_neg ‹_›]
  · rintro ⟨start, snapshot, fired, ending, rfl, fires, rfl, hending⟩
    have h := fireAll_walks.mpr ⟨fires, rfl⟩
    refine .act (.act (h.bind ?_))
    split at hending
    · obtain ⟨hub, rfl⟩ := hending
      rw [if_pos ‹_›]
      exact .act .refl
    · subst hending
      rw [if_neg ‹_›]
      exact .refl

theorem replay_walks {template : String} {t : Template} {chains : List (RouteChain κ)}
    {result : Except TemplateError Unit} :
    Walks (do
      match ← Router.fire host location index ⟨t, chains⟩ with
      | none => return .ok ()
      | some params =>
        Task.modify fun hub =>
          hub.record (.routeReplayed hub.router.name template location params)
        return .ok ()) steps (.done result) ↔
      result = .ok () ∧ Replays host template location chains index (t.captures location) steps := by
  cases hc : t.captures location with
  | none =>
    rw [fire_none hc]
    constructor
    · intro h
      obtain ⟨rfl, rfl⟩ := Task.walks_done h
      exact ⟨rfl, rfl⟩
    · rintro ⟨rfl, rfl⟩
      exact .refl
  | some params =>
    constructor
    · intro h
      obtain ⟨fired, before, after, rfl, hf, hrecorded⟩ := Task.walks_bind h
      obtain ⟨rfl, hub, performed, hp, rfl⟩ := (fire_walks hc).mp hf
      obtain ⟨hub', rest, rfl, hend⟩ := Task.walks_modify hrecorded
      obtain ⟨rfl, rfl⟩ := Task.walks_done hend
      exact ⟨rfl, hub, performed, hub', hp, rfl⟩
    · rintro ⟨rfl, hub, performed, hub', hp, rfl⟩
      have fired : Walks (Router.fire host location index ⟨t, chains⟩) _ (.done (some params)) :=
        (fire_walks hc).mpr ⟨rfl, hub, performed, hp, rfl⟩
      exact fired.bind (.act .refl)

theorem register_walks {template : String} {chains : List (RouteChain κ)} :
    Walks (Router.register host template chains) steps (.done result) ↔
      Enrols host template chains steps result := by
  unfold Router.register Enrols
  cases hp : Template.parse template with
  | error e =>
    constructor
    · intro h
      obtain ⟨rfl, rfl⟩ := Task.walks_done h
      exact ⟨rfl, rfl⟩
    · intro h
      cases result with
      | error =>
        obtain ⟨⟨⟩, rfl⟩ := h
        exact .refl
      | ok =>
        obtain ⟨_, _, _, _, ⟨⟩, -⟩ := h
  | ok t =>
    constructor
    · intro h
      obtain ⟨adding, rest, rfl, hadded⟩ := Task.walks_atomically h
      obtain ⟨reading, replay, rfl, hread⟩ := Task.walks_read hadded
      obtain ⟨rfl, hreplay⟩ := replay_walks.mp hread
      exact ⟨t, adding, reading, replay, rfl, rfl, hreplay⟩
    · intro h
      cases result with
      | error => obtain ⟨⟨⟩, -⟩ := h
      | ok =>
        obtain ⟨_, adding, reading, replay, ⟨⟩, rfl, hreplay⟩ := h
        exact .act (.act (replay_walks.mpr ⟨rfl, hreplay⟩))

-- ---------------------------------------------------------------------------
-- How many routes there are
-- ---------------------------------------------------------------------------

theorem Unrouted.enrolling (h : Unrouted hub hub') : Enrolling hub hub' :=
  .apart (congrArg Router.routes h.router) h.enrolled

theorem Routine.enrolling (h : Routine hub hub') : Enrolling hub hub' := by
  cases h with
  | stay => exact .apart rfl rfl
  | tell event he =>
    simp only [Event.isPlain, Bool.and_eq_true, Bool.not_eq_true'] at he
    exact (unrouted_record he.1.2 hub).enrolling
  | push location =>
    unfold Router.push
    dsimp only
    split <;> exact .apart rfl rfl

theorem Service.enrolling (h : Service hub hub') : Enrolling hub hub' := by
  cases h with
  | receive =>
    unfold Router.receive
    split <;> exact .apart rfl rfl
  | closeLocation | dropNavigations => exact .apart rfl rfl
  | addRoute route => exact .addRoute route

theorem Enrolling.closed :
    Closed Enrolling fun {α} (t : Task (Hub ε ν κ) α) => t.Keeps Enrolling :=
  (Composed.keeps Routine.enrolling).closed fun h => h.unrouted.enrolling

theorem Enrolling.counted (h : Enrolling hub hub')
    (hc : hub.router.routes.map (·.template.raw) = (enrolled hub.history).reverse) :
    hub'.router.routes.map (·.template.raw) = (enrolled hub'.history).reverse := by
  cases h with
  | apart hr he => rw [hr, he, hc]
  | addRoute route =>
    have added : enrolled (Router.addRoute route hub).2.history =
        route.template.raw :: enrolled hub.history := rfl
    rw [added, List.reverse_cons, ← hc]
    simp [Router.addRoute, Hub.record]

/-- A navigation runs exactly the routes of its snapshot that match its location, each once, in
order, on what it captured, and answers how many there were. A registration runs the route that
it adds and no other. The routes of a router are those that were registered, one by one. -/
theorem navigations_fan_out (within : host.Within fun t => t.Keeps Enrolling) :
    (∀ location (routes : List (Route κ)),
      (matching location 0 routes).Pairwise (·.1 < ·.1) ∧ ∀ index route params,
        (index, route, params) ∈ matching location 0 routes ↔
          routes[index]? = some route ∧ route.template.captures location = some params) ∧
    (∀ navigation steps count,
      Walks (Router.onNavigation host navigation) steps (.done count) ↔
        FansOut host navigation steps count) ∧
    (∀ template chains steps result,
      Walks (Router.register host template chains) steps (.done result) ↔
        Enrols host template chains steps result) ∧
    ∀ (requests : List (Request κ)) name location state tasks hub,
      Reaches (requests.map (Request.task host)) (.new name location state) tasks hub →
        hub.router.routes.map (·.template.raw) = (enrolled hub.history).reverse ∧
        hub.router.routes.length = (enrolled hub.history).length := by
  refine ⟨fun location routes => ⟨matching_ascending .., fun _ _ _ => mem_matching⟩,
    fun _ _ _ => onNavigation_walks, fun _ _ _ _ => register_walks, ?_⟩
  intro requests name location state tasks hub h
  have keeps : ∀ t ∈ requests.map (Request.task host), t.Keeps Enrolling := by
    intro t ht
    obtain ⟨request, -, rfl⟩ := List.mem_map.mp ht
    have served := Enrolling.closed.served (fun h => h.unrouted.enrolling) within
    refine request.within served Service.enrolling fun template id _ => ?_
    exact served.atomically fun _ => (unrouted_register template (.mailbox id)).enrolling
  obtain ⟨-, templates⟩ := h.keeps keeps (fun _ _ => Enrolling.counted) rfl
  refine ⟨templates, ?_⟩
  simpa using congrArg List.length templates

namespace Rehearsal

def wandering : List (Request Device) :=
  [.register "home" [.leaf (.go ⟨"away", [.literal "away".toList]⟩ fun _ => [])],
    .register ":page" [.leaf (.custom (.script [.route "away" "r" []]))],
    .setLocation "home", .navigate ⟨"away", "home"⟩]

def carriedOut (host : Host Scene Note Device) (requests : List (Request Device)) (hub : Staging) :
    Staging :=
  requests.foldl (fun hub request => ((request.task host).run hub).2) hub

theorem reaches_carriedOut (host : Host Scene Note Device) (requests : List (Request Device))
    (hub : Staging) : Reaches (requests.map (Request.task host)) hub (requests.map fun _ => .done ())
      (carriedOut host requests hub) := by
  induction requests generalizing hub with
  | nil => exact .refl
  | cons request requests ih => exact (Reaches.run _ _ hub).trans (ih _).later

def wandered : Staging := carriedOut Rehearsal.host wandering (.new "bus" "home" .new)

def atHome : Staging := carriedOut Rehearsal.host (wandering.take 3) (.new "bus" "home" .new)

end Rehearsal

open Rehearsal in
/-- Both routes of the snapshot run on `home`, and the route that is added meanwhile does not. -/
theorem navigations_fan_out_wandering :
    (∃ steps, FansOut Rehearsal.host ⟨"away", "home"⟩ steps 2) ∧
      wandered.router.routes.map (·.template.raw) = ["home", ":page", "away", "away"] ∧
      wandered.router.routes.length = 4 := by
  have within : Rehearsal.host.Within fun t => t.Keeps Enrolling :=
    hostOfDepth_within Enrolling.closed (fun h => h.unrouted.enrolling) Service.enrolling
      (fun _ _ => .apart rfl rfl) (fun _ _ => .apart rfl rfl) scriptLimit
  obtain ⟨-, navigates, -, counts⟩ := navigations_fan_out within
  obtain ⟨templates, length⟩ := counts wandering "bus" "home" .new _ wandered (reaches_carriedOut ..)
  have history : enrolled wandered.history = ["away", "away", ":page", "home"] := by cbv
  rw [history] at templates length
  have ran : ((Router.onNavigation Rehearsal.host ⟨"away", "home"⟩).run atHome).1 = 2 := by cbv
  obtain ⟨steps, h⟩ := Task.walks_run (Router.onNavigation Rehearsal.host ⟨"away", "home"⟩) atHome
  rw [ran] at h
  exact ⟨⟨steps, (navigates _ _ _).mp h⟩, templates, length⟩

end RouteBus
