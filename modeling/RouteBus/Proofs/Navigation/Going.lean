import RouteBus.Proofs.Navigation.Arrivals
import RouteBus.Proofs.Template.Extraction

/-!
# Going to a route

Going to a template with arguments that its markers admit leads to a location that the template
matches, and matches with these arguments. There the router stays until a location is pushed, so
each navigation that begins before finds every route of the template on them.
-/

namespace RouteBus

open RouteBus.Task (Runs Trace Walks)

namespace Template

/-- Arguments that lead to a location: the markers admit them, no two wildcards share what is
between them, and the location is written without a leading `#`. -/
structure Leads (t : Template) (args : List String) : Prop where
  accepts : t.Accepts args
  single : Token.wildcardCount t.tokens ≤ 1
  unmarked : (t.resolve args).uri.toList.head? ≠ some '#'

variable {t : Template} {text : String} {args : List String}

theorem Accepts.extract (parsed : parse text = .ok t) (accepts : t.Accepts args)
    (single : Token.wildcardCount t.tokens ≤ 1) :
    t.extract (t.resolve args).uri = some (args.take t.markerCount) := by
  refine (extract_eq_some_iff parsed).mpr ⟨accepts.factors, fun others fits => .inl ?_⟩
  apply map_toList_inj
  exact (placed_of_parse parsed).factors_unique single fits accepts.factors

theorem Leads.captures (parsed : parse text = .ok t) (leads : t.Leads args) :
    t.captures (t.resolve args).uri = some ⟨t.names, args.take t.markerCount⟩ := by
  simp [Template.captures, leads.accepts.extract parsed leads.single]

theorem Leads.test (parsed : parse text = .ok t) (leads : t.Leads args) :
    t.test (t.resolve args).uri = true := by
  simp [Template.test, leads.accepts.extract parsed leads.single]

end Template

theorem stripMarker_eq {text : String} (unmarked : text.toList.head? ≠ some '#') :
    stripMarker text = text := by
  unfold stripMarker
  split
  · rename_i h
    simp [h] at unmarked
  · rfl

-- ---------------------------------------------------------------------------
-- One push
-- ---------------------------------------------------------------------------

/-- The router has moved. One navigation is queued for it if anybody can receive one, no chain has
been started, and all else is as it was. -/
structure Arrived (location : String) (hub hub' : Hub ε ν κ) : Prop where
  current : hub'.router.location.current = location
  queue : hub'.router.location.queue =
    if hub.router.location.closed = false ∧ hub.router.location.received = true then
      hub.router.location.queue ++ [⟨hub.router.location.current, location⟩]
    else hub.router.location.queue
  closed : hub'.router.location.closed = hub.router.location.closed
  received : hub'.router.location.received = hub.router.location.received
  routes : hub'.router.routes = hub.router.routes
  bus : hub'.bus = hub.bus
  host : hub'.host = hub.host
  told : ∃ entries, hub'.history = entries ++ hub.history ∧
    ∀ index params, .event (.chainStarted index params) ∉ entries

variable {ε ν κ α : Type} {hub hub' now : Hub ε ν κ} {host : Host ε ν κ}
  {rely : Hub ε ν κ → Hub ε ν κ → Prop} {t : Template} {text : String} {args : List String}

theorem arrived_push {location : String} (unmarked : location.toList.head? ≠ some '#')
    (hub : Hub ε ν κ) : Arrived location hub (Router.push location hub) := by
  have silent : ∃ entries, (Router.push location hub).history = entries ++ hub.history ∧
      ∀ index params, .event (.chainStarted index params) ∉ entries := by
    unfold Router.push
    dsimp only
    split
    · exact ⟨[_], rfl, by simp⟩
    · exact ⟨[_, _], rfl, by simp⟩
  have moved := push_location location hub
  rw [Location.push, stripMarker_eq unmarked] at moved
  constructor
  · rw [moved]
  · rw [moved]
    simp [Location.notifies]
  · rw [moved]
  · rw [moved]
  · exact push_routes location hub
  · unfold Router.push
    dsimp only
    split <;> rfl
  · unfold Router.push
    dsimp only
    split <;> rfl
  · exact silent

theorem go_eq (parsed : Template.parse text = .ok t) :
    (Router.go text args : Task (Hub ε ν κ) _) =
      (do Task.modify (Router.push (t.resolve args).uri); return .ok (t.resolve args).uri) := by
  simp [Router.go, resolve, parsed]

/-- Going somewhere is one push, whatever others do. -/
theorem runs_go (parsed : Template.parse text = .ok t) :
    Runs rely (Router.go text args) hub result hub' ↔
      result = .ok (t.resolve args).uri ∧ hub' = Router.push (t.resolve args).uri hub := by
  rw [go_eq parsed, Task.runs_modify_bind]
  exact Task.runs_done

/-- The step of a request to go somewhere. -/
theorem keeps_go (parsed : Template.parse text = .ok t) :
    (Request.task host (.go text args)).Keeps
      fun hub hub' => hub' = Router.push (t.resolve args).uri hub := by
  refine Task.keeps_map _ ?_
  rw [go_eq parsed]
  exact fun _ => ⟨rfl, trivial⟩

-- ---------------------------------------------------------------------------
-- Until the next push
-- ---------------------------------------------------------------------------

theorem Service.roves (h : Service hub hub') : Roves hub hub' := by
  cases h with
  | receive => exact Travels.receive.roves
  | closeLocation | dropNavigations => exact .stay rfl List.prefix_rfl
  | addRoute route => exact .stay rfl (List.prefix_append ..)

theorem Unrouted.roves (h : Unrouted hub hub') : Roves hub hub' := (Travels.roams h.roams).roves

theorem Roves.closed : Closed Roves fun {α} (t : Task (Hub ε ν κ) α) => t.Keeps Roves :=
  (Composed.keeps fun h => (Travels.roams (Routine.roams h)).roves).closed fun h => h.unrouted.roves

/-- Whatever is asked of bus and router, the router moves by pushes alone and forgets no route. -/
theorem Request.roves (within : host.Within fun t => t.Keeps Roves) (request : Request κ) :
    (request.task host).Keeps Roves := by
  have served := Roves.closed.served (fun h => h.unrouted.roves) within
  refine request.within served Service.roves fun template id _ => ?_
  exact served.atomically fun _ => (unrouted_register template (.mailbox id)).roves

section
variable {tasks tasks' : List (Task (Hub ε ν κ) Unit)}
  {trace : List (Nat × Hub ε ν κ × Hub ε ν κ)}

theorem roves_of_trace (within : host.Within fun t => t.Keeps Roves)
    {requests : List (Request κ)}
    (h : Trace (requests.map (Request.task host)) hub trace tasks' now) :
    ∀ step ∈ trace, Roves step.2.1 step.2.2 := by
  refine h.keeps (R := fun _ => Roves) fun i task hi => ?_
  obtain ⟨request, -, rfl⟩ := List.mem_map.mp (List.mem_of_getElem? hi)
  exact request.roves within

/-- What a request to go somewhere does is its push. -/
theorem pushed_of_trace (parsed : Template.parse text = .ok t) {requests : List (Request κ)}
    (asked : requests[i]? = some (.go text args))
    (h : Trace (requests.map (Request.task host)) first trace tasks' now)
    (hm : (i, hub, hub') ∈ trace) : hub' = Router.push (t.resolve args).uri hub := by
  have going : (requests.map (Request.task host))[i]? =
      some (Request.task host (.go text args)) := by
    simp [asked]
  obtain ⟨_, -, walks⟩ := h.walks going
  refine walks.keeps (keeps_go parsed) (hub, hub') ?_
  exact List.mem_filterMap.mpr ⟨(i, hub, hub'), hm, if_pos rfl⟩

end

/-- The routes that a navigation reads are these and those added since. Those that match the
location run, each once and in order, and a route of the template does on just these values. -/
def Visits (host : Host ε ν κ) (location : String) (t : Template) (params : Params)
    (known : List (Route κ)) (steps : List (Hub ε ν κ × Hub ε ν κ)) : Prop :=
  ∃ start snapshot fired ending, steps = start :: (snapshot, snapshot) :: (fired ++ ending) ∧
    known <+: snapshot.router.routes ∧
    Fires host (matching location 0 snapshot.router.routes) fired ∧
    ∀ index route, snapshot.router.routes[index]? = some route → route.template = t →
      RunsOn host route index params fired ∧
      ∀ other, (index, route, other) ∈ matching location 0 snapshot.router.routes ↔ other = params

theorem visits_of_walks {location : String} {params : Params} {known : List (Route κ)}
    (captured : t.captures location = some params)
    (here : now.router.location.current = location)
    (h : Walks (Router.onNavigation host navigation) ((now, begun) :: steps) (.done count))
    (grown : ∀ step ∈ steps, known <+: step.1.router.routes) :
    Visits host location t params known ((now, begun) :: steps) := by
  obtain ⟨start, snapshot, fired, ending, hs, fires, -⟩ := onNavigation_walks.mp h
  obtain ⟨first, rfl⟩ := List.cons.inj hs
  obtain ⟨rfl, rfl⟩ := Prod.mk.inj first
  rw [here] at fires
  refine ⟨_, snapshot, fired, ending, rfl, grown _ List.mem_cons_self, fires, ?_⟩
  rintro index route found rfl
  -- The place of a route is its own, so what it captures there is the one entry for it.
  have once : ∀ other, (index, route, other) ∈ matching location 0 snapshot.router.routes ↔
      other = params := by
    intro other
    rw [mem_matching, captured, Option.some.injEq]
    exact ⟨fun h => h.2.symm, fun h => ⟨found, h.symm⟩⟩
  exact ⟨fires.runsOn ((once params).mpr rfl), once⟩

/-- From any state a requested navigation can be carried out at once, and its steps are made
there. -/
theorem exists_navigation {tasks : List (Task (Hub ε ν κ) Unit)} {j : Nat}
    (asked : tasks[j]? = some (Request.task host (.navigate navigation))) (now : Hub ε ν κ) :
    ∃ begun steps count later tasks' last,
      Walks (Router.onNavigation host navigation) ((now, begun) :: steps) (.done count) ∧
      Trace tasks now later tasks' last ∧ steps ⊆ later.map Prod.snd := by
  obtain ⟨made, h⟩ := Task.trace_run asked now
  obtain ⟨_, ended, whole⟩ := h.walks asked
  obtain rfl := Option.some.inj ((Task.getElem?_set asked).symm.trans ended)
  obtain ⟨count, -, walks⟩ := Task.walks_map whole
  obtain ⟨_, _, _, _, nonempty, -⟩ := onNavigation_walks.mp walks
  cases made with
  | nil => cases nonempty
  | cons step made =>
    obtain ⟨start, begun⟩ := step
    obtain ⟨rfl, -⟩ := h.of_cons
    rw [List.map_cons, Task.own_cons_self] at walks
    refine ⟨begun, _, count, _, _, _, walks, h, fun step hs => ?_⟩
    exact List.mem_map.mpr ⟨(j, step), List.mem_cons_of_mem _ (Task.mem_of_mem_own hs), rfl⟩

/-- Going to a template moves the router there and runs nothing. Until another location is pushed
the template is current with the arguments that were used, and each navigation begun meanwhile
runs every route of the template that it finds on them. -/
theorem go_arrives (within : host.Within fun t => t.Keeps Roves)
    (parsed : Template.parse text = .ok t) (leads : t.Leads args) :
    (∀ rely (hub : Hub ε ν κ) result hub', Runs rely (Router.go text args) hub result hub' ↔
      result = .ok (t.resolve args).uri ∧ hub' = Router.push (t.resolve args).uri hub) ∧
    (∀ hub : Hub ε ν κ, Arrived (t.resolve args).uri hub (Router.push (t.resolve args).uri hub)) ∧
    ∀ (requests : List (Request κ)) first earlier i hub hub' quiet tasks now,
      requests[i]? = some (.go text args) →
      Trace (requests.map (Request.task host)) first (earlier ++ (i, hub, hub') :: quiet)
        tasks now →
      (∀ step ∈ quiet, ¬ Pushes step.2.1 step.2.2) →
        Arrived (t.resolve args).uri hub hub' ∧
        now.router.location.current = (t.resolve args).uri ∧
        now.router.isCurrent text = .ok true ∧
        now.router.currentParams text = .ok (some ⟨t.names, args.take t.markerCount⟩) ∧
        ∀ navigation begun steps count later tasks' last,
          Walks (Router.onNavigation host navigation) ((now, begun) :: steps) (.done count) →
          Trace tasks now later tasks' last → steps ⊆ later.map Prod.snd →
            Visits host (t.resolve args).uri t ⟨t.names, args.take t.markerCount⟩
              now.router.routes ((now, begun) :: steps) := by
  refine ⟨fun _ _ _ _ => runs_go parsed, fun hub => arrived_push leads.unmarked hub, ?_⟩
  intro requests first earlier i hub hub' quiet tasks now asked h none
  have roves := roves_of_trace within h
  have made : (i, hub, hub') ∈ earlier ++ (i, hub, hub') :: quiet := by simp
  obtain rfl := pushed_of_trace parsed asked h made
  have arrived := arrived_push leads.unmarked hub
  -- Behind the push nobody pushes, so the router is still where the push has led.
  obtain ⟨mid, behind⟩ := h.behind (List.suffix_append ..)
  have here : now.router.location.current = (t.resolve args).uri := by
    rw [← arrived.current]
    exact (current_until behind (fun step hs => roves step (by simp [hs])) none).2
  refine ⟨arrived, here, ?_, ?_, ?_⟩
  · simp [Router.isCurrent, parsed, here, leads.test parsed]
  · simp [Router.currentParams, parsed, here, leads.captures parsed]
  · intro navigation begun steps count later tasks' last walks onwards its
    refine visits_of_walks (leads.captures parsed) here walks fun step hs => ?_
    have roved := roves_of_trace within (h.trans onwards)
    obtain ⟨⟨j, _⟩, hm, rfl⟩ := List.mem_map.mp (its hs)
    exact routes_since onwards (fun step hs => roved step (by simp [hs])) _ hm

namespace Rehearsal

theorem Scenic.roves {hub hub' : Staging} (h : Scenic hub hub') : Roves hub hub' :=
  (Travels.roams h.roams).roves

def profile : Template := ⟨"p/:x", [.literal ['p', '/'], .named ['x']]⟩

def showing : Route Device := ⟨profile, [.leaf (.custom (.log "shown"))]⟩

def visiting : List (Request Device) :=
  [.register "p/:x" showing.chains, .go "p/:x" ["7", "spare"], .navigate ⟨"home", "p/7"⟩]

def enlisted : Staging := carriedOut (hostOfDepth 0) (visiting.take 1) (.new "bus" "home" .new)

end Rehearsal

open Rehearsal in
theorem go_arrives_visiting :
    ∃ now steps, now = Router.push "p/7" enlisted ∧
      Arrived "p/7" enlisted now ∧ now.router.isCurrent "p/:x" = .ok true ∧
      now.router.currentParams "p/:x" = .ok (some ⟨["x"], ["7"]⟩) ∧
      RunsOn (hostOfDepth 0) showing 0 ⟨["x"], ["7"]⟩ steps := by
  have within : (hostOfDepth 0).Within fun t => t.Keeps Roves :=
    hostWith_within Roves.closed Scenic.roves (fun _ _ => .stay rfl List.prefix_rfl)
      fun _ _ => within_note Roves.closed Scenic.roves _
  have parsed : Template.parse "p/:x" = .ok profile := by cbv
  have leads : profile.Leads ["7", "spare"] := ⟨⟨by decide, by decide⟩, by decide, by decide⟩
  have uri : (profile.resolve ["7", "spare"]).uri = "p/7" := by decide
  have going : Request.task (hostOfDepth 0) (.go "p/:x" ["7", "spare"]) =
      .act (Router.push "p/7") fun _ => .done () := by
    rw [Request.task, go_eq parsed, uri]
    rfl
  obtain ⟨-, -, arrives⟩ := go_arrives within parsed leads
  rw [uri] at arrives
  have first : (visiting.map (Request.task (hostOfDepth 0)))[0]? =
      some (Request.task (hostOfDepth 0) (.register "p/:x" showing.chains)) := rfl
  obtain ⟨registered, registers⟩ := Task.trace_run first (.new "bus" "home" .new)
  have second : ((visiting.map (Request.task (hostOfDepth 0))).set 0 (.done ()))[1]? =
      some (.act (Router.push "p/7") fun _ => .done ()) := congrArg some going
  have h := registers.trans (.act second .refl)
  obtain ⟨arrived, -, current, params, visits⟩ :=
    arrives visiting _ _ 1 enlisted _ [] _ _ rfl h (by simp)
  let navigating := Request.task (hostOfDepth 0) (.navigate ⟨"home", "p/7"⟩)
  have third : [.done (), .done (), navigating][2]? = some navigating := rfl
  obtain ⟨begun, steps, count, later, _, _, walks, navigates, its⟩ :=
    exists_navigation third (Router.push "p/7" enlisted)
  obtain ⟨_, snapshot, fired, _, -, ⟨added, known⟩, -, found⟩ :=
    visits _ begun steps count later _ _ walks navigates its
  have listed : (Router.push "p/7" enlisted).router.routes[0]? = some showing := by
    rw [push_routes]
    cbv
  have read : snapshot.router.routes[0]? = some showing := by
    obtain ⟨hl, -⟩ := List.getElem?_eq_some_iff.mp listed
    rw [← known]
    exact (List.getElem?_append_left hl).trans listed
  obtain ⟨ran, -⟩ := found 0 showing read rfl
  exact ⟨_, fired, rfl, arrived, current, params, ran⟩

end RouteBus
