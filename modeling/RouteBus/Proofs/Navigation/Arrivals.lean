import RouteBus.Proofs.Navigation.Fanout
import RouteBus.Proofs.Task.Traces

/-!
# No navigation is missed

A registration adds its route before it reads the location, and a navigation reads the location
before it reads the routes. So whatever the last change of the location, one of the two sees the
route together with the location it led to.
-/

namespace RouteBus

open RouteBus.Task (Walks Trace Keeps own)

-- ---------------------------------------------------------------------------
-- Steps around the location
-- ---------------------------------------------------------------------------

def Pushes (hub hub' : Hub ε ν κ) : Prop := ∃ text, hub' = Router.push text hub

/-- A step leaves the router alone, changes the location or adds a route. -/
inductive Roams : Hub ε ν κ → Hub ε ν κ → Prop
  | still : hub'.router = hub.router → Roams hub hub'
  | push : Pushes hub hub' → Roams hub hub'
  | addRoute (route : Route κ) : Roams hub (Router.addRoute route hub).2

inductive Travels : Hub ε ν κ → Hub ε ν κ → Prop
  | roams : Roams hub hub' → Travels hub hub'
  | receive : Travels hub (Router.receive hub).2

/-- A step pushes a location, or leaves the router where it is and takes no route away. -/
inductive Roves : Hub ε ν κ → Hub ε ν κ → Prop
  | push : Pushes hub hub' → Roves hub hub'
  | stay : hub'.router.location.current = hub.router.location.current →
      hub.router.routes <+: hub'.router.routes → Roves hub hub'

variable {ε ν κ α : Type} {hub hub' : Hub ε ν κ} {host : Host ε ν κ} {location : String}
  {route : Route κ} {params : Params} {steps : List (Hub ε ν κ × Hub ε ν κ)}

@[simp] theorem push_location (text : String) (hub : Hub ε ν κ) :
    (Router.push text hub).router.location = hub.router.location.push text := by
  unfold Router.push
  dsimp only
  split <;> rfl

@[simp] theorem push_routes (text : String) (hub : Hub ε ν κ) :
    (Router.push text hub).router.routes = hub.router.routes := by
  unfold Router.push
  dsimp only
  split <;> rfl

theorem receive_eq (hub : Hub ε ν κ) :
    (Router.receive hub).2 = hub.withLocation { hub.router.location with
      queue := hub.router.location.queue.tail } := by
  unfold Router.receive Location.next?
  split
  · rename_i h
    split at h
    · cases h
    · obtain ⟨rfl, rfl⟩ := Prod.mk.inj (Option.some.inj h)
      rename_i hq
      rw [hq]
      rfl
  · rename_i h
    split at h
    · rename_i hq
      rw [hq, List.tail_nil, ← hq]
      rfl
    · cases h

theorem Roams.queue_ne_nil (h : Roams hub hub') (hq : hub.router.location.queue ≠ []) :
    hub'.router.location.queue ≠ [] := by
  cases h with
  | still hr => rwa [hr]
  | push hp =>
    obtain ⟨text, rfl⟩ := hp
    rw [push_location, Location.push]
    dsimp only
    split <;> simp [hq]
  | addRoute => exact hq

theorem Travels.notifies (h : Travels hub hub') :
    hub'.router.location.notifies = hub.router.location.notifies := by
  cases h with
  | roams h =>
    cases h with
    | still hr => rw [hr]
    | push hp =>
      obtain ⟨text, rfl⟩ := hp
      rw [push_location]
      rfl
    | addRoute => rfl
  | receive =>
    rw [receive_eq]
    rfl

theorem Travels.routes (h : Travels hub hub') : hub.router.routes <+: hub'.router.routes := by
  cases h with
  | roams h =>
    cases h with
    | still hr => exact hr ▸ List.prefix_rfl
    | push hp =>
      obtain ⟨text, rfl⟩ := hp
      exact (push_routes text hub).symm ▸ List.prefix_rfl
    | addRoute route => exact List.prefix_append ..
  | receive =>
    rw [receive_eq]
    exact List.prefix_rfl

/-- Nothing but a push changes where the router is. -/
theorem Travels.current (h : Travels hub hub') (hp : ¬ Pushes hub hub') :
    hub'.router.location.current = hub.router.location.current := by
  cases h with
  | roams h =>
    cases h with
    | still hr => rw [hr]
    | push h => exact absurd h hp
    | addRoute => rfl
  | receive =>
    rw [receive_eq]
    rfl

theorem Travels.roves (h : Travels hub hub') : Roves hub hub' := by
  by_cases pushes : Pushes hub hub'
  · exact .push pushes
  · exact .stay (h.current pushes) h.routes

theorem Roves.routes (h : Roves hub hub') : hub.router.routes <+: hub'.router.routes := by
  cases h with
  | push h =>
    obtain ⟨location, rfl⟩ := h
    exact (push_routes location hub).symm ▸ List.prefix_rfl
  | stay _ routes => exact routes

theorem Roves.current (h : Roves hub hub') (none : ¬ Pushes hub hub') :
    hub'.router.location.current = hub.router.location.current := by
  cases h with
  | push pushes => exact absurd pushes none
  | stay current => exact current

theorem Pushes.queue_ne_nil (h : Pushes hub hub') (hn : hub.router.location.notifies = true) :
    hub'.router.location.queue ≠ [] := by
  obtain ⟨text, rfl⟩ := h
  simp [Location.push, hn]

theorem Unrouted.roams (h : Unrouted hub hub') : Roams hub hub' := .still h.router

theorem Routine.roams (h : Routine hub hub') : Roams hub hub' := by
  cases h with
  | stay | tell => exact .still rfl
  | push location => exact .push ⟨location, rfl⟩

theorem Roams.closed : Closed Roams fun {α} (t : Task (Hub ε ν κ) α) => t.Keeps Roams :=
  (Composed.keeps Routine.roams).closed fun h => h.unrouted.roams

theorem Roams.served (within : host.Within fun t => t.Keeps Roams) :
    Served Roams (fun {α} (t : Task (Hub ε ν κ) α) => t.Keeps Roams) host :=
  Roams.closed.served (fun h => h.unrouted.roams) within

theorem listen_travels (within : host.Within fun t => t.Keeps Roams) (rounds : Nat) :
    (Router.listen host rounds).Keeps Travels := by
  have closed : Closed Travels fun {α} (t : Task (Hub ε ν κ) α) => t.Keeps Travels :=
    (Composed.keeps fun h => .roams (Routine.roams h)).closed fun h => .roams h.unrouted.roams
  refine closed.listen (fun _ => .receive) ?_ rounds
  exact fun navigation => ((Roams.served within).onNavigation navigation).mono fun _ _ => .roams

-- ---------------------------------------------------------------------------
-- The listen loop
-- ---------------------------------------------------------------------------

def Empties (hub hub' : Hub ε ν κ) : Prop :=
  hub.router.location.queue ≠ [] ∧ hub'.router.location.queue = []

theorem Empties.not_roams (h : Empties hub hub') : ¬ Roams hub hub' :=
  fun hr => hr.queue_ne_nil h.1 h.2

theorem empties_receive (h : Empties hub (Router.receive hub).2) :
    ∃ navigation, (Router.receive hub).1 = .navigation navigation := by
  unfold Router.receive at h ⊢
  split at h
  · exact ⟨_, rfl⟩
  · exact absurd h.2 h.1

/-- Behind a step that takes the last navigation from the queue the loop handles it. -/
theorem listen_walks (within : host.Within fun t => t.Keeps Roams)
    (h : Walks (Router.listen host rounds) (before ++ (hub, hub') :: after) (.done ()))
    (he : Empties hub hub') :
    ∃ navigation count during later, after = during ++ later ∧
      Walks (Router.onNavigation host navigation) during (.done count) := by
  induction rounds generalizing before with
  | zero =>
    obtain ⟨hs, -⟩ := Task.walks_done h
    simp at hs
  | succ rounds ih =>
    obtain ⟨asked, rest, hs, h⟩ := Task.walks_atomically h
    rcases before with _ | ⟨step, before⟩
    · obtain ⟨⟨rfl, rfl⟩, rfl⟩ := List.cons_eq_cons.mp hs
      obtain ⟨navigation, hr⟩ := empties_receive he
      rw [hr] at h
      obtain ⟨count, during, later, rfl, hn, -⟩ := Task.walks_bind h
      exact ⟨navigation, count, during, later, rfl, hn⟩
    · obtain ⟨-, hs⟩ := List.cons_eq_cons.mp hs
      change before ++ _ = rest at hs
      subst hs
      cases hr : (Router.receive asked).1 with
      | navigation navigation =>
        rw [hr] at h
        have roams := (Roams.served within).onNavigation navigation
        obtain ⟨_, before, h⟩ := h.beyond roams he.not_roams
        exact ih h
      | nothing =>
        rw [hr] at h
        exact ih (Task.walks_yield h)
      | ended =>
        rw [hr] at h
        have last : (Task.modify fun hub : Hub ε ν κ =>
            hub.record (.navigationsEnded hub.router.name)).Keeps Roams :=
          fun _ => ⟨.still rfl, trivial⟩
        exact absurd (h.keeps last (hub, hub') (by simp)) he.not_roams

-- ---------------------------------------------------------------------------
-- What a trace tells of the location
-- ---------------------------------------------------------------------------

/-- The whole of the route is run on the parameters. -/
def RunsOn (host : Host ε ν κ) (route : Route κ) (index : Nat) (params : Params)
    (steps : List (Hub ε ν κ × Hub ε ν κ)) : Prop :=
  ∃ start performed, Performed host route.chains params performed ∧
    (start, start.record (.chainStarted index params)) :: performed <:+: steps

theorem RunsOn.mono (h : RunsOn host route index params steps) (hs : steps <:+: steps') :
    RunsOn host route index params steps' := by
  obtain ⟨start, performed, hp, hi⟩ := h
  exact ⟨start, performed, hp, hi.trans hs⟩

theorem Fires.runsOn (h : Fires host entries steps) (he : (index, route, params) ∈ entries) :
    RunsOn host route index params steps := by
  induction h with
  | nil => cases he
  | cons hp _ ih =>
    rcases List.mem_cons.mp he with he | he
    · obtain ⟨rfl, rfl, rfl⟩ := he
      exact ⟨_, _, hp, (List.prefix_append ..).isInfix⟩
    · refine (ih he).mono (List.infix_cons ?_)
      exact (List.infix_cons List.infix_rfl).trans (List.suffix_append ..).isInfix

theorem last_push (trace : List (Nat × Hub ε ν κ × Hub ε ν κ)) :
    (∀ step ∈ trace, ¬ Pushes step.2.1 step.2.2) ∨
      ∃ before k hub hub' after, trace = before ++ (k, hub, hub') :: after ∧ Pushes hub hub' ∧
        ∀ step ∈ after, ¬ Pushes step.2.1 step.2.2 := by
  induction trace with
  | nil => exact .inl (by simp)
  | cons step trace ih =>
    rcases ih with none | ⟨before, k, hub, hub', after, rfl, hp, none⟩
    · by_cases hp : Pushes step.2.1 step.2.2
      · exact .inr ⟨[], _, _, _, trace, rfl, hp, none⟩
      · exact .inl (List.forall_mem_cons.mpr ⟨hp, none⟩)
    · exact .inr ⟨step :: before, k, hub, hub', after, rfl, hp, none⟩

section
variable {tasks tasks' : List (Task (Hub ε ν κ) Unit)}
  {older newer trace : List (Nat × Hub ε ν κ × Hub ε ν κ)} {i j rounds : Nat}

/-- Where nothing is pushed, the router stays where it was. -/
theorem current_until (h : Trace tasks hub trace tasks' hub')
    (roves : ∀ step ∈ trace, Roves step.2.1 step.2.2)
    (none : ∀ step ∈ trace, ¬ Pushes step.2.1 step.2.2) :
    (∀ step ∈ trace, step.2.1.router.location.current = hub.router.location.current) ∧
      hub'.router.location.current = hub.router.location.current :=
  h.carries (P := fun m => m.router.location.current = hub.router.location.current)
    (fun step hs he => ((roves step hs).current (none step hs)).trans he) rfl

theorem routes_since (h : Trace tasks hub trace tasks' hub')
    (roves : ∀ step ∈ trace, Roves step.2.1 step.2.2) :
    ∀ step ∈ trace, hub.router.routes <+: step.2.1.router.routes :=
  (h.carries (P := fun m => hub.router.routes <+: m.router.routes)
    (fun step hs hr => hr.trans (roves step hs).routes) List.prefix_rfl).1

/-- Behind the last push the router is where it ends up. -/
theorem current_behind (h : Trace tasks hub trace tasks' hub')
    (travels : ∀ step ∈ trace, Travels step.2.1 step.2.2)
    (none : ∀ step ∈ trace, ¬ Pushes step.2.1 step.2.2) :
    (∀ step ∈ trace, step.2.1.router.location.current = hub'.router.location.current) ∧
      hub.router.location.current = hub'.router.location.current := by
  obtain ⟨same, last⟩ := current_until h (fun step hs => (travels step hs).roves) none
  exact ⟨fun step hs => (same step hs).trans last.symm, last.symm⟩

theorem routes_stay (h : Trace tasks hub trace tasks' hub')
    (travels : ∀ step ∈ trace, Travels step.2.1 step.2.2) :
    ∀ step ∈ trace, hub.router.routes <+: step.2.1.router.routes :=
  routes_since h fun step hs => (travels step hs).roves

theorem exists_empties (h : Trace tasks hub trace tasks' hub')
    (hq : hub.router.location.queue ≠ []) (empty : hub'.router.location.queue = []) :
    ∃ step ∈ trace, Empties step.2.1 step.2.2 := by
  refine Classical.byContradiction fun none => ?_
  have full := h.carries (P := fun m => m.router.location.queue ≠ [])
    (fun step hs hq he => none ⟨step, hs, hq, he⟩) hq
  exact full.2 empty

section
variable (within : host.Within fun t => t.Keeps Roams) (h : Trace tasks hub trace tasks' hub')
  (listening : tasks[j]? = some (Router.listen host rounds))
include within h listening

/-- Only the loop takes navigations from the queue. -/
theorem trace_travels (others : ∀ k task, tasks[k]? = some task → k = j ∨ task.Keeps Roams) :
    ∀ step ∈ trace, Travels step.2.1 step.2.2 ∧ (step.1 ≠ j → Roams step.2.1 step.2.2) :=
  h.keeps_but listening (listen_travels within rounds) (fun _ _ => .roams) others

variable (listened : tasks'[j]? = some (.done ()))
include listened

/-- Behind a step that empties the queue the loop runs the routes that it then finds on the
location where the router ends up. -/
theorem navigation_handled (suffix : newer <:+ trace)
    (travels : ∀ step ∈ newer, Travels step.2.1 step.2.2)
    (none : ∀ step ∈ newer, ¬ Pushes step.2.1 step.2.2)
    (hm : (j, full, taken) ∈ newer) (he : Empties full taken) :
    ∃ snapshot fired, (j, snapshot, snapshot) ∈ newer ∧
      Fires host (matching hub'.router.location.current 0 snapshot.router.routes) fired ∧
      fired <:+: own j newer := by
  obtain ⟨older, rfl⟩ := suffix
  obtain ⟨before, behind, rfl⟩ := List.append_of_mem hm
  obtain ⟨_, hd, hw⟩ := h.walks listening
  obtain rfl := Option.some.inj (hd.symm.trans listened)
  rw [Task.own_append, Task.own_append, Task.own_cons_self, ← List.append_assoc] at hw
  obtain ⟨navigation, count, during, later, howned, hn⟩ := listen_walks within hw he
  obtain ⟨start, snapshot, fired, ending, rfl, fires, -⟩ := onNavigation_walks.mp hn
  generalize (Router.arrive navigation.previous start).2 = begun at howned
  have begins : (j, start, begun) ∈ behind := Task.mem_of_mem_own (by simp [howned])
  have reads : (j, snapshot, snapshot) ∈ behind := Task.mem_of_mem_own (by simp [howned])
  obtain ⟨mid, m, -, hnewer⟩ := h.split
  have here : start.router.location.current = hub'.router.location.current :=
    (current_behind hnewer travels none).1 (j, start, begun) (by simp [begins])
  rw [here] at fires
  refine ⟨snapshot, fired, by simp [reads], fires, ?_⟩
  rw [Task.own_append, Task.own_cons_self, howned]
  exact ⟨own j before ++ [(full, taken), (start, begun), (snapshot, snapshot)], ending ++ later,
    by simp⟩

/-- Behind the last push the loop runs the routes that it finds on the location pushed. -/
theorem push_handled (notifies : hub.router.location.notifies = true)
    (kept : ∀ step ∈ trace, Travels step.2.1 step.2.2 ∧ (step.1 ≠ j → Roams step.2.1 step.2.2))
    (empty : hub'.router.location.queue = []) (pushed : (k, p, q) :: newer <:+ trace)
    (hp : Pushes p q) (none : ∀ step ∈ newer, ¬ Pushes step.2.1 step.2.2) :
    ∃ snapshot fired, (j, snapshot, snapshot) ∈ newer ∧
      Fires host (matching hub'.router.location.current 0 snapshot.router.routes) fired ∧
      fired <:+: own j newer := by
  have notified := (h.carries (P := fun m => m.router.location.notifies = true)
    (fun step hs hn => (kept step hs).1.notifies.trans hn) notifies).1 _
      (pushed.mem List.mem_cons_self)
  obtain ⟨_, hnewer⟩ := h.behind pushed
  have travels : ∀ step ∈ newer, Travels step.2.1 step.2.2 ∧
      (step.1 ≠ j → Roams step.2.1 step.2.2) :=
    fun step hs => kept step (pushed.mem (List.mem_cons_of_mem _ hs))
  obtain ⟨⟨m, full, taken⟩, hm, he⟩ := exists_empties hnewer (hp.queue_ne_nil notified) empty
  obtain rfl : m = j := Classical.byContradiction fun hj => he.not_roams ((travels _ hm).2 hj)
  exact navigation_handled within h listening listened ((List.suffix_cons ..).trans pushed)
    (fun step hs => (travels step hs).1) none hm he

end

/-- A registration adds the route, then reads the location, and replays the route on that. -/
theorem registration_replays (parsed : Template.parse text = .ok t)
    (h : Trace tasks hub trace tasks' hub')
    (registering : tasks[i]? = some ((fun _ => ()) <$> Router.register host text chains))
    (registered : tasks'[i]? = some (.done ())) :
    ∃ adding behind reading rest,
      (own i trace).head? = some (adding, (Router.addRoute ⟨t, chains⟩ adding).2) ∧
      (i, adding, (Router.addRoute ⟨t, chains⟩ adding).2) :: behind <:+ trace ∧
      (i, reading, reading) :: rest <:+ behind ∧
      Replays host text reading.router.location.current chains adding.router.routes.length
        (t.captures reading.router.location.current) (own i rest) := by
  obtain ⟨_, hd, hw⟩ := h.walks registering
  obtain rfl := Option.some.inj (hd.symm.trans registered)
  obtain ⟨result, -, hw⟩ := Task.walks_map hw
  have enrols := register_walks.mp hw
  cases result with
  | error e =>
    rw [enrols.1] at parsed
    cases parsed
  | ok =>
    obtain ⟨_, adding, reading, replay, ht, howned, replays⟩ := enrols
    obtain rfl := Except.ok.inj (parsed.symm.trans ht)
    obtain ⟨before, behind, rfl, -, hread⟩ := Task.own_eq_cons howned
    obtain ⟨between, rest, rfl, -, rfl⟩ := Task.own_eq_cons hread
    refine ⟨adding, _, reading, rest, ?_, List.suffix_append .., List.suffix_append .., replays⟩
    rw [howned, List.head?_cons]

/-- A registration together with the listen loop misses no location. Whatever others do
meanwhile, once both have caught up the route has been run, all of it, on what it captures from
the location after the last push, and behind that push. -/
theorem registrations_miss_nothing (within : host.Within fun t => t.Keeps Roams)
    (parsed : Template.parse text = .ok t) (h : Trace tasks hub trace tasks' hub')
    (notifies : hub.router.location.notifies = true)
    (registering : tasks[i]? = some ((fun _ => ()) <$> Router.register host text chains))
    (listening : tasks[j]? = some (Router.listen host rounds))
    (others : ∀ k task, tasks[k]? = some task → k = i ∨ k = j ∨ task.Keeps Roams)
    (registered : tasks'[i]? = some (.done ())) (listened : tasks'[j]? = some (.done ()))
    (empty : hub'.router.location.queue = [])
    (captured : t.captures hub'.router.location.current = some params) :
    ∃ adding older newer,
      (own i trace).head? = some (adding, (Router.addRoute ⟨t, chains⟩ adding).2) ∧
      trace = older ++ newer ∧ (∀ step ∈ newer, ¬ Pushes step.2.1 step.2.2) ∧
      ∃ k, (k = i ∨ k = j) ∧
        RunsOn host ⟨t, chains⟩ adding.router.routes.length params (own k newer) := by
  have kept := trace_travels within h listening fun k task hk => by
    rcases others k task hk with rfl | hj | hr
    · obtain rfl := Option.some.inj (hk.symm.trans registering)
      exact .inr <| Task.keeps_map _ <|
        (Roams.served within).register (fun _ _ => .addRoute _) text chains
    · exact .inl hj
    · exact .inr hr
  obtain ⟨adding, behind, reading, rest, added, hbehind, hrest, replays⟩ :=
    registration_replays parsed h registering registered
  have reads := (hrest.trans (List.suffix_cons ..)).trans hbehind
  rcases last_push rest with none | ⟨between, k, p, q, newer, rfl, hp, none⟩
  · -- The location that the registration reads is the last one.
    obtain ⟨_, hread⟩ := h.behind reads
    have travels : ∀ step ∈ rest, Travels step.2.1 step.2.2 :=
      fun step hs => (kept step (reads.mem (List.mem_cons_of_mem _ hs))).1
    rw [(current_behind hread travels none).2, captured] at replays
    obtain ⟨start, performed, last, hperformed, howned⟩ := replays
    obtain ⟨older, hnewer⟩ := (List.suffix_cons ..).trans reads
    refine ⟨adding, older, rest, added, hnewer.symm, none, i, .inl rfl, start, performed,
      hperformed, ?_⟩
    rw [howned]
    exact (List.prefix_append _ [_]).isInfix
  · -- The last push is behind the registration, so the loop finds the route.
    have pushed : (k, p, q) :: newer <:+ trace :=
      ((List.suffix_append ..).trans (List.suffix_cons ..)).trans reads
    obtain ⟨snapshot, fired, hs, fires, howned⟩ :=
      push_handled within h listening listened notifies kept empty pushed hp none
    obtain ⟨_, hadded⟩ := h.behind hbehind
    have stays := routes_stay hadded (fun step hs => (kept step
      (hbehind.mem (List.mem_cons_of_mem _ hs))).1) (j, snapshot, snapshot) (hrest.mem (by simp [hs]))
    have found : (adding.router.routes.length, ⟨t, chains⟩, params) ∈
        matching hub'.router.location.current 0 snapshot.router.routes := by
      obtain ⟨later, hroutes⟩ := stays
      refine mem_matching.mpr ⟨?_, captured⟩
      rw [← hroutes]
      simp [Router.addRoute, Hub.record]
    obtain ⟨older, hnewer⟩ := (List.suffix_cons ..).trans pushed
    exact ⟨adding, older, newer, added, hnewer.symm, none, j, .inr rfl,
      (fires.runsOn found).mono howned⟩

end

namespace Rehearsal

theorem Scenic.roams {hub hub' : Staging} (h : Scenic hub hub') : Roams hub hub' := by
  cases h with
  | note | scene => exact .still rfl

def paging : List (Request Device) :=
  [.register ":page" [.leaf (.custom (.log "page"))], .setLocation "news", .listen 1]

def paged : Staging := carriedOut (hostOfDepth 0) paging (.new "bus" "home" .new)

def pageRoute : Template := ⟨":page", [.named "page".toList]⟩

end Rehearsal

open Rehearsal in
/-- The page was replayed for `home`, and is run for `news` behind the push. -/
theorem registrations_miss_nothing_paging :
    ∃ trace adding older newer, Trace (paging.map (Request.task (hostOfDepth 0)))
        (.new "bus" "home" .new) trace (paging.map fun _ => .done ()) paged ∧
      (own 0 trace).head? = some (adding, (Router.addRoute ⟨pageRoute,
        [.leaf (.custom (.log "page"))]⟩ adding).2) ∧
      trace = older ++ newer ∧ (∀ step ∈ newer, ¬ Pushes step.2.1 step.2.2) ∧
      ∃ k, (k = 0 ∨ k = 2) ∧ RunsOn (hostOfDepth 0) ⟨pageRoute, [.leaf (.custom (.log "page"))]⟩
        adding.router.routes.length ⟨["page"], ["news"]⟩ (own k newer) := by
  have within : (hostOfDepth 0).Within fun t => t.Keeps Roams :=
    hostWith_within Roams.closed Scenic.roams (fun _ _ => .still rfl)
      fun _ _ => within_note Roams.closed Scenic.roams _
  have parsed : Template.parse ":page" = .ok pageRoute := by cbv
  have empty : paged.router.location.queue = [] := by cbv
  have captured : pageRoute.captures paged.router.location.current =
      some ⟨["page"], ["news"]⟩ := by cbv
  obtain ⟨trace, h⟩ :=
    (reaches_carriedOut (hostOfDepth 0) paging (.new "bus" "home" .new)).exists_trace
  have others : ∀ k task, (paging.map (Request.task (hostOfDepth 0)))[k]? = some task →
      k = 0 ∨ k = 2 ∨ task.Keeps Roams := by
    rintro (_ | _ | _ | k) task hk
    · exact .inl rfl
    · obtain rfl := Option.some.inj hk
      exact .inr (.inr fun _ => ⟨.push ⟨_, rfl⟩, trivial⟩)
    · exact .inr (.inl rfl)
    · cases hk
  obtain ⟨adding, older, newer, caught⟩ :=
    registrations_miss_nothing within parsed h rfl rfl rfl others rfl rfl empty captured
  exact ⟨trace, adding, older, newer, h, caught⟩

end RouteBus
