import RouteBus.Proofs.Navigation.Arrivals

/-!
# A closed location drains

Chains may push while the listen loop handles the navigations before them, and may fire
themselves again in doing so. Once the queue is closed the loop still comes to an end, for what
they push moves the router and queues nothing.
-/

namespace RouteBus

open RouteBus.Task (Walks Trace own)

-- ---------------------------------------------------------------------------
-- Steps around a closed location
-- ---------------------------------------------------------------------------

inductive Steers : Hub ε ν κ → Hub ε ν κ → Prop
  | roams : Roams hub hub' → Steers hub hub'
  | close : Steers hub (hub.withLocation hub.router.location.close)

inductive Plies : Hub ε ν κ → Hub ε ν κ → Prop
  | steers : Steers hub hub' → Plies hub hub'
  | receive : Plies hub (Router.receive hub).2

/-- The queue is closed in front of each step and as the step before has left it; the first finds
`ns` in it, and behind the last there is `left`. -/
def Threads : List Navigation → List (Hub ε ν κ × Hub ε ν κ) → List Navigation → Prop
  | ns, [], left => ns = left
  | ns, (hub, hub') :: steps, left =>
    hub.router.location.closed = true ∧ hub.router.location.queue = ns ∧
      Threads hub'.router.location.queue steps left

/-- Navigations are taken from the queue and handled, one after another, each once, and behind the
last the queue has ended. -/
inductive Drains (host : Host ε ν κ) :
    List Navigation → List (Hub ε ν κ × Hub ε ν κ) → Prop
  | ended {hub last : Hub ε ν κ} : hub.router.location.queue = [] →
      Drains host [] [(hub, hub), (last, last.record (.navigationsEnded last.router.name))]
  | handles {hub : Hub ε ν κ} : hub.router.location.queue = n :: ns →
      FansOut host n steps count → Drains host ns more →
      Drains host (n :: ns) ((hub, (Router.receive hub).2) :: (steps ++ more))

variable {ε ν κ : Type} {hub hub' : Hub ε ν κ} {host : Host ε ν κ} {text : String}
  {n : Navigation} {ns left : List Navigation} {steps before after : List (Hub ε ν κ × Hub ε ν κ)}

theorem Steers.closed_location (h : Steers hub hub') (closed : hub.router.location.closed = true) :
    hub'.router.location.closed = true := by
  cases h with
  | roams h =>
    cases h with
    | still hr => rwa [hr]
    | push hp =>
      obtain ⟨text, rfl⟩ := hp
      rw [push_location]
      exact closed
    | addRoute => exact closed
  | close => rfl

/-- Nothing is added to a closed queue. -/
theorem Steers.queue (h : Steers hub hub') (closed : hub.router.location.closed = true) :
    hub'.router.location.queue = hub.router.location.queue := by
  cases h with
  | roams h =>
    cases h with
    | still hr => rw [hr]
    | push hp =>
      obtain ⟨text, rfl⟩ := hp
      simp [Location.push, Location.notifies, closed]
    | addRoute => rfl
  | close => rfl

theorem Steers.roves (h : Steers hub hub') : Roves hub hub' := by
  cases h with
  | roams h => exact (Travels.roams h).roves
  | close => exact .stay rfl List.prefix_rfl

theorem Plies.roves (h : Plies hub hub') : Roves hub hub' := by
  cases h with
  | steers h => exact h.roves
  | receive => exact Travels.receive.roves

theorem Plies.closed_location (h : Plies hub hub') (closed : hub.router.location.closed = true) :
    hub'.router.location.closed = true := by
  cases h with
  | steers h => exact h.closed_location closed
  | receive => rwa [receive_eq]

theorem Plies.queue (h : Plies hub hub') (closed : hub.router.location.closed = true) :
    hub'.router.location.queue <:+ hub.router.location.queue := by
  cases h with
  | steers h => rw [h.queue closed]
  | receive =>
    rw [receive_eq]
    exact List.tail_suffix _

theorem Steers.closed : Closed Steers fun {α} (t : Task (Hub ε ν κ) α) => t.Keeps Steers :=
  (Composed.keeps fun h => .roams (Routine.roams h)).closed fun h => .roams h.unrouted.roams

theorem Steers.served (within : host.Within fun t => t.Keeps Steers) :
    Served Steers (fun {α} (t : Task (Hub ε ν κ) α) => t.Keeps Steers) host :=
  Steers.closed.served (fun h => .roams h.unrouted.roams) within

theorem listen_plies (within : host.Within fun t => t.Keeps Steers) (limit : Nat) :
    (Router.listen host limit).Keeps Plies := by
  have closed : Closed Plies fun {α} (t : Task (Hub ε ν κ) α) => t.Keeps Plies :=
    (Composed.keeps fun h => .steers (.roams (Routine.roams h))).closed
      fun h => .steers (.roams h.unrouted.roams)
  refine closed.listen (fun _ => .receive) ?_ limit
  exact fun navigation => ((Steers.served within).onNavigation navigation).mono fun _ _ => .steers

-- ---------------------------------------------------------------------------
-- The loop on a closed queue
-- ---------------------------------------------------------------------------

/-- Steps that only steer leave the queue to those behind them. -/
theorem Threads.behind (h : Threads ns (before ++ after) left)
    (steers : ∀ step ∈ before, Steers step.1 step.2) : Threads ns after left := by
  induction before generalizing ns with
  | nil => exact h
  | cons step before ih =>
    obtain ⟨closed, rfl, rest⟩ := h
    obtain ⟨first, later⟩ := List.forall_mem_cons.mp steers
    rw [first.queue closed] at rest
    exact ih rest later

theorem receive_ended (closed : hub.router.location.closed = true)
    (hq : hub.router.location.queue = []) : Router.receive hub = (.ended, hub) := by
  simp [Router.receive, Location.next?, hq, closed]

theorem receive_navigation (hq : hub.router.location.queue = n :: ns) :
    (Router.receive hub).1 = .navigation n ∧
      (Router.receive hub).2.router.location.queue = ns := by
  constructor
  · simp [Router.receive, Location.next?, hq]
  · rw [receive_eq, hq]
    rfl

theorem drains_of_walks (within : host.Within fun t => t.Keeps Steers)
    (h : Walks (Router.listen host limit) steps (.done ())) (ht : Threads ns steps left)
    (enough : ns.length < limit) : Drains host ns steps ∧ left = [] := by
  induction limit generalizing ns steps with
  | zero => cases enough
  | succ limit ih =>
    obtain ⟨asked, rest, rfl, hasked⟩ := Task.walks_atomically h
    obtain ⟨closed, hq, ht⟩ := ht
    cases ns with
    | nil =>
      rw [receive_ended closed hq] at hasked ht
      obtain ⟨last, more, rfl, hend⟩ := Task.walks_modify hasked
      obtain ⟨rfl, -⟩ := Task.walks_done hend
      obtain ⟨-, empty, ht⟩ := ht
      rw [receive_ended closed hq]
      exact ⟨.ended hq, ht.symm.trans (empty.trans hq)⟩
    | cons n ns =>
      obtain ⟨taken, queue⟩ := receive_navigation hq
      rw [taken] at hasked
      obtain ⟨count, during, later, rfl, hn, hlater⟩ := Task.walks_bind hasked
      have steers := hn.keeps ((Steers.served within).onNavigation n)
      rw [queue] at ht
      obtain ⟨drains, empty⟩ := ih hlater (ht.behind steers) (Nat.lt_of_succ_lt_succ enough)
      exact ⟨.handles hq (onNavigation_walks.mp hn) drains, empty⟩

-- ---------------------------------------------------------------------------
-- In a trace
-- ---------------------------------------------------------------------------

section
variable {tasks tasks' : List (Task (Hub ε ν κ) Unit)}
  {trace newer : List (Nat × Hub ε ν κ × Hub ε ν κ)} {j limit : Nat}

theorem trace_plies (within : host.Within fun t => t.Keeps Steers)
    (h : Trace tasks hub trace tasks' hub')
    (listening : tasks[j]? = some (Router.listen host limit))
    (others : ∀ k task, tasks[k]? = some task → k = j ∨ task.Keeps Steers) :
    ∀ step ∈ trace, Plies step.2.1 step.2.2 ∧ (step.1 ≠ j → Steers step.2.1 step.2.2) :=
  h.keeps_but listening (listen_plies within limit) (fun _ _ => .steers) others

theorem threads_of_trace (h : Trace tasks hub trace tasks' hub')
    (plies : ∀ step ∈ trace, Plies step.2.1 step.2.2 ∧ (step.1 ≠ j → Steers step.2.1 step.2.2))
    (closed : hub.router.location.closed = true) :
    Threads hub.router.location.queue (own j trace) hub'.router.location.queue := by
  induction h with
  | refl => exact rfl
  | @act _ i _ _ _ _ _ _ hi _ ih =>
    obtain ⟨first, rest⟩ := List.forall_mem_cons.mp plies
    have threads := ih rest (first.1.closed_location closed)
    by_cases hj : i = j
    · subst hj
      rw [Task.own_cons_self]
      exact ⟨closed, rfl, threads⟩
    · rw [Task.own_cons_other hj]
      rwa [(first.2 hj).queue closed] at threads
  | resume _ _ ih => exact ih plies closed

/-- What is pushed is where all are until something else is pushed. -/
theorem current_behind_push (h : Trace tasks hub trace tasks' hub')
    (roves : ∀ step ∈ trace, Roves step.2.1 step.2.2)
    (pushed : (k, p, Router.push text p) :: newer <:+ trace)
    (split : newer = between ++ (i, r, r') :: rest)
    (none : ∀ step ∈ between, ¬ Pushes step.2.1 step.2.2) :
    r.router.location.current = stripMarker text := by
  obtain ⟨mid, hnewer⟩ := h.behind pushed
  subst split
  obtain ⟨_, m, hbetween, hafter⟩ := hnewer.split
  obtain ⟨rfl, -⟩ := hafter.of_cons
  have between_roves : ∀ step ∈ between, Roves step.2.1 step.2.2 :=
    fun step hs => roves step (pushed.mem (by simp [hs]))
  rw [(current_until hbetween between_roves none).2, push_location]
  rfl

/-- A loop that has come to its end has handled all that was queued. -/
theorem drains_of_trace (within : host.Within fun t => t.Keeps Steers)
    (closed : hub.router.location.closed = true)
    (listening : tasks[j]? = some (Router.listen host limit))
    (enough : hub.router.location.queue.length < limit)
    (others : ∀ k task, tasks[k]? = some task → k = j ∨ task.Keeps Steers)
    (h : Trace tasks hub trace tasks' hub') (listened : tasks'[j]? = some (.done ())) :
    Drains host hub.router.location.queue (own j trace) ∧ hub'.router.location.queue = [] := by
  obtain ⟨t, ht, hw⟩ := h.walks listening
  obtain rfl := Option.some.inj (ht.symm.trans listened)
  have threads := threads_of_trace h (trace_plies within h listening others) closed
  exact drains_of_walks within hw threads enough

/-- The loop on a closed queue handles what is queued, in order, each navigation once, and ends,
whatever chains and others push meanwhile. What they push is not queued, but it is where the
router is when the loop handles the next navigation. -/
theorem closed_location_drains (within : host.Within fun t => t.Keeps Steers)
    (closed : hub.router.location.closed = true)
    (listening : tasks[j]? = some (Router.listen host limit))
    (enough : hub.router.location.queue.length < limit)
    (others : ∀ k task, tasks[k]? = some task → k = j ∨ task.Keeps Steers)
    (h : Trace tasks hub trace tasks' hub') :
    (tasks'[j]? = some (.done ()) →
      Drains host hub.router.location.queue (own j trace) ∧ hub'.router.location.queue = []) ∧
    (∃ (steps : List (Hub ε ν κ × Hub ε ν κ)) (last : Hub ε ν κ),
      Trace tasks' hub' (steps.map (j, ·)) (tasks'.set j (.done ())) last ∧
      Drains host hub.router.location.queue (own j trace ++ steps)) ∧
    hub'.router.location.queue <:+ hub.router.location.queue ∧
    ∀ older k p text newer, trace = older ++ (k, p, Router.push text p) :: newer →
      (Router.push text p).router.location.queue = p.router.location.queue ∧
      ∀ between i r r' rest, newer = between ++ (i, r, r') :: rest →
        (∀ step ∈ between, ¬ Pushes step.2.1 step.2.2) →
        r.router.location.current = stripMarker text := by
  have plies := trace_plies within h listening others
  refine ⟨drains_of_trace within closed listening enough others h, ?_, ?_, ?_⟩
  · obtain ⟨t, ht, -⟩ := h.walks listening
    obtain ⟨steps, onward⟩ := Task.trace_run ht hub'
    have drains := drains_of_trace within closed listening enough others (h.trans onward)
      (Task.getElem?_set ht)
    rw [Task.own_append, Task.own_map_self] at drains
    exact ⟨steps, _, onward, drains.1⟩
  · have shrinks := h.carries (P := fun m => m.router.location.closed = true ∧
      m.router.location.queue <:+ hub.router.location.queue)
      (fun step hs hm => ⟨(plies step hs).1.closed_location hm.1,
        ((plies step hs).1.queue hm.1).trans hm.2⟩) ⟨closed, List.suffix_rfl⟩
    exact shrinks.2.2
  · rintro older k p text newer rfl
    have still_closed := h.carries (P := fun m => m.router.location.closed = true)
      (fun step hs => (plies step hs).1.closed_location) closed
    have pushing : p.router.location.closed = true :=
      still_closed.1 (k, p, Router.push text p) (by simp)
    refine ⟨Steers.queue (.roams (.push ⟨text, rfl⟩)) pushing, ?_⟩
    intro between i r r' rest split none
    exact current_behind_push h (fun step hs => (plies step hs).1.roves) (List.suffix_append ..)
      split none

end

namespace Rehearsal

def escaping : List (Request Device) :=
  [.register ":page" [.leaf (.go ⟨"away", [.literal "away".toList]⟩ fun _ => [])],
    .setLocation "news", .closeLocation]

def escaped : Staging := carriedOut (hostOfDepth 0) escaping (.new "bus" "home" .new)

end Rehearsal

open Rehearsal in
/-- Both navigations are handled, and what their handling pushes is not. -/
theorem closed_location_drains_escaping :
    ∃ steps last, Trace [Router.listen (hostOfDepth 0) 3] escaped (steps.map (0, ·))
        [.done ()] last ∧
      escaped.router.location.queue = [⟨"home", "away"⟩, ⟨"away", "news"⟩] ∧
      Drains (hostOfDepth 0) [⟨"home", "away"⟩, ⟨"away", "news"⟩] steps ∧
      last.router.location = ⟨"away", [], true, true⟩ := by
  have within : (hostOfDepth 0).Within fun t => t.Keeps Steers :=
    hostWith_within Steers.closed (fun h => .roams h.roams) (fun _ _ => .roams (.still rfl))
      fun _ _ => within_note Steers.closed (fun h => .roams h.roams) _
  have queue : escaped.router.location.queue = [⟨"home", "away"⟩, ⟨"away", "news"⟩] := by cbv
  have closed : escaped.router.location.closed = true := by cbv
  have enough : escaped.router.location.queue.length < 3 := by rw [queue]; decide
  have ending : ((Router.listen (hostOfDepth 0) 3).run escaped).2.router.location =
    ⟨"away", [], true, true⟩ := by cbv
  have listening : [Router.listen (hostOfDepth 0) 3][0]? =
    some (Router.listen (hostOfDepth 0) 3) := rfl
  have others : ∀ k task, [Router.listen (hostOfDepth 0) 3][k]? = some task →
      k = 0 ∨ task.Keeps Steers := by
    rintro (_ | k) task hk
    · exact .inl rfl
    · cases hk
  obtain ⟨steps, h⟩ := Task.trace_run listening escaped
  obtain ⟨drains, -⟩ := (closed_location_drains within closed listening enough others h).1 rfl
  rw [queue, Task.own_map_self] at drains
  exact ⟨steps, _, h, queue, drains, ending⟩

end RouteBus
