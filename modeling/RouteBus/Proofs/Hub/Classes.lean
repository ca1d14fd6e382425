import RouteBus.Navigation.Router
import RouteBus.Proofs.Task.Ensures

/-!
# Classes of tasks

A class says what the steps of a task may do. If the host keeps to a class and the steps of bus
and router are among those that it allows, all that is asked of bus and router is of that class.
-/

namespace RouteBus

def Event.ofConnection : Event → Bool
  | .openStarted _ | .connected _ | .opened .. | .openFailed .. => true
  | .withdrawn _ | .closing _ | .closed .. => true
  | _ => false

def Event.ofRoute : Event → Bool
  | .routeRegistered .. => true
  | _ => false

def Event.ofLookup : Event → Bool
  | .sourceUnmatched _ | .groupEmpty .. | .delivering .. => true
  | _ => false

def Event.isPlain (event : Event) : Bool :=
  !event.ofConnection && !event.ofRoute && !event.ofLookup

inductive Routine : Hub ε ν κ → Hub ε ν κ → Prop
  | stay : Routine hub hub
  | tell (event : Event) : event.isPlain = true → Routine hub (hub.record event)
  | push (location : String) : Routine hub (Router.push location hub)

inductive Postal : Hub ε ν κ → Hub ε ν κ → Prop
  | lookup (host : Host ε ν κ) (source : String) : Postal hub (Bus.lookup host source hub).2
  | put (id : Nat) (m : Message) : Postal hub (Bus.onMailbox id (Mailbox.put m) hub)
  | register (template : String) (l : Listener) : Postal hub (Bus.register template l hub).2
  | receiver (template : String) :
      Bus.register template (.mailbox hub.bus.mailboxes.length) hub = (.ok (), hub') →
      Postal hub (Bus.addMailbox hub')
  | empty (id : Nat) : Postal hub (Bus.onMailbox id Mailbox.emptied hub)
  | drop (id : Nat) : Postal hub (Bus.onMailbox id Mailbox.drop hub)

/-- A class of tasks whose steps are of one kind, with what is put together from tasks of
its own. -/
structure Composed (D : Hub ε ν κ → Hub ε ν κ → Prop)
    (P : ∀ {α : Type}, Task (Hub ε ν κ) α → Prop) : Prop where
  routine : Routine hub hub' → D hub hub'
  done {α : Type} (value : α) : P (.done value)
  act {α : Type} {effect : Hub ε ν κ → Hub ε ν κ} {next : Hub ε ν κ → Task (Hub ε ν κ) α} :
    (∀ hub, D hub (effect hub)) → (∀ hub, P (next hub)) → P (.act effect next)
  yield {α : Type} {rest : Task (Hub ε ν κ) α} : P rest → P (.yield rest)
  bind {α β : Type} {t : Task (Hub ε ν κ) α} {k : α → Task (Hub ε ν κ) β} :
    P t → (∀ value, P (k value)) → P (t >>= k)
  both {α β : Type} {t : Task (Hub ε ν κ) α} {u : Task (Hub ε ν κ) β} : P t → P u → P (t.both u)
  alternate {α β : Type} {t : Task (Hub ε ν κ) α} {u : Task (Hub ε ν κ) β} :
    P t → P u → P (t.alternate u)

/-- Such a class with what is done on groups and mailboxes. Its members need not have each of
these steps by itself. -/
structure Closed (D : Hub ε ν κ → Hub ε ν κ → Prop)
    (P : ∀ {α : Type}, Task (Hub ε ν κ) α → Prop) : Prop extends Composed D P where
  dispatches {host : Host ε ν κ} : (∀ id m, P (host.hear id m)) → ∀ m, P (Bus.dispatch host m)
  subscribe (template : String) (id : Nat) : P (Bus.subscribe template (.external id))
  onReceive (template : String) : P (Bus.onReceive template)
  drain (id : Nat) : P (Bus.drain id)
  dropMailbox (id : Nat) : P (Bus.dropMailbox id)

/-- Steps of the router that only a request of their own brings about. -/
inductive Service : Hub ε ν κ → Hub ε ν κ → Prop
  | receive : Service hub (Router.receive hub).2
  | closeLocation : Service hub (hub.withLocation hub.router.location.close)
  | dropNavigations : Service hub (hub.withLocation hub.router.location.dropReceiver)
  | addRoute (route : Route κ) : Service hub (Router.addRoute route hub).2

structure Host.Within (P : ∀ {α : Type}, Task (Hub ε ν κ) α → Prop) (host : Host ε ν κ) : Prop where
  connect : ∀ key deliver, (∀ text, P (deliver text)) → P (host.connect key deliver)
  request : ∀ uri, P (host.request uri)
  disconnect : ∀ handle, P (host.disconnect handle)
  hear : ∀ id m, P (host.hear id m)
  perform : ∀ step params, P (host.perform step params)

structure Served (D : Hub ε ν κ → Hub ε ν κ → Prop)
    (P : ∀ {α : Type}, Task (Hub ε ν κ) α → Prop) (host : Host ε ν κ) : Prop extends
    Closed D P where
  hears : ∀ id m, P (host.hear id m)
  requests : ∀ uri, P (host.request uri)
  performs : ∀ step params, P (host.perform step params)
  opens : ∀ key, P (Bus.openTarget host key)
  closes : ∀ template target, P (Bus.closeTarget host template target)

def Chain.Every {κ : Type} (p : κ → Prop) : Chain κ → Prop
  | .skip => True
  | .leaf step => p step
  | .andThen first second | .both first second => first.Every p ∧ second.Every p

theorem Chain.every_true {κ : Type} (chain : Chain κ) : chain.Every fun _ => True := by
  induction chain with
  | skip | leaf => trivial
  | andThen _ _ ih₁ ih₂ | both _ _ ih₁ ih₂ => exact ⟨ih₁, ih₂⟩

variable {ε ν κ α β : Type} {hub hub' : Hub ε ν κ} {host : Host ε ν κ}
  {D : Hub ε ν κ → Hub ε ν κ → Prop} {P : ∀ {α : Type}, Task (Hub ε ν κ) α → Prop}

-- ---------------------------------------------------------------------------
-- Whatever the host opens and closes
-- ---------------------------------------------------------------------------

namespace Composed

/-- Tasks all of whose steps are of a kind are a class. -/
theorem keeps (routine : ∀ {hub hub'}, Routine hub hub' → D hub hub') :
    Composed D fun t => t.Keeps D where
  routine := routine
  done _ := trivial
  act h hn := fun hub => ⟨h hub, hn hub⟩
  yield := id
  bind := Task.keeps_bind
  both := Task.keeps_both
  alternate := Task.keeps_alternate

theorem map (composed : Composed D P) (f : α → β) {t : Task (Hub ε ν κ) α} (h : P t) :
    P (f <$> t) := by
  rw [map_eq_pure_bind]
  exact composed.bind h fun _ => composed.done _

theorem atomically (composed : Composed D P) {f : Hub ε ν κ → α × Hub ε ν κ}
    (h : ∀ hub, D hub (f hub).2) : P (.atomically f) :=
  composed.act h fun _ => composed.done _

theorem modify (composed : Composed D P) {f : Hub ε ν κ → Hub ε ν κ} (h : ∀ hub, D hub (f hub)) :
    P (.modify f) :=
  composed.act h fun _ => composed.done _

theorem read (composed : Composed D P) (f : Hub ε ν κ → α) : P (.read f) :=
  composed.act (fun _ => composed.routine .stay) fun _ => composed.done _

theorem tell (composed : Composed D P) (event : Event) (h : event.isPlain = true) :
    P (Hub.tell event : Task (Hub ε ν κ) Unit) :=
  composed.modify fun _ => composed.routine (.tell event h)

theorem pause (composed : Composed D P) (n : Nat) : P (Task.pause n : Task (Hub ε ν κ) Unit) := by
  induction n with
  | zero => exact composed.done ()
  | succ n ih => exact composed.yield ih

theorem joinAll (composed : Composed D P) {tasks : List (Task (Hub ε ν κ) α)}
    (h : ∀ t ∈ tasks, P t) : P (Task.joinAll tasks) := by
  induction tasks with
  | nil => exact composed.done []
  | cons t ts ih =>
    have ht := h t List.mem_cons_self
    exact composed.map _ (composed.both ht (ih fun t ht => h t (List.mem_cons_of_mem _ ht)))

theorem joinAlternating (composed : Composed D P) {tasks : List (Task (Hub ε ν κ) α)}
    (h : ∀ t ∈ tasks, P t) : P (Task.joinAlternating tasks) := by
  induction tasks with
  | nil => exact composed.done []
  | cons t ts ih =>
    have ht := h t List.mem_cons_self
    exact composed.map _ (composed.alternate ht (ih fun t ht => h t (List.mem_cons_of_mem _ ht)))

section
variable (composed : Composed D P) (postal : ∀ {hub hub'}, Postal hub hub' → D hub hub')
include composed postal

theorem hand (hears : ∀ id m, P (host.hear id m)) (m : Message) (l : Listener) :
    P (Bus.hand host m l) := by
  refine composed.bind (composed.tell _ rfl) fun _ => ?_
  cases l with
  | mailbox id => exact composed.modify fun _ => postal (.put id m)
  | external id => exact hears id m

theorem handAll (hears : ∀ id m, P (host.hear id m)) (m : Message) (ls : List Listener) :
    P (Bus.handAll host m ls) := by
  induction ls with
  | nil => exact composed.done ()
  | cons l ls ih => exact composed.bind (composed.hand postal hears m l) fun _ => ih

theorem dispatch (hears : ∀ id m, P (host.hear id m)) (m : Message) : P (Bus.dispatch host m) := by
  unfold Bus.dispatch
  split
  · exact composed.bind (composed.tell _ rfl) fun _ => composed.done _
  · refine composed.bind (composed.atomically fun _ => postal (.lookup host _)) fun picked => ?_
    cases picked with
    | none => exact composed.done _
    | some selection =>
      refine composed.bind (composed.handAll postal hears m _) fun _ => ?_
      split <;> exact composed.done _

theorem subscribe (template : String) (l : Listener) : P (Bus.subscribe template l) :=
  composed.atomically fun _ => postal (.register template l)

theorem onReceive (template : String) : P (Bus.onReceive template) := by
  refine composed.atomically fun hub => ?_
  dsimp only
  split
  · exact postal (.receiver template ‹_›)
  · exact composed.routine .stay

/-- A class that has the steps on groups and mailboxes has all that is done with them. -/
theorem closed : Closed D P where
  toComposed := composed
  dispatches := composed.dispatch postal
  subscribe template id := composed.subscribe postal template (.external id)
  onReceive := composed.onReceive postal
  drain id := composed.atomically fun _ => postal (.empty id)
  dropMailbox id := composed.modify fun _ => postal (.drop id)

end

end Composed

namespace Closed

theorem dispatchAll (closed : Closed D P) (hears : ∀ id m, P (host.hear id m))
    (ms : List Message) : P (Bus.dispatchAll host ms) := by
  induction ms with
  | nil => exact closed.done ()
  | cons m ms ih => exact closed.bind (closed.dispatches hears m) fun _ => ih

theorem receiveChunk (closed : Closed D P) (hears : ∀ id m, P (host.hear id m))
    (key text : String) : P (Bus.receiveChunk host key text) := by
  unfold Bus.receiveChunk
  split
  · exact closed.tell _ rfl
  · refine closed.bind (closed.tell _ rfl) fun _ => ?_
    exact closed.bind (closed.dispatches hears _) fun _ => closed.done _

theorem fetchTarget (closed : Closed D P) (hears : ∀ id m, P (host.hear id m))
    (requests : ∀ uri, P (host.request uri)) (uri : String) : P (Bus.fetchTarget host uri) := by
  refine closed.bind (closed.tell _ rfl) fun _ => closed.bind (requests uri) fun answer => ?_
  cases answer with
  | error failure => exact closed.bind (closed.tell _ rfl) fun _ => closed.done _
  | ok body =>
    dsimp only
    split
    · exact closed.bind (closed.tell _ rfl) fun _ => closed.done _
    · refine closed.bind (closed.dispatchAll hears _) fun _ => ?_
      exact closed.bind (closed.tell _ rfl) fun _ => closed.done _

theorem follow (closed : Closed D P) (template : Template) (args : List String) :
    P (Router.follow template args : Task (Hub ε ν κ) _) := by
  unfold Router.follow
  dsimp only
  split
  · exact closed.modify fun _ => closed.routine (.push _)
  · refine closed.bind (closed.modify fun _ => closed.routine (.tell _ rfl)) fun _ => ?_
    exact closed.modify fun _ => closed.routine (.push _)

theorem go (closed : Closed D P) (template : String) (args : List String) :
    P (Router.go template args : Task (Hub ε ν κ) _) := by
  unfold Router.go
  split
  · exact closed.done _
  · exact closed.bind (closed.modify fun _ => closed.routine (.push _)) fun _ => closed.done _

/-- A bus step carries its operation out, records a failure and passes its parameters on. -/
theorem perform (closed : Closed D P) (step : RouteStep κ) (params : Params)
    (h : ∀ operation template args, step = .bus operation template args →
      P (Bus.attempt host template (args params) operation))
    (own : ∀ own, P (host.perform own params)) : P (Router.perform host step params) := by
  cases step with
  | bus operation template args =>
    have carried : P (Bus.carryOut host operation template (args params)) := by
      refine closed.bind (h _ _ _ rfl) fun result => ?_
      cases result with
      | ok => exact closed.done ()
      | error e => exact closed.tell _ rfl
    exact closed.bind carried fun _ => closed.done _
  | go template args => exact closed.bind (closed.follow ..) fun _ => closed.done _
  | custom step => exact own step

theorem chain (closed : Closed D P) {p : RouteStep κ → Prop}
    (h : ∀ step, p step → ∀ params, P (Router.perform host step params)) (chain : RouteChain κ)
    (hc : chain.Every p) (params : Params) : P (chain.run (Router.perform host) params) := by
  induction chain generalizing params with
  | skip => exact closed.done _
  | leaf step => exact h step hc params
  | andThen first second ih₁ ih₂ => exact closed.bind (ih₁ hc.1 params) fun params => ih₂ hc.2 params
  | both left right ih₁ ih₂ => exact closed.map _ (closed.both (ih₁ hc.1 params) (ih₂ hc.2 params))

theorem runChains (closed : Closed D P) (chains : List (RouteChain κ))
    (h : ∀ chain ∈ chains, ∀ params, P (chain.run (Router.perform host) params)) (params : Params) :
    P (Router.runChains host chains params) := by
  induction chains generalizing params with
  | nil => exact closed.done _
  | cons chain chains ih =>
    refine closed.bind (h chain List.mem_cons_self params) fun params => ?_
    exact ih (fun chain hc => h chain (List.mem_cons_of_mem _ hc)) params

theorem fire (closed : Closed D P) (location : String) (index : Nat) (route : Route κ)
    (h : ∀ params, P (Router.runChains host route.chains params)) :
    P (Router.fire host location index route) := by
  unfold Router.fire
  split
  · exact closed.done _
  · exact closed.bind (closed.tell _ rfl) fun _ => closed.bind (h _) fun _ => closed.done _

theorem fireAll (closed : Closed D P) (location : String) (index : Nat) (routes : List (Route κ))
    (h : ∀ route ∈ routes, ∀ params, P (Router.runChains host route.chains params)) :
    P (Router.fireAll host location index routes) := by
  induction routes generalizing index with
  | nil => exact closed.done 0
  | cons route routes ih =>
    have rest : ∀ index, P (Router.fireAll host location index routes) := fun index =>
      ih index fun route hr => h route (List.mem_cons_of_mem _ hr)
    refine closed.bind (closed.fire _ _ _ (h route List.mem_cons_self)) fun fired => ?_
    cases fired with
    | none => exact rest (index + 1)
    | some params =>
      refine closed.bind (closed.modify fun _ => closed.routine (.tell _ rfl)) fun _ => ?_
      exact closed.bind (rest (index + 1)) fun _ => closed.done _

theorem listen (closed : Closed D P) (receives : ∀ hub, D hub (Router.receive hub).2)
    (navigates : ∀ navigation, P (Router.onNavigation host navigation)) (limit : Nat) :
    P (Router.listen host limit) := by
  induction limit with
  | zero => exact closed.done ()
  | succ limit ih =>
    refine closed.bind (closed.atomically receives) fun arrival => ?_
    cases arrival with
    | navigation navigation => exact closed.bind (navigates navigation) fun _ => ih
    | nothing => exact closed.yield ih
    | ended => exact closed.modify fun _ => closed.routine (.tell _ rfl)

end Closed

-- ---------------------------------------------------------------------------
-- All that is asked of bus and router
-- ---------------------------------------------------------------------------

namespace Served

theorem dispatch (served : Served D P host) (m : Message) : P (Bus.dispatch host m) :=
  served.dispatches served.hears m

theorem receiveChunk (served : Served D P host) (key text : String) :
    P (Bus.receiveChunk host key text) :=
  served.toClosed.receiveChunk served.hears key text

theorem receiveRaw (served : Served D P host) (text : String) : P (Bus.receiveRaw host text) := by
  unfold Bus.receiveRaw
  split
  · exact served.done _
  · exact served.map _ (served.dispatch _)

theorem openStream (served : Served D P host) (template : String) (args : List String) :
    P (Bus.openStream host template args) := by
  unfold Bus.openStream
  split
  · exact served.done _
  · exact served.map _ (served.opens _)

theorem closeStreams (served : Served D P host) (template : String) (args : List String) :
    P (Bus.closeStreams host template args) := by
  unfold Bus.closeStreams
  split
  · exact served.done _
  · exact served.map _ (served.closes _ _)

theorem fetchTarget (served : Served D P host) (uri : String) : P (Bus.fetchTarget host uri) :=
  served.toClosed.fetchTarget served.hears served.requests uri

theorem fetch (served : Served D P host) (template : String) (args : List String) :
    P (Bus.fetch host template args) := by
  unfold Bus.fetch
  split
  · exact served.done _
  · exact served.fetchTarget _

theorem perform (served : Served D P host) (step : RouteStep κ) (params : Params) :
    P (Router.perform host step params) := by
  refine served.toClosed.perform step params ?_ fun own => served.performs own params
  intro operation template args _
  cases operation with
  | stream => exact served.map _ (served.opens _)
  | close => exact served.map _ (served.closes _ _)
  | fetch => exact served.map _ (served.fetchTarget _)

theorem runChains (served : Served D P host) (chains : List (RouteChain κ)) (params : Params) :
    P (Router.runChains host chains params) := by
  refine served.toClosed.runChains chains (fun chain _ => ?_) params
  exact served.toClosed.chain (fun step _ => served.perform step) chain chain.every_true

theorem onNavigation (served : Served D P host) (navigation : Navigation) :
    P (Router.onNavigation host navigation) := by
  refine served.bind (served.atomically fun _ => served.routine (.tell _ rfl)) fun location => ?_
  refine served.bind (served.read _) fun routes => ?_
  refine served.bind (served.fireAll _ _ _ fun route _ => served.runChains route.chains) fun fired => ?_
  split
  · exact served.bind (served.modify fun _ => served.routine (.tell _ rfl)) fun _ => served.done _
  · exact served.done _

theorem register (served : Served D P host) (adds : ∀ route hub, D hub (Router.addRoute route hub).2)
    (template : String) (chains : List (RouteChain κ)) :
    P (Router.register host template chains) := by
  unfold Router.register
  split
  · exact served.done _
  · refine served.bind (served.atomically fun hub => adds _ hub) fun index => ?_
    refine served.bind (served.read _) fun location => ?_
    refine served.bind (served.fire _ _ _ (served.runChains chains)) fun fired => ?_
    cases fired with
    | none => exact served.done _
    | some params =>
      exact served.bind (served.modify fun _ => served.routine (.tell _ rfl)) fun _ => served.done _

theorem listen (served : Served D P host) (service : ∀ {hub hub'}, Service hub hub' → D hub hub')
    (limit : Nat) : P (Router.listen host limit) :=
  served.toClosed.listen (fun _ => service .receive) served.onNavigation limit

end Served

end RouteBus
