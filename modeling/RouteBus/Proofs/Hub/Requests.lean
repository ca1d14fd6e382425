import RouteBus.Proofs.Hub.Classes

/-!
# Requests

What a caller may ask bus and router for. Whatever class of tasks the host keeps to, a request
is of that class as soon as the steps of bus and router themselves are.
-/

namespace RouteBus

inductive Request (κ : Type) where
  | subscribe (template : String) (listener : Listener)
  | onReceive (template : String)
  | drain (mailbox : Nat)
  | dropMailbox (mailbox : Nat)
  | dispatch (message : Message)
  | receiveRaw (text : String)
  | openStream (template : String) (args : List String)
  | closeStreams (template : String) (args : List String)
  | fetch (template : String) (args : List String)
  | go (template : String) (args : List String)
  | setLocation (location : String)
  | register (template : String) (chains : List (RouteChain κ))
  | navigate (navigation : Navigation)
  | listen (limit : Nat)
  | closeLocation
  | dropNavigations

def Request.task (host : Host ε ν κ) : Request κ → Task (Hub ε ν κ) Unit
  | .subscribe template l => (fun _ => ()) <$> Bus.subscribe template l
  | .onReceive template => (fun _ => ()) <$> Bus.onReceive template
  | .drain id => (fun _ => ()) <$> Bus.drain id
  | .dropMailbox id => Bus.dropMailbox id
  | .dispatch m => (fun _ => ()) <$> Bus.dispatch host m
  | .receiveRaw text => (fun _ => ()) <$> Bus.receiveRaw host text
  | .openStream template args => (fun _ => ()) <$> Bus.openStream host template args
  | .closeStreams template args => (fun _ => ()) <$> Bus.closeStreams host template args
  | .fetch template args => (fun _ => ()) <$> Bus.fetch host template args
  | .go template args => (fun _ => ()) <$> Router.go template args
  | .setLocation location => .modify (Router.push location)
  | .register template chains => (fun _ => ()) <$> Router.register host template chains
  | .navigate navigation => (fun _ => ()) <$> Router.onNavigation host navigation
  | .listen limit => Router.listen host limit
  | .closeLocation => .modify fun hub => hub.withLocation hub.router.location.close
  | .dropNavigations => .modify fun hub => hub.withLocation hub.router.location.dropReceiver

inductive Linking : Hub ε ν κ → Hub ε ν κ → Prop
  | tell (event : Event) : event.ofConnection = true → Linking hub (hub.record event)
  | claim (key : String) : Linking hub (Bus.claim key hub).2
  | store (key : String) : Linking hub (Bus.store (Bus.mint key hub).1 (Bus.mint key hub).2).2
  | abandon (key : String) (failure : TransportFailure) :
      Linking hub (Bus.abandon key failure hub)
  | withdraw (template : Template) (target : Target) :
      Linking hub (Bus.withdraw template target hub).2

variable {ε ν κ α : Type} {hub hub' : Hub ε ν κ} {host : Host ε ν κ}
  {D : Hub ε ν κ → Hub ε ν κ → Prop} {P : ∀ {α : Type}, Task (Hub ε ν κ) α → Prop}

-- ---------------------------------------------------------------------------
-- Requests of a class
-- ---------------------------------------------------------------------------

theorem Request.within (served : Served D P host)
    (service : ∀ {hub hub'}, Service hub hub' → D hub hub') (request : Request κ)
    (mailboxes : ∀ template id, request = .subscribe template (.mailbox id) →
      P (Bus.subscribe template (.mailbox id))) : P (request.task host) := by
  cases request with
  | subscribe template l =>
    cases l with
    | mailbox id => exact served.map _ (mailboxes template id rfl)
    | external id => exact served.map _ (served.subscribe template id)
  | onReceive template => exact served.map _ (served.onReceive template)
  | drain id => exact served.map _ (served.drain id)
  | dropMailbox id => exact served.dropMailbox id
  | dispatch m => exact served.map _ (served.dispatch m)
  | receiveRaw text => exact served.map _ (served.receiveRaw text)
  | openStream template args => exact served.map _ (served.openStream template args)
  | closeStreams template args => exact served.map _ (served.closeStreams template args)
  | fetch template args => exact served.map _ (served.fetch template args)
  | go template args => exact served.map _ (served.go template args)
  | setLocation location => exact served.modify fun _ => served.routine (.push location)
  | register template chains =>
    exact served.map _ (served.register (fun _ _ => service (.addRoute _)) template chains)
  | navigate navigation => exact served.map _ (served.onNavigation navigation)
  | listen limit => exact served.listen service limit
  | closeLocation => exact served.modify fun _ => service .closeLocation
  | dropNavigations => exact served.modify fun _ => service .dropNavigations

-- ---------------------------------------------------------------------------
-- Away from the router
-- ---------------------------------------------------------------------------

def Entry.enrolled? : Entry ν → Option String
  | .event (.routeRegistered _ template) => some template
  | _ => none

def enrolled (history : List (Entry ν)) : List String := history.filterMap Entry.enrolled?

/-- Neither the router nor what the history says of routes is touched. -/
structure Unrouted (hub hub' : Hub ε ν κ) : Prop where
  router : hub'.router = hub.router
  enrolled : enrolled hub'.history = enrolled hub.history

theorem enrolled_record {event : Event} (h : event.ofRoute = false) (hub : Hub ε ν κ) :
    enrolled (hub.record event).history = enrolled hub.history := by
  cases event <;> first | rfl | cases h

theorem unrouted_record {event : Event} (h : event.ofRoute = false) (hub : Hub ε ν κ) :
    Unrouted hub (hub.record event) :=
  ⟨rfl, enrolled_record h hub⟩

theorem Unrouted.record {event : Event} (h : Unrouted hub hub') (he : event.ofRoute = false) :
    Unrouted hub (hub'.record event) :=
  ⟨h.router, (enrolled_record he hub').trans h.enrolled⟩

theorem unrouted_register (template : String) (l : Listener) :
    Unrouted hub (Bus.register template l hub).2 := by
  unfold Bus.register
  split
  · exact ⟨rfl, rfl⟩
  · rename_i topics joining _
    have added : Unrouted hub (hub.withTopics topics) := ⟨rfl, rfl⟩
    exact added.record (by cases joining <;> rfl)

theorem unrouted_lookup (host : Host ε ν κ) (source : String) :
    Unrouted hub (Bus.lookup host source hub).2 := by
  unfold Bus.lookup
  split
  · exact unrouted_record rfl hub
  · rename_i selection topics _
    have selected : Unrouted hub (hub.withTopics topics) := ⟨rfl, rfl⟩
    refine Unrouted.record ?_ (by split <;> rfl)
    split
    · exact selected
    · exact selected.record rfl

theorem unrouted_claim (key : String) : Unrouted hub (Bus.claim key hub).2 := by
  unfold Bus.claim
  split
  · exact unrouted_record rfl hub
  · split <;> exact ⟨rfl, rfl⟩

theorem unrouted_store (key : String) :
    Unrouted hub (Bus.store (Bus.mint key hub).1 (Bus.mint key hub).2).2 := by
  unfold Bus.store
  split <;> exact ⟨rfl, rfl⟩

theorem unrouted_withdraw (template : Template) (target : Target) :
    Unrouted hub (Bus.withdraw template target hub).2 := by
  unfold Bus.withdraw
  split <;> exact ⟨rfl, rfl⟩

theorem Postal.unrouted (h : Postal hub hub') : Unrouted hub hub' := by
  cases h with
  | lookup host source => exact unrouted_lookup host source
  | register template l => exact unrouted_register template l
  | receiver template hr =>
    have h : Unrouted hub (Bus.register template (.mailbox hub.bus.mailboxes.length) hub).2 :=
      unrouted_register ..
    rw [hr] at h
    exact ⟨h.router, h.enrolled⟩
  | put | empty | drop => exact ⟨rfl, rfl⟩

-- ---------------------------------------------------------------------------
-- Opens and closes
-- ---------------------------------------------------------------------------

theorem Linking.unrouted (h : Linking hub hub') : Unrouted hub hub' := by
  cases h with
  | tell event he => exact unrouted_record (by cases event <;> first | rfl | cases he) hub
  | claim key => exact unrouted_claim key
  | store key => exact unrouted_store key
  | abandon => exact ⟨rfl, rfl⟩
  | withdraw template target => exact unrouted_withdraw template target

section
variable (closed : Closed D P) (linking : ∀ {hub hub'}, Linking hub hub' → D hub hub')
  (disconnects : ∀ handle, P (host.disconnect handle))
include closed linking disconnects

theorem Closed.disconnect (handle : Handle) : P (Bus.disconnect host handle) :=
  closed.bind (closed.modify fun _ => linking (.tell _ rfl)) fun _ => disconnects handle

theorem Closed.openTarget {key : String}
    (connects : P (host.connect key (Bus.receiveChunk host key))) : P (Bus.openTarget host key) := by
  refine closed.bind (closed.atomically fun _ => linking (.claim key)) fun claimed => ?_
  cases claimed with
  | false => exact closed.done _
  | true =>
    refine closed.bind connects fun answer => ?_
    cases answer with
    | error refusal =>
      exact closed.bind (closed.modify fun _ => linking (.abandon _ _)) fun _ => closed.done _
    | ok =>
      refine closed.bind (closed.atomically fun _ => linking (.store key)) fun back => ?_
      cases back with
      | none => exact closed.done _
      | some handle =>
        refine closed.bind (closed.disconnect linking disconnects handle) fun _ => ?_
        exact closed.bind (closed.tell _ rfl) fun _ => closed.done _

theorem Closed.closeTarget (template : Template) (target : Target) :
    P (Bus.closeTarget host template target) := by
  have all : ∀ handles, P (Bus.disconnectAll host template handles) := by
    intro handles
    induction handles with
    | nil => exact closed.done ()
    | cons handle handles ih =>
      refine closed.bind (closed.disconnect linking disconnects handle) fun _ => ?_
      exact closed.bind (closed.modify fun _ => linking (.tell _ rfl)) fun _ => ih
  refine closed.bind (closed.atomically fun _ => linking (.withdraw _ _)) fun handles => ?_
  exact closed.bind (all handles) fun _ => closed.done _

end

/-- A host of a class that has the steps of opens and closes is served by it. -/
theorem Closed.served (closed : Closed D P)
    (linking : ∀ {hub hub'}, Linking hub hub' → D hub hub') (within : host.Within P) :
    Served D P host where
  toClosed := closed
  hears := within.hear
  requests := within.request
  performs := within.perform
  opens key := closed.openTarget linking within.disconnect
    (within.connect key _ (closed.receiveChunk within.hear key))
  closes := closed.closeTarget linking within.disconnect

end RouteBus
