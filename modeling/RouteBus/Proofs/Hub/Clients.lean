import RouteBus.Proofs.Hub.Classes

/-!
# Clients of the hub

Whoever uses bus and router does so through their operations. A client is a task made
of such operations and of steps that leave the connections alone, and a host is lawful
if all that it does is a client: it connects and closes through the bus or not at all.
-/

namespace RouteBus

inductive Deed : Hub ε ν κ → Hub ε ν κ → Prop
  | stay : Deed hub hub
  | own (state : ε) : Deed hub { hub with host := state }
  | note (note : ν) : Deed hub (hub.note note)
  | tell (event : Event) : event.ofConnection = false → Deed hub (hub.record event)
  | register (template : String) (l : Listener) : Deed hub (Bus.register template l hub).2
  | receiver (template : String) :
      Bus.register template (.mailbox hub.bus.mailboxes.length) hub = (.ok (), hub') →
      Deed hub (Bus.addMailbox hub')
  | lookup (host : Host ε ν κ) (source : String) : Deed hub (Bus.lookup host source hub).2
  | put (id : Nat) (m : Message) : Deed hub (Bus.onMailbox id (Mailbox.put m) hub)
  | empty (id : Nat) : Deed hub (Bus.onMailbox id Mailbox.emptied hub)
  | drop (id : Nat) : Deed hub (Bus.onMailbox id Mailbox.drop hub)
  | push (location : String) : Deed hub (Router.push location hub)
  | receive : Deed hub (Router.receive hub).2
  | closeLocation : Deed hub (hub.withLocation hub.router.location.close)
  | dropNavigations : Deed hub (hub.withLocation hub.router.location.dropReceiver)
  | addRoute (route : Route κ) : Deed hub (Router.addRoute route hub).2

/-- A task that opens and closes connections through the bus or not at all. -/
inductive Client : {α : Type} → Task (Hub ε ν κ) α → Prop
  | done (value : α) : Client (.done value)
  | act : (∀ hub, Deed hub (effect hub)) → (∀ hub, Client (next hub)) → Client (.act effect next)
  | yield : Client rest → Client (.yield rest)
  | bind : Client t → (∀ value, Client (k value)) → Client (t >>= k)
  | both : Client t → Client u → Client (t.both u)
  | alternate : Client t → Client u → Client (t.alternate u)
  | opening (host : Host ε ν κ) (key : String) :
      Client (host.connect key (Bus.receiveChunk host key)) →
      (∀ handle, Client (host.disconnect handle)) → Client (Bus.openTarget host key)
  | closing (host : Host ε ν κ) (template : Template) (target : Target) :
      (∀ handle, Client (host.disconnect handle)) → Client (Bus.closeTarget host template target)

/-- Transport, listeners and route steps of the host are clients of the hub. Bus and router
keep their state to themselves, so a host has no other way to it. -/
structure Host.Lawful (host : Host ε ν κ) : Prop where
  connect : ∀ key deliver, (∀ text, Client (deliver text)) → Client (host.connect key deliver)
  request : ∀ uri, Client (host.request uri)
  disconnect : ∀ handle, Client (host.disconnect handle)
  hear : ∀ id m, Client (host.hear id m)
  perform : ∀ step params, Client (host.perform step params)

variable {ε ν κ : Type} {hub hub' : Hub ε ν κ} {host : Host ε ν κ}

theorem Routine.deed (h : Routine hub hub') : Deed hub hub' := by
  cases h with
  | stay => exact .stay
  | tell event he =>
    simp only [Event.isPlain, Bool.and_eq_true, Bool.not_eq_true'] at he
    exact .tell event he.1.1
  | push location => exact .push location

theorem Postal.deed (h : Postal hub hub') : Deed hub hub' := by
  cases h with
  | lookup host source => exact .lookup host source
  | put id m => exact .put id m
  | register template l => exact .register template l
  | receiver template hr => exact .receiver template hr
  | empty id => exact .empty id
  | drop id => exact .drop id

theorem Service.deed (h : Service hub hub') : Deed hub hub' := by
  cases h with
  | receive => exact .receive
  | closeLocation => exact .closeLocation
  | dropNavigations => exact .dropNavigations
  | addRoute route => exact .addRoute route

theorem Client.closed : Closed Deed (@Client ε ν κ) :=
  Composed.closed ⟨Routine.deed, .done, .act, .yield, .bind, .both, .alternate⟩ Postal.deed

/-- All that is asked of bus and router of a lawful host is done as a client. -/
theorem Host.Lawful.served (lawful : host.Lawful) : Served Deed (@Client ε ν κ) host where
  toClosed := Client.closed
  hears := lawful.hear
  requests := lawful.request
  performs := lawful.perform
  opens key := .opening host key
    (lawful.connect key _ (Client.closed.receiveChunk lawful.hear key)) lawful.disconnect
  closes template target := .closing host template target lawful.disconnect

end RouteBus
