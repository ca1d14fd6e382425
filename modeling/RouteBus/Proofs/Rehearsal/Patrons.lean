import RouteBus.Proofs.Bus.Deals
import RouteBus.Proofs.Rehearsal.Lawful

/-!
# Patrons of the wire

Tasks of a rehearsal that connect and disconnect through the bus alone. A connect may suspend,
and deliver what arrives, on either side of the step in which it uses the wire; a disconnect
does not suspend.
-/

namespace RouteBus.Rehearsal

def link (before : Task Staging Unit) (key : String) (after : Task Staging Unit) :
    Task Staging (Except TransportFailure Unit) := do
  before
  match ← onWire (Wire.connect key) with
  | .error refusal => return .error refusal
  | .ok () => (fun _ => .ok ()) <$> after

def unlink (key : String) : Task Staging Unit := do
  note (.disconnecting key)
  onWire fun wire => ((), wire.disconnect key)

structure Gentle (hub hub' : Staging) : Prop extends Aside hub hub' where
  live : hub'.host.wire.live = hub.host.wire.live
  connects : hub'.host.wire.connects = hub.host.wire.connects

/-- A task that connects and disconnects through the bus alone. -/
inductive Patron : {α : Type} → Task Staging α → Prop
  | done (value : α) : Patron (.done value)
  | act : (∀ hub, Gentle hub (effect hub)) → (∀ hub, Patron (next hub)) → Patron (.act effect next)
  | yield : Patron rest → Patron (.yield rest)
  | bind : Patron t → (∀ value, Patron (k value)) → Patron (t >>= k)
  | both : Patron t → Patron u → Patron (t.both u)
  | alternate : Patron t → Patron u → Patron (t.alternate u)
  | opening (host : Host Scene Note Device) (key : String) :
      host.connect key (Bus.receiveChunk host key) = link before key after →
      Patron before → Patron after → Patron (Bus.openTarget host key)
  | closing (host : Host Scene Note Device) (template : Template) (target : Target) :
      (∀ handle, host.disconnect handle = unlink handle.key) →
      Patron (Bus.closeTarget host template target)

/-- The transport of the host is the wire, and all else that it does is done by patrons. -/
structure Prompt (host : Host Scene Note Device) : Prop where
  connect : ∀ key deliver, (∀ text, Patron (deliver text)) → ∃ before after,
    host.connect key deliver = link before key after ∧ Patron before ∧ Patron after
  disconnect : ∀ handle, host.disconnect handle = unlink handle.key
  request : ∀ uri, Patron (host.request uri)
  hear : ∀ id m, Patron (host.hear id m)
  perform : ∀ step params, Patron (host.perform step params)

variable {hub hub' : Staging} {host : Host Scene Note Device}

theorem host_push (location : String) : (Router.push location hub).host = hub.host := by
  unfold Router.push
  dsimp only
  split <;> rfl

theorem host_register (template : String) (l : Listener) (hub : Staging) :
    (Bus.register template l hub).2.host = hub.host := by
  unfold Bus.register
  split <;> rfl

theorem gentle_record (event : Event) (h : event.ofConnection = false) :
    Gentle hub (hub.record event) :=
  ⟨.of_record h rfl rfl rfl, rfl, rfl⟩

theorem Gentle.of_deed (h : Deed hub hub') (hs : hub'.host = hub.host) : Gentle hub hub' :=
  ⟨h.aside, by rw [hs], by rw [hs]⟩

theorem Routine.gentle (h : Routine hub hub') : Gentle hub hub' := by
  refine .of_deed h.deed ?_
  cases h with
  | stay | tell => rfl
  | push location => exact host_push location

theorem Postal.gentle (h : Postal hub hub') : Gentle hub hub' := by
  refine .of_deed h.deed ?_
  cases h with
  | lookup host source =>
    unfold Bus.lookup
    split
    · rfl
    · unfold Bus.announce
      dsimp only [Hub.record]
      split <;> rfl
  | register template l => exact host_register template l hub
  | receiver template hr =>
    have h := host_register template (.mailbox hub.bus.mailboxes.length) hub
    rwa [hr] at h
  | put | empty | drop => rfl

theorem Service.gentle (h : Service hub hub') : Gentle hub hub' := by
  refine .of_deed h.deed ?_
  cases h with
  | receive =>
    unfold Router.receive
    split <;> rfl
  | closeLocation | dropNavigations | addRoute => rfl

theorem Scenic.gentle (h : Scenic hub hub') : Gentle hub hub' := by
  refine ⟨h.deed.aside, ?_, ?_⟩
  · cases h with
    | note => rfl
    | scene scene live => exact live
  · cases h with
    | note => rfl
    | scene scene live connects => exact connects

theorem Patron.closed : Closed Gentle (@Patron) :=
  Composed.closed ⟨Routine.gentle, .done, .act, .yield, .bind, .both, .alternate⟩ Postal.gentle

theorem Prompt.served (prompt : Prompt host) : Served Gentle (@Patron) host where
  toClosed := Patron.closed
  hears := prompt.hear
  requests := prompt.request
  performs := prompt.perform
  opens key := by
    obtain ⟨before, after, hc, hb, ha⟩ :=
      prompt.connect key _ (Patron.closed.receiveChunk prompt.hear key)
    exact .opening host key hc hb ha
  closes template target := .closing host template target prompt.disconnect

-- ---------------------------------------------------------------------------
-- The host
-- ---------------------------------------------------------------------------

def approach (key : String) : Task Staging Unit := do
  note (.connecting key)
  Task.pause (← readScene (·.connectYields))

def arrivals (key : String) (deliver : String → Task Staging Unit) : Task Staging Unit := do
  deliverAll deliver (← readScene fun scene => (scene.eager.lookup key).getD [])

theorem connect_eq (key : String) (deliver : String → Task Staging Unit) :
    connect key deliver = link (approach key) key (arrivals key deliver) := by
  simp only [connect, link, approach, arrivals, bind_assoc]
  rfl

theorem hostWith_prompt (hs : ∀ id steps, Patron (runner id steps)) :
    Prompt (hostWith runner) where
  connect key deliver hd := by
    refine ⟨_, _, connect_eq key deliver, ?_, ?_⟩
    · refine Patron.closed.bind (within_note Patron.closed Scenic.gentle _) fun _ => ?_
      exact Patron.closed.bind (Patron.closed.read _) fun _ => Patron.closed.pause _
    · exact Patron.closed.bind (Patron.closed.read _) fun _ => within_deliverAll Patron.closed hd _
  disconnect _ := rfl
  request := within_request Patron.closed Scenic.gentle
  hear := within_hear Patron.closed Scenic.gentle hs
  perform := within_performDevice Patron.closed Scenic.gentle hs

theorem hostOfDepth_prompt (depth : Nat) : Prompt (hostOfDepth depth) := by
  induction depth with
  | zero => exact hostWith_prompt fun id _ => within_note Patron.closed Scenic.gentle _
  | succ depth ih =>
    exact hostWith_prompt fun id steps =>
      within_runScript ih.served Scenic.gentle Service.gentle id steps

end RouteBus.Rehearsal
