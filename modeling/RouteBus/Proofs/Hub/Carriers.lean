import RouteBus.Proofs.Hub.Requests

/-!
# Carriers of messages

Groups and mailboxes belong to the bus. Whoever uses it adds listeners, has messages
dispatched and takes them out of mailboxes through its operations, and everything else
that is done leaves groups and mailboxes as they are.
-/

namespace RouteBus

def Entry.ofLookup : Entry ν → Bool
  | .event e => e.ofLookup
  | .note _ => false

def lookups (history : List (Entry ν)) : List (Entry ν) := history.filter Entry.ofLookup

structure Chore (hub hub' : Hub ε ν κ) : Prop where
  topics : hub'.bus.topics = hub.bus.topics
  mailboxes : hub'.bus.mailboxes = hub.bus.mailboxes
  lookups : lookups hub'.history = lookups hub.history

/-- A task that has to do with groups and mailboxes through the bus or not at all. Only the
bus puts mailboxes into groups. -/
inductive Carrier : {α : Type} → Task (Hub ε ν κ) α → Prop
  | done (value : α) : Carrier (.done value)
  | act : (∀ hub, Chore hub (effect hub)) → (∀ hub, Carrier (next hub)) →
      Carrier (.act effect next)
  | yield : Carrier rest → Carrier (.yield rest)
  | bind : Carrier t → (∀ value, Carrier (k value)) → Carrier (t >>= k)
  | both : Carrier t → Carrier u → Carrier (t.both u)
  | alternate : Carrier t → Carrier u → Carrier (t.alternate u)
  | dispatching {host : Host ε ν κ} : (∀ id m, Carrier (host.hear id m)) → ∀ m,
      Carrier (Bus.dispatch host m)
  | subscribing (template : String) (id : Nat) : Carrier (Bus.subscribe template (.external id))
  | receiving (template : String) : Carrier (Bus.onReceive template)
  | draining (id : Nat) : Carrier (Bus.drain id)
  | dropping (id : Nat) : Carrier (Bus.dropMailbox id)

variable {ε ν κ α : Type} {hub hub' : Hub ε ν κ} {host : Host ε ν κ}

-- ---------------------------------------------------------------------------
-- Chores
-- ---------------------------------------------------------------------------

theorem lookups_record (event : Event) (hub : Hub ε ν κ) :
    lookups (hub.record event).history =
      if event.ofLookup then .event event :: lookups hub.history else lookups hub.history :=
  List.filter_cons

theorem chore_record {event : Event} (h : event.ofLookup = false) (hub : Hub ε ν κ) :
    Chore hub (hub.record event) :=
  ⟨rfl, rfl, by simp [lookups_record, h]⟩

theorem Chore.trans {last : Hub ε ν κ} (h : Chore hub hub') (h' : Chore hub' last) :
    Chore hub last :=
  ⟨h'.topics.trans h.topics, h'.mailboxes.trans h.mailboxes, h'.lookups.trans h.lookups⟩

theorem chore_push (location : String) : Chore hub (Router.push location hub) := by
  have pushed : Chore hub (hub.withLocation (hub.router.location.push location)) := ⟨rfl, rfl, rfl⟩
  unfold Router.push
  dsimp only
  split
  · exact pushed.trans (chore_record rfl _)
  · exact (pushed.trans (chore_record rfl _)).trans (chore_record rfl _)

theorem chore_claim (key : String) : Chore hub (Bus.claim key hub).2 := by
  unfold Bus.claim
  split
  · exact chore_record rfl hub
  · split
    · exact chore_record rfl hub
    · rename_i connections _
      have claimed : Chore hub (hub.withConnections connections) := ⟨rfl, rfl, rfl⟩
      exact claimed.trans (chore_record rfl _)

theorem chore_store (key : String) :
    Chore hub (Bus.store (Bus.mint key hub).1 (Bus.mint key hub).2).2 := by
  have minted : Chore hub (Bus.mint key hub).2 := ⟨rfl, rfl, rfl⟩
  unfold Bus.store
  split <;> exact ⟨rfl, rfl, rfl⟩

theorem chore_withdraw (template : Template) (target : Target) :
    Chore hub (Bus.withdraw template target hub).2 := by
  unfold Bus.withdraw
  split <;> exact ⟨rfl, rfl, rfl⟩

theorem Routine.chore (h : Routine hub hub') : Chore hub hub' := by
  cases h with
  | stay => exact ⟨rfl, rfl, rfl⟩
  | tell event he =>
    simp only [Event.isPlain, Bool.and_eq_true, Bool.not_eq_true'] at he
    exact chore_record he.2 hub
  | push location => exact chore_push location

theorem Linking.chore (h : Linking hub hub') : Chore hub hub' := by
  cases h with
  | tell event he => exact chore_record (by cases event <;> first | rfl | cases he) hub
  | claim key => exact chore_claim key
  | store key => exact chore_store key
  | abandon => exact ⟨rfl, rfl, rfl⟩
  | withdraw template target => exact chore_withdraw template target

theorem Service.chore (h : Service hub hub') : Chore hub hub' := by
  cases h with
  | receive =>
    unfold Router.receive
    split <;> exact ⟨rfl, rfl, rfl⟩
  | closeLocation | dropNavigations | addRoute => exact ⟨rfl, rfl, rfl⟩

/-- A lookup that picks a group says so. -/
theorem lookups_announce (source : String) (s : Selection) (hub : Hub ε ν κ) :
    ∃ entry, lookups (Bus.announce source s hub).history = entry :: lookups hub.history := by
  have pruned : lookups (if s.pruned = 0 then hub
      else hub.record (.listenersPruned s.topic s.pruned)).history = lookups hub.history := by
    split
    · rfl
    · exact (chore_record rfl hub).lookups
  refine ⟨.event (if s.listeners.isEmpty then .groupEmpty s.topic source
    else .delivering s.topic source s.listeners.length), ?_⟩
  unfold Bus.announce
  dsimp only
  rw [lookups_record, if_pos (by split <;> rfl), pruned]

-- ---------------------------------------------------------------------------
-- What is asked of bus and router
-- ---------------------------------------------------------------------------

theorem Carrier.closed : Closed Chore (@Carrier ε ν κ) where
  routine := Routine.chore
  done := .done
  act := .act
  yield := .yield
  bind := .bind
  both := .both
  alternate := .alternate
  dispatches := .dispatching
  subscribe := .subscribing
  onReceive := .receiving
  drain := .draining
  dropMailbox := .dropping

/-- A request is carried out as the bus does if its host is of that kind, whatever it asks for. -/
theorem Request.carrier (within : host.Within (@Carrier ε ν κ)) (request : Request κ)
    (h : ∀ template id, request ≠ .subscribe template (.mailbox id)) :
    Carrier (request.task host) :=
  request.within (Carrier.closed.served Linking.chore within) Service.chore fun template id hr =>
    absurd hr (h template id)

end RouteBus
