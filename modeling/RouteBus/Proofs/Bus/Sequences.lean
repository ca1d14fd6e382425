import RouteBus.Proofs.Bus.Mailboxes
import RouteBus.Proofs.Navigation.Fanout

/-!
# Receiving sequences get each message once

Whatever is done on the bus, the messages that a sequence has given and those that wait in it
are the ones that were put into its mailbox, in that order, and they are the ones that lookups
picked its group for, each once, up to those that tasks still have in hand.
-/

namespace RouteBus

open RouteBus.Task (Booked Told Trace Runs)

abbrev Course (ε ν κ : Type) := List (Act × Hub ε ν κ × Hub ε ν κ)

namespace Course

variable {ε ν κ : Type}

def reached (id : Nat) (steps : Course ε ν κ) : List Message :=
  steps.flatMap fun step => step.1.reached id

def drained (id : Nat) (steps : Course ε ν κ) : List (List Message) :=
  steps.flatMap fun step => step.1.drained id (step.2.1.bus.mailbox id)

def won (text : String) (steps : Course ε ν κ) : List Message :=
  steps.flatMap fun step => step.1.won text step.2.1.bus

def missed (text : String) (id : Nat) (steps : Course ε ν κ) : Bool :=
  steps.any fun step => step.1.misses text id step.2.1.bus

def start (last : Hub ε ν κ) : Course ε ν κ → Hub ε ν κ
  | [] => last
  | (_, hub, _) :: _ => hub

variable (a : Act) (hub hub' : Hub ε ν κ) (steps : Course ε ν κ)

@[simp] theorem reached_cons (id : Nat) :
    reached id ((a, hub, hub') :: steps) = a.reached id ++ steps.reached id := rfl

@[simp] theorem drained_cons (id : Nat) : drained id ((a, hub, hub') :: steps) =
    a.drained id (hub.bus.mailbox id) ++ steps.drained id := rfl

@[simp] theorem won_cons (text : String) :
    won text ((a, hub, hub') :: steps) = a.won text hub.bus ++ steps.won text := rfl

@[simp] theorem missed_cons (text : String) (id : Nat) : missed text id ((a, hub, hub') :: steps) =
    (a.misses text id hub.bus || steps.missed text id) := rfl

end Course

variable {ε ν κ α : Type} {hub hub' : Hub ε ν κ} {host : Host ε ν κ} {id : Nat} {text : String}
  {steps : Course ε ν κ} {held held' : Multiset Parcel}

-- ---------------------------------------------------------------------------
-- From the registration on
-- ---------------------------------------------------------------------------

theorem Posted.booked (h : Booked Posting hub held steps hub' held') (hp : Posted hub held) :
    Posted hub' held' := by
  induction h with
  | nil => exact hp
  | cons hd _ ih => exact ih (hp.deals hd)

namespace Course

theorem seat (h : Booked Posting hub held steps hub' held') (made : id < hub.bus.mailboxes.length)
    (hs : Topics.Seated text (.mailbox id) n hub.bus.topics) :
    Topics.Seated text (.mailbox id) (if steps.missed text id then 0 else n) hub'.bus.topics := by
  induction h generalizing n with
  | nil => exact hs
  | @cons a s _ _ _ steps _ _ hd _ ih =>
    obtain ⟨_, _, _, -, -, hp⟩ := hd
    have seated := ih (hp.mailbox made).1 (hp.seat made hs)
    cases hm : a.misses text id s.bus <;> simpa [hm] using seated

theorem dropped (h : Booked Posting hub held steps hub' held')
    (made : id < hub.bus.mailboxes.length) (hd : (hub.bus.mailbox id).dropped = true) :
    (hub'.bus.mailbox id).dropped = true := by
  induction h with
  | nil => exact hd
  | cons deal _ ih =>
    obtain ⟨_, _, _, -, -, hp⟩ := deal
    obtain ⟨there, box⟩ := hp.mailbox made
    refine ih there ?_
    rw [box]
    exact Act.dropped_upon _ hd

theorem alive_before (h : Booked Posting hub held steps hub' held')
    (made : id < hub.bus.mailboxes.length) (alive : (hub'.bus.mailbox id).dropped = false) :
    (hub.bus.mailbox id).dropped = false := by
  by_contra hd
  simp [dropped h made (Bool.not_eq_false _ ▸ hd)] at alive

/-- What waits in a mailbox and what comes into it is taken out in that order, or waits. -/
theorem fed (h : Booked Posting hub held steps hub' held') (made : id < hub.bus.mailboxes.length)
    (alive : (hub'.bus.mailbox id).dropped = false) :
    (hub.bus.mailbox id).waiting ++ steps.reached id =
      (steps.drained id).flatten ++ (hub'.bus.mailbox id).waiting := by
  induction h with
  | nil => simp [reached, drained]
  | @cons a s mid _ _ steps _ _ hd rest ih =>
    obtain ⟨_, _, _, -, -, hp⟩ := hd
    obtain ⟨there, box⟩ := hp.mailbox made
    have first := a.waiting_upon (box ▸ alive_before rest there alive)
    rw [reached_cons, drained_cons, ← List.append_assoc, first, ← box, List.append_assoc,
      ih there alive, List.flatten_append, List.append_assoc]

/-- What lookups pick the group for is put into the mailbox, or tasks have it in hand. -/
theorem paid (h : Booked Posting hub held steps hub' held') (made : id < hub.bus.mailboxes.length)
    (hs : Topics.Seated text (.mailbox id) 1 hub.bus.topics)
    (alive : (hub'.bus.mailbox id).dropped = false) :
    owed id held + steps.won text = steps.reached id + owed id held' := by
  induction h with
  | nil => simp [reached, won]
  | @cons a s mid _ _ steps _ _ hd rest ih =>
    obtain ⟨taken, given, more, rfl, rfl, hp⟩ := hd
    have there := (hp.mailbox made).1
    have alive_s := alive_before (.cons ⟨taken, given, more, rfl, rfl, hp⟩ rest) made alive
    have seated := hp.seat made hs
    -- a mailbox that is alive at the end was alive all the while, so its seat was never lost
    have kept : a.misses text id s.bus = false := by cases a <;> simp [Act.misses, alive_s]
    rw [kept] at seated
    have later := ih there seated alive
    have first := hp.owed alive_s hs
    rw [owed_add] at later ⊢
    rw [won_cons, reached_cons, ← Multiset.coe_add, ← Multiset.coe_add]
    calc owed id taken + owed id more + (a.won text s.bus + won text steps)
        = (owed id taken + a.won text s.bus) + (owed id more + won text steps) := by ac_rfl
      _ = a.reached id + (owed id given + owed id more + won text steps) := by rw [first]; ac_rfl
      _ = a.reached id + reached id steps + owed id _ := by rw [later, add_assoc]

end Course

-- ---------------------------------------------------------------------------
-- The whole of it
-- ---------------------------------------------------------------------------

/-- What the steps since its registration have done for the sequence of a mailbox: what it has
given and what waits in it, who has the rest in hand, and its place among the listeners. -/
structure Sequenced (template : String) (id : Nat) (since : Course ε ν κ) (held : Multiset Parcel)
    (hub : Hub ε ν κ) : Prop where
  items : (hub.bus.mailbox id).dropped = false →
    (since.drained id).flatten ++ (hub.bus.mailbox id).waiting = since.reached id
  once : (hub.bus.mailbox id).dropped = false →
    (since.won template : Multiset Message) = since.reached id + owed id held
  uncounted : (hub.bus.mailbox id).dropped = true →
    ∀ (host : Host ε ν κ) rely m topic n last,
      Runs rely (Bus.dispatch host m) hub (.delivered topic n) last →
        ∃ listeners mid, n = listeners.length ∧ .mailbox id ∉ listeners ∧
          Bus.HandedTo host rely m listeners mid last
  seat : Topics.Seated template (.mailbox id) (if since.missed template id then 0 else 1)
    hub.bus.topics

theorem Bus.uncounted (dropped : (hub.bus.mailbox id).dropped = true)
    (h : Runs rely (Bus.dispatch host m) hub (.delivered topic n) last) :
    ∃ listeners mid, n = listeners.length ∧ .mailbox id ∉ listeners ∧
      Bus.HandedTo host rely m listeners mid last := by
  cases Bus.runs_dispatch.mp h with
  | delivered _ _ _ handed =>
    exact ⟨_, _, rfl, by simp [Bus.isClosed, dropped], handed⟩

theorem Posted.sequenced (hp : Posted hub held)
    (registered : Bus.register template (.mailbox hub.bus.mailboxes.length) hub = (.ok (), mid))
    (h : Booked Posting (Bus.addMailbox mid) held steps hub' held') :
    Sequenced template hub.bus.mailboxes.length steps held' hub' := by
  obtain ⟨groups, joining, hj, rfl⟩ := Bus.register_ok registered
  have made : hub.bus.mailboxes.length < (Bus.addMailbox ((hub.withTopics groups).record
      (Bus.joiningEvent template joining))).bus.mailboxes.length := by
    rw [Bus.length_addMailbox]
    exact Nat.lt_succ_self _
  -- nobody knows of the mailbox yet: no group has it, and no task has a message for it
  have fresh : .mailbox hub.bus.mailboxes.length ∉ Topics.members hub.bus.topics :=
    fun hm => Nat.lt_irrefl _ (hp.listeners _ hm)
  have seated := Topics.Seated.of_subscribe hp.once fresh hj
  have empty : (Bus.addMailbox ((hub.withTopics groups).record
      (Bus.joiningEvent template joining))).bus.mailbox hub.bus.mailboxes.length = .empty := by
    simp [Bus.mailbox, Bus.addMailbox, Hub.record, Hub.withTopics]
  have none_owed : owed hub.bus.mailboxes.length held = 0 := by
    have apart : held.filter (·.mailbox = hub.bus.mailboxes.length) = 0 :=
      Multiset.filter_eq_nil.mpr fun parcel hm => (hp.parcels parcel hm).ne
    rw [owed, apart]
    rfl
  refine ⟨fun alive => ?_, fun alive => ?_, fun dropped _ _ _ _ _ _ => Bus.uncounted dropped,
    Course.seat h made seated⟩
  · have fed := Course.fed h made alive
    rw [empty] at fed
    simpa [Mailbox.empty] using fed.symm
  · have paid := Course.paid h made seated alive
    rwa [none_owed, zero_add] at paid

/-- The steps of a trace, each with what its task was about to do, and what tasks have in hand
at the end. They account for each sequence, at each moment since its mailbox was made. -/
structure Recounts (tasks : List (Task (Hub ε ν κ) α)) (hub : Hub ε ν κ)
    (trace : List (Nat × Hub ε ν κ × Hub ε ν κ)) (tasks' : List (Task (Hub ε ν κ) α))
    (hub' : Hub ε ν κ) (steps : Course ε ν κ) (shares : List (Multiset Parcel)) : Prop where
  told : Told Act.Of tasks hub steps tasks' hub'
  same : steps.map Prod.snd = trace.map Prod.snd
  lookups : ∀ step ∈ steps, (∃ m, step.1 = .lookup m) ↔
    lookups step.2.2.history ≠ lookups step.2.1.history
  hands : List.Forall₂ Delivers shares tasks'
  ended : (∀ t ∈ tasks', ∃ value, t = .done value) → shares.sum = 0
  sequences : ∀ before a p q since rest, steps = before ++ (a, p, q) :: (since ++ rest) →
    q.bus.mailboxes.length ≠ p.bus.mailboxes.length →
    ∃ template held, a = .receive template ∧
      (Bus.onReceive template).run p = (.ok p.bus.mailboxes.length, q) ∧
      Sequenced template p.bus.mailboxes.length since held (Course.start hub' rest) ∧
      (rest = [] → held = shares.sum)

theorem Posted.sequences (start : Posted hub held)
    (booked : Booked Posting hub held (before ++ (a, p, q) :: (since ++ rest)) hub' held')
    (hl : q.bus.mailboxes.length ≠ p.bus.mailboxes.length) :
    ∃ template own, a = .receive template ∧
      (Bus.onReceive template).run p = (.ok p.bus.mailboxes.length, q) ∧
      Sequenced template p.bus.mailboxes.length since own (Course.start hub' rest) ∧
      (rest = [] → own = held') := by
  -- up to the registration, the step itself, and what was done since, up to the moment looked at
  obtain ⟨mid, between, first, later⟩ := booked.split
  obtain _ | ⟨⟨taken, given, kept, rfl, rfl, hd⟩, later⟩ := later
  obtain ⟨rfl, rfl, template, registered, rfl, hr, rfl⟩ := hd.receives hl
  have posted := start.booked first
  rw [zero_add] at posted later
  obtain ⟨now, own, since, rest⟩ := later.split
  have run : (Bus.onReceive template).run p =
      (.ok p.bus.mailboxes.length, Bus.addMailbox registered) := by
    simp [Bus.onReceive, Task.atomically, Task.run, hr]
  cases rest with
  | nil => exact ⟨template, _, rfl, run, posted.sequenced hr since, fun _ => rfl⟩
  | cons => exact ⟨template, own, rfl, run, posted.sequenced hr since, fun he => by cases he⟩

-- ---------------------------------------------------------------------------
-- Models
-- ---------------------------------------------------------------------------

namespace Rehearsal

def Item.model? (name : String) : Item → Option Item
  | .message m => (m.modelData? name).map .data
  | .data _ => none

/-- A sequence of models is a sequence of messages from the topic of models, read for the data
of those that carry the model. -/
structure Modelled (name : String) : Prop where
  registered : ∀ host key sink hub,
    ((performStep host (.onModel name key sink)).run hub).2.bus =
      ((performStep host (.onReceive "/template" key sink)).run hub).2.bus
  items : ∀ mailbox (batches : List (List Message)),
    batches.flatMap (Receiver.items ⟨mailbox, some name⟩) =
      (batches.flatMap (Receiver.items ⟨mailbox, none⟩)).filterMap (Item.model? name)
  data : ∀ m d, Message.modelData? name m = some d ↔
    ∃ members, m.payload = .obj members ∧ member? members "name" = some (.str name) ∧
      d = (member? members "data").getD .null

theorem bus_keepReceiver (key : String) (sink : Bool) (mailbox : Nat) (model other : Option String)
    (hub : Staging) : ((keepReceiver key sink ⟨mailbox, model⟩).run hub).2.bus =
      ((keepReceiver key sink ⟨mailbox, other⟩).run hub).2.bus := by
  cases sink with
  | true => rfl
  | false =>
    simp only [keepReceiver, Bool.false_eq_true, if_false, Task.run_bind, readScene, Task.read,
      Task.run]
    cases hub.host.receivers.lookup key <;> rfl

theorem bus_receive (template key : String) (sink : Bool) (model other : Option String)
    (hub : Staging) : ((receive template key model sink).run hub).2.bus =
      ((receive template key other sink).run hub).2.bus := by
  unfold receive
  rw [Task.run_bind, Task.run_bind]
  cases ((Bus.onReceive template).run hub).1 with
  | error e => rfl
  | ok mailbox =>
    simp only [Task.run_bind]
    exact bus_keepReceiver ..

theorem modelData_eq_some_iff {name : String} {m : Message} {d : Json} :
    Message.modelData? name m = some d ↔
      ∃ members, m.payload = .obj members ∧ member? members "name" = some (.str name) ∧
        d = (member? members "data").getD .null := by
  unfold Message.modelData?
  cases m.payload with
  | obj members =>
    have named : (member? members "name").bind Json.asString? = some name ↔
        member? members "name" = some (.str name) := by
      cases member? members "name" with
      | none => simp
      | some value => cases value <;> simp [Json.asString?]
    simp only [Json.get?, named, Option.ite_none_right_eq_some, Option.some.injEq, Json.obj.injEq,
      exists_eq_left']
    exact and_congr_right fun _ => eq_comm
  | _ => simp [Json.get?]

theorem modelled (name : String) : Modelled name where
  registered _ key sink hub := by
    simp only [performStep]
    exact bus_receive ..
  items mailbox batches := by
    induction batches with
    | nil => rfl
    | cons batch batches ih =>
      rw [List.flatMap_cons, List.flatMap_cons, List.filterMap_append, ih]
      congr 1
      simp [Receiver.items, List.filterMap_map, Function.comp_def, Item.model?]
  data _ _ := modelData_eq_some_iff

end Rehearsal

namespace Rehearsal

theorem host_carrier : Rehearsal.host.Within (@Carrier Scene Note Device) :=
  hostOfDepth_within Carrier.closed Linking.chore Service.chore (fun _ _ => ⟨rfl, rfl, rfl⟩)
    (fun _ _ => ⟨rfl, rfl, rfl⟩) scriptLimit

def news (page : String) : Message := ⟨some ("news/" ++ page), .null⟩

def reading : List (Request Device) :=
  [.onReceive "news/:id", .dispatch (news "1"), .drain 0, .dropMailbox 1, .dispatch (news "2")]

def newsAwaited : Staging := ((Bus.onReceive "news/:id").run (.new "bus" "/" .new)).2

def newsRead : Staging := carriedOut Rehearsal.host reading newsAwaited

end Rehearsal

end RouteBus
