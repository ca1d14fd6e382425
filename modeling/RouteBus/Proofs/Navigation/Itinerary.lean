import RouteBus.Proofs.Navigation.Arrivals
import RouteBus.Proofs.Task.Upkeep

/-!
# The itinerary

Navigations that a location tells of form an unbroken itinerary, and whoever receives them gets
a beginning of it. A push first puts the new token in place and then sends the navigation, so
this hangs on nobody coming in between.
-/

namespace RouteBus

open RouteBus.Task (Trace Turns Undisturbed Upkeep Clears)

namespace Location

-- ---------------------------------------------------------------------------
-- The two halves of a push
-- ---------------------------------------------------------------------------

def replace (l : Location) (text : String) : Navigation × Location :=
  (⟨l.current, stripMarker text⟩, { l with current := stripMarker text })

/-- Queues a navigation if anybody can receive it, and says whether it did. -/
def send (l : Location) (n : Navigation) : Bool × Location :=
  if l.notifies then (true, { l with queue := l.queue ++ [n] }) else (false, l)

theorem notifies_push (l : Location) (text : String) : (l.push text).notifies = l.notifies := rfl

theorem notifies_replace (l : Location) (text : String) :
    (l.replace text).2.notifies = l.notifies := rfl

theorem send_replace (l : Location) (text : String) :
    (l.replace text).2.send (l.replace text).1 = (l.notifies, l.push text) := by
  rw [send, notifies_replace, push]
  cases l.notifies <;> rfl

theorem received_of_notifies {l : Location} (h : l.notifies = true) : l.received = true :=
  ((Bool.and_eq_true ..).mp h).2

theorem next?_eq_some {l l' : Location} (h : l.next? = some (n, l')) :
    ∃ queue, l.queue = n :: queue ∧ l' = { l with queue } := by
  unfold next? at h
  split at h
  · cases h
  · rename_i hq
    obtain ⟨rfl, rfl⟩ := Prod.mk.inj (Option.some.inj h)
    exact ⟨_, hq, rfl⟩

end Location

namespace Itinerary

open Location (notifies_push received_of_notifies)

-- ---------------------------------------------------------------------------
-- Logs
-- ---------------------------------------------------------------------------

inductive Occurrence where
  | moved (text : String)
  | sent (navigation : Navigation)
  | unsent (navigation : Navigation)
  | closed
  | dropped
  | received (navigation : Navigation)
  | looked (token : String)
  deriving DecidableEq, Repr

namespace Occurrence

def pushed? : Occurrence → Option String
  | .moved text => some text
  | _ => none

def sent? : Occurrence → Option Navigation
  | .sent navigation => some navigation
  | _ => none

def received? : Occurrence → Option Navigation
  | .received navigation => some navigation
  | _ => none

def ends : Occurrence → Bool
  | .closed | .dropped => true
  | _ => false

def ofSending (n : Navigation) : Bool → Occurrence
  | true => .sent n
  | false => .unsent n

end Occurrence

/-- The oldest first. -/
abbrev Log := List Occurrence

def pushes (log : Log) : List String := log.filterMap Occurrence.pushed?

def sendings (log : Log) : List Navigation := log.filterMap Occurrence.sent?

def receipts (log : Log) : List Navigation := log.filterMap Occurrence.received?

/-- The queue is neither closed nor without receiver. -/
def Lasting (log : Log) : Prop := ∀ o ∈ log, o.ends = false

def lasting (log : Log) : Log := log.takeWhile (!·.ends)

/-- The token of the text that was pushed last, or of the initial one. -/
def token (initial : String) (log : Log) : String :=
  stripMarker ((pushes log).getLast?.getD initial)

/-- Each navigation begins where the one before it ended. -/
def Unbroken : String → List Navigation → Prop
  | _, [] => True
  | start, n :: ns => n.previous = start ∧ Unbroken n.current ns

def destination (start : String) (ns : List Navigation) : String :=
  (ns.getLast?.map (·.current)).getD start

/-- Whoever looked has seen where the pushes before had led, and the navigations too as long as
the queue lasted. -/
def Seen (initial : String) (log : Log) : Prop :=
  ∀ before seen, before ++ [.looked seen] <+: log → seen = token initial before ∧
    (Lasting before → seen = destination (stripMarker initial) (sendings before))

structure Diary where
  location : Location
  log : Log

structure Kept (initial : String) (d : Diary) : Prop where
  unbroken : Unbroken (stripMarker initial) (sendings d.log)
  /-- One navigation for each push as long as the queue lasted, and none for any other. -/
  one_each : (sendings d.log).map (·.current) = (pushes (lasting d.log)).map stripMarker
  /-- While there is a receiver, what is sent and not received is in the queue. -/
  queued : d.location.received = true → sendings d.log = receipts d.log ++ d.location.queue
  emptied : d.location.received = false → d.location.queue = []
  in_order : receipts d.log <+: sendings d.log
  here : d.location.current = token initial d.log
  notifies : d.location.notifies = true ↔ Lasting d.log
  looks : Seen initial d.log

/-- The same, and that the location is where the navigations lead as long as the queue lasts. -/
structure Sound (initial : String) (d : Diary) : Prop extends Kept initial d where
  level : Lasting d.log →
    d.location.current = destination (stripMarker initial) (sendings d.log)

/-- What one operation does to a location, and what the log says of it. -/
inductive Fares : Location → Log → Location → Prop
  | still : Fares l [] l
  | push (text : String) : Fares l
      [.moved text, .ofSending ⟨l.current, stripMarker text⟩ l.notifies] (l.push text)
  | close : Fares l [.closed] l.close
  | drop : Fares l [.dropped] l.dropReceiver
  | receive : l.next? = some (n, l') → Fares l [.received n] l'
  | look : Fares l [.looked l.current] l

-- ---------------------------------------------------------------------------
-- Those who come to a location
-- ---------------------------------------------------------------------------

namespace Diary

def new (initial : String) : Diary := ⟨.new initial, []⟩

def replace (text : String) (d : Diary) : Navigation × Diary :=
  let (n, location) := d.location.replace text
  (n, ⟨location, d.log ++ [.moved text]⟩)

def send (n : Navigation) (d : Diary) : Diary :=
  let (sent, location) := d.location.send n
  ⟨location, d.log ++ [.ofSending n sent]⟩

def close (d : Diary) : Diary := ⟨d.location.close, d.log ++ [.closed]⟩

def dropReceiver (d : Diary) : Diary := ⟨d.location.dropReceiver, d.log ++ [.dropped]⟩

def receive (d : Diary) : Option Navigation × Diary :=
  match d.location.next? with
  | none => (none, d)
  | some (n, location) => (some n, ⟨location, d.log ++ [.received n]⟩)

def look (d : Diary) : String × Diary :=
  (d.location.current, ⟨d.location, d.log ++ [.looked d.location.current]⟩)

end Diary

def pushing (text : String) : Task Diary Unit := do
  let n ← Task.atomically (Diary.replace text)
  Task.modify (Diary.send n)

/-- A task that does nothing to a location but what anybody may. -/
inductive Visitor : {α : Type} → Task Diary α → Prop
  | done (value : α) : Visitor (.done value)
  | yield : Visitor rest → Visitor (.yield rest)
  | bind : Visitor t → (∀ value, Visitor (k value)) → Visitor (t >>= k)
  | both : Visitor t → Visitor u → Visitor (t.both u)
  | alternate : Visitor t → Visitor u → Visitor (t.alternate u)
  | read (f : Location → α) : Visitor (.read fun d => f d.location)
  | push (text : String) : Visitor (pushing text)
  | close : Visitor (.modify Diary.close)
  | dropReceiver : Visitor (.modify Diary.dropReceiver)
  | receive : Visitor (.atomically Diary.receive)
  | look : Visitor (.atomically Diary.look)

/-- A token is put in place, and the navigation is not sent yet. -/
def Amid (d : Diary) : Prop := ∃ text, d.log.getLast? = some (.moved text)

def upkeep (initial : String) : Upkeep Diary Empty where
  holds d _ := Kept initial d
  busy := Amid

def Sails (hub hub' : Hub ε ν κ) : Prop :=
  ∃ log, Fares hub.router.location log hub'.router.location

inductive Recounts : List (Nat × Hub ε ν κ × Hub ε ν κ) → Log → Prop
  | nil : Recounts [] []
  | step : Fares hub.router.location more hub'.router.location → Recounts trace log →
      Recounts ((i, hub, hub') :: trace) (more ++ log)

-- ---------------------------------------------------------------------------
-- What a log tells
-- ---------------------------------------------------------------------------

variable {initial text : String} {log more : Log} {d : Diary} {n : Navigation} {o : Occurrence}
  {l l' : Location}

@[simp] theorem pushes_append (log more : Log) : pushes (log ++ more) = pushes log ++ pushes more :=
  List.filterMap_append ..

@[simp] theorem sendings_append (log more : Log) :
    sendings (log ++ more) = sendings log ++ sendings more :=
  List.filterMap_append ..

@[simp] theorem receipts_append (log more : Log) :
    receipts (log ++ more) = receipts log ++ receipts more :=
  List.filterMap_append ..

@[simp] theorem pushes_cons (o : Occurrence) (log : Log) :
    pushes (o :: log) = o.pushed?.toList ++ pushes log := by
  cases h : o.pushed? <;> simp [pushes, h]

@[simp] theorem sendings_cons (o : Occurrence) (log : Log) :
    sendings (o :: log) = o.sent?.toList ++ sendings log := by
  cases h : o.sent? <;> simp [sendings, h]

@[simp] theorem receipts_cons (o : Occurrence) (log : Log) :
    receipts (o :: log) = o.received?.toList ++ receipts log := by
  cases h : o.received? <;> simp [receipts, h]

@[simp] theorem pushes_nil : pushes [] = [] := rfl
@[simp] theorem sendings_nil : sendings [] = [] := rfl
@[simp] theorem receipts_nil : receipts [] = [] := rfl

@[simp] theorem lasting_nil : Lasting [] := List.forall_mem_nil _

@[simp] theorem lasting_cons_iff : Lasting (o :: log) ↔ o.ends = false ∧ Lasting log :=
  List.forall_mem_cons

@[simp] theorem lasting_append_iff : Lasting (log ++ more) ↔ Lasting log ∧ Lasting more :=
  List.forall_mem_append

theorem destination_eq (start : String) (ns : List Navigation) :
    destination start ns = (ns.map (·.current)).getLast?.getD start := by
  rw [destination, List.getLast?_map]

theorem unbroken_append (start : String) (ns : List Navigation) (n : Navigation) :
    Unbroken start (ns ++ [n]) ↔ Unbroken start ns ∧ n.previous = destination start ns := by
  induction ns generalizing start with
  | nil => simp [Unbroken, destination]
  | cons first ns ih =>
    have onward : destination start (first :: ns) = destination first.current ns := by
      cases ns <;> simp [destination, List.getLast?_cons]
    rw [List.cons_append, Unbroken, Unbroken, ih, onward, and_assoc]

theorem lasting_eq (h : Lasting log) : lasting log = log :=
  List.takeWhile_eq_self_iff.mpr fun o ho => by simp [h o ho]

theorem lasting_append_of_ended (h : ¬ Lasting log) (more : Log) :
    lasting (log ++ more) = lasting log := by
  induction log with
  | nil => exact absurd (by simp [Lasting]) h
  | cons o log ih =>
    cases ho : o.ends with
    | true => simp [lasting, ho]
    | false =>
      have rest : ¬ Lasting log := fun hl => h (List.forall_mem_cons.mpr ⟨ho, hl⟩)
      have := ih rest
      simpa [lasting, ho] using this

/-- Entries that tell of no push say nothing of which pushes came before the end. -/
theorem pushes_lasting_append (h : pushes more = []) :
    pushes (lasting (log ++ more)) = pushes (lasting log) := by
  by_cases hl : Lasting log
  · have all : ∀ o ∈ log, (!o.ends) = true := fun o ho => by simp [hl o ho]
    have none : pushes (lasting more) = [] := by
      refine List.filterMap_eq_nil_iff.mpr fun o ho => ?_
      exact List.filterMap_eq_nil_iff.mp h o (List.takeWhile_prefix _ |>.subset ho)
    have split : lasting (log ++ more) = log ++ lasting more :=
      List.takeWhile_append_of_pos all
    rw [split, pushes_append, none, List.append_nil, lasting_eq hl]
  · rw [lasting_append_of_ended hl]

theorem token_append (h : pushes more = []) : token initial (log ++ more) = token initial log := by
  rw [token, token, pushes_append, h, List.append_nil]

theorem token_moved (ho : o.pushed? = none) :
    token initial (log ++ [.moved text] ++ [o]) = stripMarker text := by
  rw [token_append (by simp [ho])]
  simp [token, Occurrence.pushed?]

theorem Seen.append (h : Seen initial log) (ho : ∀ seen, o = .looked seen →
    seen = token initial log ∧
      (Lasting log → seen = destination (stripMarker initial) (sendings log))) :
    Seen initial (log ++ [o]) := by
  intro before seen hp
  rcases List.prefix_concat_iff.mp hp with he | hp
  · obtain ⟨rfl, last⟩ := List.append_inj' he rfl
    exact ho seen (List.singleton_inj.mp last.symm)
  · exact h before seen hp

theorem Seen.append_other (h : Seen initial log) (ho : ∀ seen, o ≠ .looked seen) :
    Seen initial (log ++ [o]) :=
  h.append fun seen he => absurd he (ho seen)

-- ---------------------------------------------------------------------------
-- One operation
-- ---------------------------------------------------------------------------

theorem Kept.level (h : Kept initial d) (hl : Lasting d.log) :
    d.location.current = destination (stripMarker initial) (sendings d.log) := by
  rw [h.here, destination_eq, h.one_each, lasting_eq hl, List.getLast?_map, token]
  cases (pushes d.log).getLast? <;> rfl

theorem Kept.sound (h : Kept initial d) : Sound initial d := ⟨h, h.level⟩

theorem kept_new (initial : String) : Kept initial ⟨.new initial, []⟩ where
  unbroken := trivial
  one_each := rfl
  queued _ := rfl
  emptied _ := rfl
  in_order := List.nil_prefix
  here := rfl
  notifies := iff_of_true rfl (by simp [Lasting])
  looks before seen hp := by simp at hp

/-- Nothing is pushed or sent. -/
theorem Kept.aside (h : Kept initial ⟨l, log⟩) (pushed : o.pushed? = none) (sent : o.sent? = none)
    (current : l'.current = l.current) (emptied : l'.received = false → l'.queue = [])
    (queued : l'.received = true → sendings log = receipts (log ++ [o]) ++ l'.queue)
    (in_order : receipts (log ++ [o]) <+: sendings log)
    (notifies : l'.notifies = true ↔ Lasting (log ++ [o]))
    (looked : ∀ seen, o = .looked seen → seen = l.current) : Kept initial ⟨l', log ++ [o]⟩ := by
  have pushes : pushes [o] = [] := by simp [pushed]
  have sendings : sendings (log ++ [o]) = sendings log := by simp [sent]
  exact {
    unbroken := by rw [sendings]; exact h.unbroken
    one_each := by rw [sendings, pushes_lasting_append pushes]; exact h.one_each
    queued := fun hr => by rw [sendings]; exact queued hr
    emptied := emptied
    in_order := by rw [sendings]; exact in_order
    here := by rw [token_append pushes, current]; exact h.here
    notifies := notifies
    looks := h.looks.append fun seen he => looked seen he ▸ ⟨h.here, h.level⟩ }

attribute [simp] Occurrence.pushed? Occurrence.sent? Occurrence.received? Occurrence.ends
  Occurrence.ofSending

theorem Kept.push_sent (h : Kept initial ⟨l, log⟩) (hn : l.notifies = true) (text : String) :
    Kept initial ⟨l.push text,
      log ++ [.moved text] ++ [.sent ⟨l.current, stripMarker text⟩]⟩ := by
  have lasts : Lasting log := h.notifies.mp hn
  have level : l.current = destination (stripMarker initial) (sendings log) := h.level lasts
  have each := h.one_each
  rw [lasting_eq lasts] at each
  exact {
    unbroken := by simpa [unbroken_append, level] using h.unbroken
    one_each := by
      rw [lasting_eq (by simp [lasts])]
      simp [each]
    queued := fun hr => by simp [Location.push, hn, h.queued hr]
    emptied := fun gone => absurd (received_of_notifies hn) (Bool.eq_false_iff.mp gone)
    in_order := by simpa using h.in_order.trans (List.prefix_append ..)
    here := (token_moved rfl).symm
    notifies := iff_of_true (by rw [notifies_push, hn]) (by simp [lasts])
    looks := (h.looks.append_other (by simp)).append_other (by simp) }

theorem Kept.push_unsent (h : Kept initial ⟨l, log⟩) (hn : l.notifies = false) (text : String) :
    Kept initial ⟨l.push text,
      log ++ [.moved text] ++ [.unsent ⟨l.current, stripMarker text⟩]⟩ := by
  have ended : ¬ Lasting log := fun hl => by simp [h.notifies.mpr hl] at hn
  exact {
    unbroken := by simpa using h.unbroken
    one_each := by
      rw [List.append_assoc, lasting_append_of_ended ended]
      simpa using h.one_each
    queued := fun hr => by simpa [Location.push, hn] using h.queued hr
    emptied := fun hr => by simpa [Location.push, hn] using h.emptied hr
    in_order := by simpa using h.in_order
    here := (token_moved rfl).symm
    notifies := iff_of_false (by rw [notifies_push, hn]; exact Bool.false_ne_true)
      (by simp [ended])
    looks := (h.looks.append_other (by simp)).append_other (by simp) }

theorem Kept.push (h : Kept initial ⟨l, log⟩) (text : String) : Kept initial ⟨l.push text,
    log ++ [.moved text, .ofSending ⟨l.current, stripMarker text⟩ l.notifies]⟩ := by
  rw [List.append_cons]
  cases hn : l.notifies with
  | true => exact h.push_sent hn text
  | false => exact h.push_unsent hn text

theorem Kept.close (h : Kept initial ⟨l, log⟩) : Kept initial ⟨l.close, log ++ [.closed]⟩ := by
  have silent : l.close.notifies = false := by simp [Location.close, Location.notifies]
  refine h.aside rfl rfl rfl h.emptied ?_ ?_ ?_ (by simp)
  · intro hr
    simpa [Location.close] using h.queued hr
  · simpa using h.in_order
  · simp [silent]

theorem Kept.drop (h : Kept initial ⟨l, log⟩) :
    Kept initial ⟨l.dropReceiver, log ++ [.dropped]⟩ := by
  have silent : l.dropReceiver.notifies = false := by
    simp [Location.dropReceiver, Location.notifies]
  refine h.aside rfl rfl rfl (fun _ => rfl) ?_ ?_ ?_ (by simp)
  · intro hr
    exact absurd hr Bool.false_ne_true
  · simpa using h.in_order
  · simp [silent]

theorem Kept.receive (h : Kept initial ⟨l, log⟩) (hq : l.queue = n :: queue) :
    Kept initial ⟨{ l with queue }, log ++ [.received n]⟩ := by
  have received : l.received = true := by
    cases hr : l.received with
    | true => rfl
    | false =>
      have empty : l.queue = [] := h.emptied hr
      rw [hq] at empty
      cases empty
  have sent : sendings log = receipts (log ++ [.received n]) ++ queue := by
    rw [h.queued received, hq, List.append_cons]
    simp
  refine h.aside rfl rfl rfl (fun gone => ?_) (fun _ => sent) ?_ ?_ (by simp)
  · rw [received] at gone
    cases gone
  · rw [sent]
    exact List.prefix_append ..
  · rw [lasting_append_iff]
    exact h.notifies.trans (and_iff_left (by simp)).symm

theorem Kept.look (h : Kept initial ⟨l, log⟩) :
    Kept initial ⟨l, log ++ [.looked l.current]⟩ := by
  refine h.aside rfl rfl rfl h.emptied ?_ ?_ ?_ fun _ he => (Occurrence.looked.inj he).symm
  · intro hr
    simpa using h.queued hr
  · simpa using h.in_order
  · simpa using h.notifies

theorem Fares.kept (hf : Fares l more l') (h : Kept initial ⟨l, log⟩) :
    Kept initial ⟨l', log ++ more⟩ := by
  cases hf with
  | still => rwa [List.append_nil]
  | push text => exact h.push text
  | close => exact h.close
  | drop => exact h.drop
  | receive hr =>
    obtain ⟨queue, hq, rfl⟩ := Location.next?_eq_some hr
    exact h.receive hq
  | look => exact h.look

-- ---------------------------------------------------------------------------
-- Turns
-- ---------------------------------------------------------------------------

theorem send_replace (text : String) (d : Diary) :
    (d.replace text).2.send (d.replace text).1 = ⟨d.location.push text, d.log ++
      [.moved text, .ofSending ⟨d.location.current, stripMarker text⟩ d.location.notifies]⟩ := by
  have halves := Location.send_replace d.location text
  rw [List.append_cons]
  exact congrArg (fun p => Diary.mk p.2 (d.log ++ [.moved text] ++
    [.ofSending ⟨d.location.current, stripMarker text⟩ p.1])) halves

theorem clears_pushing (text : String) : Clears (upkeep initial) 0 (pushing text) := by
  intro d extra h
  have amid : Amid (d.replace text).2 := ⟨text, List.getLast?_concat⟩
  refine .inl ⟨amid, .inr ⟨0, ?_, fun d' others h' => h'⟩⟩
  change Kept initial ((d.replace text).2.send (d.replace text).1)
  rw [send_replace]
  exact h.push text

theorem clears_receive : Clears (upkeep initial) 0 (Task.atomically Diary.receive) := by
  refine Task.upholds_atomically fun d extra h => ?_
  change Kept initial d.receive.2
  unfold Diary.receive
  split
  · exact h
  · rename_i hn
    exact (Fares.receive hn).kept h

theorem Visitor.clears {t : Task Diary α} (h : Visitor t) : Clears (upkeep initial) 0 t := by
  induction h with
  | done value => exact Task.upholds_done value fun _ => 0
  | yield _ ih => exact Task.upholds_yield.mpr ih
  | bind _ _ ht hk => exact Task.upholds_bind ht hk
  | both _ _ ht hu => exact Task.clears_both ht hu
  | alternate _ _ ht hu => exact Task.clears_alternate ht hu
  | read f => exact Task.upholds_act (fun _ => 0) (fun _ _ h => h) fun d => Task.upholds_done _ _
  | push text => exact clears_pushing text
  | close => exact Task.upholds_modify fun d extra h => Kept.close h
  | dropReceiver => exact Task.upholds_modify fun d extra h => Kept.drop h
  | receive => exact clears_receive
  | look => exact Task.upholds_atomically fun d extra h => Kept.look h

theorem run_pushing (text : String) (d : Diary) :
    ((pushing text).run d).2.location = d.location.push text := by
  change ((d.replace text).2.send (d.replace text).1).location = _
  rw [send_replace]

theorem visitors_atRest {tasks : List (Task Diary α)} (visitors : ∀ t ∈ tasks, Visitor t) :
    Task.AtRest (upkeep initial) tasks (.new initial) :=
  ⟨fun _ => 0, fun _ t hk => (visitors t (List.mem_of_getElem? hk)).clears, kept_new initial⟩

-- ---------------------------------------------------------------------------
-- The location of a router
-- ---------------------------------------------------------------------------

variable {ε ν κ : Type} {hub hub' : Hub ε ν κ} {host : Host ε ν κ}
  {trace : List (Nat × Hub ε ν κ × Hub ε ν κ)} {tasks tasks' : List (Task (Hub ε ν κ) α)}

theorem sails_of_eq (h : hub'.router.location = hub.router.location) : Sails hub hub' :=
  ⟨[], h ▸ .still⟩

theorem sails_unrouted (h : Unrouted hub hub') : Sails hub hub' :=
  sails_of_eq (congrArg Router.location h.router)

theorem sails_routine (h : Routine hub hub') : Sails hub hub' := by
  cases h with
  | stay | tell => exact sails_of_eq rfl
  | push text =>
    have fares : Fares hub.router.location _ (hub.router.location.push text) := .push text
    rw [← push_location] at fares
    exact ⟨_, fares⟩

theorem sails_service (h : Service hub hub') : Sails hub hub' := by
  cases h with
  | receive =>
    unfold Router.receive
    split
    · rename_i hn
      exact ⟨_, .receive hn⟩
    · exact sails_of_eq rfl
  | closeLocation => exact ⟨_, .close⟩
  | dropNavigations => exact ⟨_, .drop⟩
  | addRoute => exact sails_of_eq rfl

theorem Sails.closed : Closed Sails fun {α} (t : Task (Hub ε ν κ) α) => t.Keeps Sails :=
  (Composed.keeps sails_routine).closed fun h => sails_unrouted h.unrouted

theorem sails_request (within : host.Within fun t => t.Keeps Sails) (request : Request κ) :
    (request.task host).Keeps Sails := by
  have served := Sails.closed.served (fun h => sails_unrouted h.unrouted) within
  refine request.within served sails_service fun template id _ => ?_
  exact served.atomically fun _ => sails_unrouted (unrouted_register template (.mailbox id))

theorem Recounts.kept (hr : Recounts trace log) (h : Trace tasks hub trace tasks' hub')
    (hk : Kept initial ⟨hub.router.location, before⟩) :
    Kept initial ⟨hub'.router.location, before ++ log⟩ := by
  induction hr generalizing tasks hub before with
  | nil =>
    rw [List.append_nil]
    exact (h.carries (P := fun hub => Kept initial ⟨hub.router.location, before⟩) (by simp) hk).2
  | step hf _ ih =>
    obtain ⟨rfl, mid, rest⟩ := h.of_cons
    rw [← List.append_assoc]
    exact ih rest (hf.kept hk)

theorem exists_recounts (h : ∀ step ∈ trace, Sails step.2.1 step.2.2) :
    ∃ log, Recounts trace log := by
  induction trace with
  | nil => exact ⟨[], .nil⟩
  | cons step trace ih =>
    obtain ⟨⟨more, hf⟩, rest⟩ := List.forall_mem_cons.mp h
    obtain ⟨log, hr⟩ := ih rest
    exact ⟨more ++ log, .step hf hr⟩

/-- Whatever visitors do to a location, in whatever order they take turns, its log tells of an
unbroken itinerary, and so it is between any two steps if nobody comes between the two halves of a
push. The location of a router is such a location: whatever is asked of bus and router, what the
steps did to it can be told in such a log. -/
theorem navigations_unbroken {visits : List (Task Diary α)} (visitors : ∀ t ∈ visits, Visitor t)
    (within : host.Within fun t => t.Keeps Sails) (initial : String) :
    (∀ visits' d, Turns visits (.new initial) visits' d → Sound initial d) ∧
    (∀ trace visits' d, Trace visits (.new initial) trace visits' d → Undisturbed Amid trace →
      ¬ Amid d → Sound initial d) ∧
    (∀ text d, ((pushing text).run d).2.location = d.location.push text) ∧
    ∀ (requests : List (Request κ)) name state trace tasks hub,
      Trace (requests.map (Request.task host)) (.new name initial state) trace tasks hub →
        (∃ log, Recounts trace log) ∧
          ∀ log, Recounts trace log → Sound initial ⟨hub.router.location, log⟩ := by
  have rest : Task.AtRest (upkeep initial) visits (.new initial) := visitors_atRest visitors
  refine ⟨fun visits' d h => ?_, fun trace visits' d h calm idle => ?_, run_pushing, ?_⟩
  · obtain ⟨_, _, kept⟩ := h.upkeep rest
    exact Kept.sound kept
  · obtain ⟨_, _, kept⟩ := h.upkeep calm (.inl rest) idle
    exact Kept.sound kept
  · intro requests name state trace tasks hub h
    have sails : ∀ step ∈ trace, Sails step.2.1 step.2.2 := by
      refine h.keeps (R := fun _ => Sails) fun i t hi => ?_
      obtain ⟨request, -, rfl⟩ := List.mem_map.mp (List.mem_of_getElem? hi)
      exact sails_request within request
    exact ⟨exists_recounts sails, fun log hr => (hr.kept h (kept_new initial)).sound⟩

def courier : Task Diary Unit := do
  pushing "#b"
  .yield (pushing "b")

def passenger : Task Diary Unit := do
  let _ ← Task.atomically Diary.receive
  let _ ← Task.atomically Diary.look
  Task.modify Diary.close

/-- The passenger comes between the two pushes, so the second of them is not sent. -/
theorem navigations_unbroken_courier :
    (∃ visits d, Turns [courier, passenger] (.new "#a") visits d ∧ Sound "#a" d ∧
      d.log = [.moved "#b", .sent ⟨"a", "b"⟩, .received ⟨"a", "b"⟩, .looked "b", .closed,
        .moved "b", .unsent ⟨"b", "b"⟩]) ∧
    ∃ trace tasks hub log, Trace ([.setLocation "#b", .closeLocation, .setLocation "b"].map
        (Request.task Rehearsal.host)) (.new "bus" "#a" .new) trace tasks hub ∧
      Recounts trace log ∧ Sound "#a" ⟨hub.router.location, log⟩ := by
  have visitors : ∀ t ∈ [courier, passenger], Visitor t := by
    intro t ht
    rcases List.mem_pair.mp ht with rfl | rfl
    · exact .bind (.push "#b") fun _ => .yield (.push "b")
    · exact .bind .receive fun _ => .bind .look fun _ => .close
  have within : Rehearsal.host.Within fun t => t.Keeps Sails :=
    Rehearsal.hostOfDepth_within Sails.closed (fun h => sails_unrouted h.unrouted) sails_service
      (fun _ _ => sails_of_eq rfl) (fun _ _ => sails_of_eq rfl) Rehearsal.scriptLimit
  obtain ⟨sound, -, -, requests⟩ := navigations_unbroken visitors within "#a"
  constructor
  · have turns : Turns [courier, passenger] (.new "#a") _ _ :=
      .turn (i := 0) (.turn (i := 1) (.turn (i := 0) .refl rfl) rfl) rfl
    exact ⟨_, _, turns, sound _ _ turns, by cbv⟩
  · obtain ⟨trace, h⟩ := (Rehearsal.reaches_carriedOut Rehearsal.host _ _).exists_trace
    obtain ⟨⟨log, recounts⟩, all⟩ := requests _ _ _ _ _ _ h
    exact ⟨trace, _, _, log, h, recounts, all log recounts⟩

-- A push that comes between the two halves of another sends its navigation first.
example :
    let one := (Diary.new "a").replace "b"
    let two := one.2.replace "c"
    sendings ((two.2.send two.1).send one.1).log = [⟨"b", "c"⟩, ⟨"a", "b"⟩] := by decide

end Itinerary

end RouteBus
