import RouteBus.Proofs.Bus.Parcels
import RouteBus.Proofs.Bus.Seats

/-!
# Mailboxes step by step

What one step does to a mailbox, to the place of the mailbox among the groups, and to the
messages that are on their way to it.
-/

namespace RouteBus

open RouteBus.Task (Deals)

-- ---------------------------------------------------------------------------
-- What steps do for a sequence
-- ---------------------------------------------------------------------------

def Bus.winner? (bus : Bus) (m : Message) : Option String :=
  m.source.bind fun source => (bus.topics.find? (·.template.test source)).map (·.template.raw)

namespace Act

def upon (id : Nat) : Act → Mailbox → Mailbox
  | .put k m, box => if k = id then box.put m else box
  | .drain k, box => if k = id then box.emptied else box
  | .drop k, box => if k = id then box.drop else box
  | _, box => box

def reached (id : Nat) : Act → List Message
  | .put k m => if k = id then [m] else []
  | _ => []

def drained (id : Nat) (box : Mailbox) : Act → List (List Message)
  | .drain k => if k = id then [box.waiting] else []
  | _ => []

def won (text : String) (bus : Bus) : Act → List Message
  | .lookup m => if bus.winner? m = some text then [m] else []
  | _ => []

/-- Whether the step picks the group while the mailbox is dropped. -/
def misses (text : String) (id : Nat) (bus : Bus) : Act → Bool
  | .lookup m => decide (bus.winner? m = some text) && (bus.mailbox id).dropped
  | _ => false

end Act

def owed (id : Nat) (held : Multiset Parcel) : Multiset Message :=
  (held.filter (·.mailbox = id)).map (·.message)

/-- No listener and no parcel is of a mailbox that is not there, and no two groups are written
alike. -/
structure Posted (hub : Hub ε ν κ) (held : Multiset Parcel) : Prop where
  once : (hub.bus.topics.map (·.template.raw)).Nodup
  listeners : ∀ id, .mailbox id ∈ Topics.members hub.bus.topics → id < hub.bus.mailboxes.length
  parcels : ∀ parcel ∈ held, parcel.mailbox < hub.bus.mailboxes.length

variable {ε ν κ α : Type} {hub hub' : Hub ε ν κ} {host : Host ε ν κ} {id : Nat} {text : String}
  {held held' taken given : Multiset Parcel} {a : Act}

@[simp] theorem owed_zero (id : Nat) : owed id 0 = 0 := rfl

@[simp] theorem owed_add (id : Nat) (held more : Multiset Parcel) :
    owed id (held + more) = owed id held + owed id more := by
  simp [owed]

theorem owed_put (id k : Nat) (m : Message) :
    owed id {⟨k, m⟩} = ((Act.put k m).reached id : Multiset Message) := by
  by_cases h : k = id <;> simp [owed, Act.reached, h, Multiset.filter_singleton]

theorem owed_parcels (id : Nat) (m : Message) (ls : List Listener) :
    owed id (parcels m ls) = Multiset.replicate (ls.count (.mailbox id)) m := by
  induction ls with
  | nil => rfl
  | cons l ls ih =>
    rw [parcels_cons, owed_add, ih]
    cases l with
    | mailbox k =>
      rw [parcels_mailbox, owed_put]
      by_cases h : k = id
      · simp [Act.reached, h, Multiset.replicate_succ, Multiset.singleton_add]
      · simp [Act.reached, h]
    | external k => simp

theorem Bus.winner_none (h : ∀ g ∈ hub.bus.topics, g.template.test source = false)
    (hs : m.source = some source) : hub.bus.winner? m = none := by
  simpa [Bus.winner?, hs, List.find?_eq_none] using h

theorem Bus.winner_some (h : Topics.FirstMatch source hub.bus.topics before g after)
    (hs : m.source = some source) : hub.bus.winner? m = some g.template.raw := by
  have first : hub.bus.topics.find? (·.template.test source) = some g := by
    rw [List.find?_eq_some_iff_append]
    exact ⟨h.matched, before, after, h.split, by simpa using h.passed⟩
  simp [Bus.winner?, hs, first]

-- ---------------------------------------------------------------------------
-- One step
-- ---------------------------------------------------------------------------

theorem Bus.register_cases (template : String) (l : Listener) (hub : Hub ε ν κ) :
    (∃ e, Bus.register template l hub = (.error e, hub)) ∨
    ∃ groups joining, Topics.subscribe hub.bus.topics template l = .ok (groups, joining) ∧
      Bus.register template l hub =
        (.ok (), (hub.withTopics groups).record (Bus.joiningEvent template joining)) := by
  unfold Bus.register
  cases hs : Topics.subscribe hub.bus.topics template l with
  | error e => exact .inl ⟨e, rfl⟩
  | ok added => exact .inr ⟨_, _, rfl, rfl⟩

theorem Bus.register_ok (h : Bus.register template l hub = (.ok (), hub')) :
    ∃ groups joining, Topics.subscribe hub.bus.topics template l = .ok (groups, joining) ∧
      hub' = (hub.withTopics groups).record (Bus.joiningEvent template joining) := by
  rcases Bus.register_cases template l hub with ⟨e, he⟩ | ⟨groups, joining, hj, he⟩
  · cases he.symm.trans h
  · cases he.symm.trans h
    exact ⟨groups, joining, hj, rfl⟩

theorem Bus.mailboxes_register (template : String) (l : Listener) (hub : Hub ε ν κ) :
    (Bus.register template l hub).2.bus.mailboxes = hub.bus.mailboxes := by
  unfold Bus.register
  split <;> rfl

theorem lookups_register (template : String) (l : Listener) (hub : Hub ε ν κ) :
    lookups (Bus.register template l hub).2.history = lookups hub.history := by
  unfold Bus.register
  split
  · rfl
  · rename_i joining _
    rw [lookups_record, if_neg (by cases joining <;> simp [Bus.joiningEvent, Event.ofLookup])]
    rfl

theorem Bus.length_addMailbox (hub : Hub ε ν κ) :
    (Bus.addMailbox hub).bus.mailboxes.length = hub.bus.mailboxes.length + 1 :=
  List.length_append

theorem Bus.mailbox_onMailbox (k : Nat) (f : Mailbox → Mailbox)
    (made : id < hub.bus.mailboxes.length) :
    (Bus.onMailbox k f hub).bus.mailbox id =
      if k = id then f (hub.bus.mailbox id) else hub.bus.mailbox id := by
  by_cases h : k = id <;> simp [Bus.onMailbox, Bus.mailbox, h, made]

namespace Posting

theorem mailbox (h : Posting a hub hub' taken given) (made : id < hub.bus.mailboxes.length) :
    id < hub'.bus.mailboxes.length ∧ hub'.bus.mailbox id = a.upon id (hub.bus.mailbox id) := by
  cases h with
  | unmatched | refused => exact ⟨made, rfl⟩
  | picked =>
    obtain ⟨entries, he⟩ := Bus.pruneGroup_eq ..
    rw [he]
    exact ⟨made, rfl⟩
  | put | drain | drop =>
    refine ⟨?_, Bus.mailbox_onMailbox _ _ made⟩
    simpa [Bus.onMailbox] using made
  | subscribe =>
    simp only [Bus.mailbox, Bus.mailboxes_register]
    exact ⟨made, rfl⟩
  | receive hr =>
    obtain ⟨groups, joining, -, rfl⟩ := Bus.register_ok hr
    constructor
    · rw [Bus.length_addMailbox]
      exact Nat.lt_succ_of_lt made
    · have there : (hub.bus.mailboxes ++ [.empty])[id]? = hub.bus.mailboxes[id]? :=
        List.getElem?_append_left made
      exact congrArg (·.getD .empty) there
  | chore hc =>
    simp only [Bus.mailbox, hc.mailboxes]
    exact ⟨made, rfl⟩

theorem seat (h : Posting a hub hub' taken given) (made : id < hub.bus.mailboxes.length)
    (hs : Topics.Seated text (.mailbox id) n hub.bus.topics) :
    Topics.Seated text (.mailbox id) (if a.misses text id hub.bus then 0 else n)
      hub'.bus.topics := by
  cases h with
  | unmatched hm hn =>
    simp only [Act.misses, Bus.winner_none hn hm]
    exact hs
  | @picked source before g after m host _ hm hf =>
    obtain ⟨entries, he⟩ := Bus.pruneGroup_eq host source before g after hub
    rw [hf.split] at hs
    rw [he]
    simp only [Act.misses, Bus.winner_some hf hm, Option.some.injEq]
    exact hs.pruned (Bus.isClosed host hub)
  | put | drain | drop | refused => exact hs
  | @subscribe template _ k =>
    rcases Bus.register_cases template (.external k) hub with ⟨e, he⟩ | ⟨groups, joining, hj, he⟩
    · rw [he]
      exact hs
    · rw [he]
      exact hs.subscribe (by simp) hj
  | receive hr =>
    obtain ⟨groups, joining, hj, rfl⟩ := Bus.register_ok hr
    refine hs.subscribe ?_ hj
    simpa using made.ne'
  | chore hc =>
    rw [hc.topics]
    exact hs

theorem owed (h : Posting a hub hub' taken given) (alive : (hub.bus.mailbox id).dropped = false)
    (hs : Topics.Seated text (.mailbox id) 1 hub.bus.topics) :
    owed id taken + a.won text hub.bus = a.reached id + owed id given := by
  cases h with
  | unmatched hm hn => simp [Act.won, Act.reached, Bus.winner_none hn hm]
  | @picked source before g after m host _ hm hf =>
    have counted := hs.count g (by simp [hf.split])
    -- pruning passes over the listener as long as its mailbox is alive
    have live : (g.live (Bus.isClosed host hub)).count (.mailbox id) =
        g.listeners.count (.mailbox id) := List.count_filter (by simp [Bus.isClosed, alive])
    rw [owed_parcels, live, counted]
    by_cases ht : g.template.raw = text <;> simp [Act.won, Act.reached, Bus.winner_some hf hm, ht]
  | put => simp [Act.won, owed_put]
  | subscribe | receive | refused | drain | drop | chore => simp [Act.won, Act.reached]

theorem lookups_iff (h : Posting a hub hub' taken given) :
    (∃ m, a = .lookup m) ↔ lookups hub'.history ≠ lookups hub.history := by
  cases h with
  | unmatched =>
    refine iff_of_true ⟨_, rfl⟩ ?_
    rw [lookups_record]
    exact List.cons_ne_self _ _
  | picked =>
    obtain ⟨entry, found⟩ := lookups_announce (ν := ν) ..
    exact iff_of_true ⟨_, rfl⟩ (found.trans_ne (List.cons_ne_self _ _))
  | subscribe => exact iff_of_false nofun (not_not.mpr (lookups_register ..))
  | @receive template _ registered hr =>
    have same := lookups_register template (.mailbox hub.bus.mailboxes.length) hub
    rw [hr] at same
    exact iff_of_false nofun (not_not.mpr same)
  | chore hc => exact iff_of_false nofun (not_not.mpr hc.lookups)
  | put | refused | drain | drop => exact iff_of_false nofun (not_not.mpr rfl)

/-- Only a registration for a sequence makes a mailbox. -/
theorem receives (h : Posting a hub hub' taken given)
    (hl : hub'.bus.mailboxes.length ≠ hub.bus.mailboxes.length) :
    taken = 0 ∧ given = 0 ∧ ∃ template mid, a = .receive template ∧
      Bus.register template (.mailbox hub.bus.mailboxes.length) hub = (.ok (), mid) ∧
      hub' = Bus.addMailbox mid := by
  cases h with
  | receive hr => exact ⟨rfl, rfl, _, _, rfl, hr, rfl⟩
  | put | drain | drop => simp [Bus.onMailbox] at hl
  | chore hc => simp [hc.mailboxes] at hl
  | unmatched | refused => exact absurd rfl hl
  | picked =>
    obtain ⟨entries, he⟩ := Bus.pruneGroup_eq ..
    rw [he] at hl
    exact absurd rfl hl
  | subscribe => simp [Bus.mailboxes_register] at hl

end Posting

theorem mem_parcels : ⟨id, m⟩ ∈ parcels m' ls ↔ m = m' ∧ .mailbox id ∈ ls := by
  induction ls with
  | nil => simp [parcels]
  | cons l ls ih =>
    rw [parcels_cons, Multiset.mem_add, ih]
    cases l with
    | mailbox k => grind [parcels_mailbox, Multiset.mem_singleton]
    | external k => simp

namespace Posted

theorem weaken (hp : Posted hub (taken + held)) : Posted hub held :=
  ⟨hp.once, hp.listeners, fun parcel hm => hp.parcels parcel (by simp [hm])⟩

theorem same (hp : Posted hub held) (ht : hub'.bus.topics = hub.bus.topics)
    (hl : hub'.bus.mailboxes.length = hub.bus.mailboxes.length) : Posted hub' held := by
  obtain ⟨once, listeners, parcels⟩ := hp
  exact ⟨by rwa [ht], by rwa [ht, hl], by rwa [hl]⟩

theorem subscribed {template : String} {l : Listener} {joining : Joining} (hp : Posted hub held)
    (hj : Topics.subscribe hub.bus.topics template l = .ok (hub'.bus.topics, joining))
    (hl : hub.bus.mailboxes.length ≤ hub'.bus.mailboxes.length)
    (known : ∀ id, l = .mailbox id → id < hub'.bus.mailboxes.length) : Posted hub' held := by
  obtain ⟨once, listeners, parcels⟩ := hp
  refine ⟨Topics.once_subscribe once hj, fun id hm => ?_, fun parcel hm => ?_⟩
  · rcases Topics.mem_members_subscribe hj hm with he | hm
    · exact known id he.symm
    · exact (listeners id hm).trans_le hl
  · exact (parcels parcel hm).trans_le hl

theorem deals (hp : Posted hub held) (h : Deals (Posting a) hub hub' held held') :
    Posted hub' held' := by
  obtain ⟨taken, given, rest, rfl, rfl, h⟩ := h
  have kept := hp.weaken
  cases h with
  | unmatched =>
    rw [zero_add]
    exact kept.same rfl rfl
  | @picked source before g after m host _ hm hf =>
    obtain ⟨entries, he⟩ := Bus.pruneGroup_eq host source before g after hub
    rw [he]
    obtain ⟨once, listeners, parcels⟩ := kept
    rw [hf.split] at once listeners
    have pruned : ∀ id,
        .mailbox id ∈ Topics.members (before ++ g.pruned (Bus.isClosed host hub) :: after) →
        id < hub.bus.mailboxes.length := fun id hm => listeners id (Topics.mem_members_pruned hm)
    refine ⟨by simpa [Group.pruned] using once, pruned, fun parcel hm => ?_⟩
    rcases Multiset.mem_add.mp hm with hm | hm
    · have picked := (mem_parcels.mp hm).2
      exact pruned parcel.mailbox (List.mem_flatMap.mpr ⟨_, List.mem_append_cons_self, picked⟩)
    · exact parcels parcel hm
  | put | drain | drop =>
    rw [zero_add]
    exact kept.same rfl (by simp [Bus.onMailbox])
  | @subscribe template _ k =>
    rw [zero_add]
    rcases Bus.register_cases template (.external k) hub with ⟨e, he⟩ | ⟨groups, joining, hj, he⟩
    · rw [he]
      exact kept
    · rw [he]
      exact kept.subscribed hj le_rfl fun _ he => by cases he
  | receive hr =>
    obtain ⟨groups, joining, hj, rfl⟩ := Bus.register_ok hr
    rw [zero_add]
    refine kept.subscribed hj ?_ fun id he => ?_
    · rw [Bus.length_addMailbox]
      exact Nat.le_succ _
    · cases he
      rw [Bus.length_addMailbox]
      exact Nat.lt_succ_self _
  | refused => rwa [zero_add]
  | chore hc =>
    rw [zero_add]
    exact kept.same hc.topics (by rw [hc.mailboxes])

end Posted

namespace Act

theorem dropped_upon (a : Act) {box : Mailbox} (h : box.dropped = true) :
    (a.upon id box).dropped = true := by
  cases a with
  | put k m | drain k | drop k =>
    simp only [upon]
    split
    · simp [Mailbox.put, Mailbox.emptied, Mailbox.drop, h]
    · exact h
  | lookup | subscribe | receive | chore => exact h

/-- What was in the mailbox is taken out of it or stays in front of what comes in. -/
theorem waiting_upon (a : Act) {box : Mailbox} (h : (a.upon id box).dropped = false) :
    box.waiting ++ a.reached id = (a.drained id box).flatten ++ (a.upon id box).waiting := by
  have alive : box.dropped = false := by
    by_contra hd
    simp [a.dropped_upon (Bool.not_eq_false _ ▸ hd)] at h
  cases a with
  | put k m =>
    by_cases hk : k = id <;> simp [upon, reached, drained, hk, Mailbox.put, alive]
  | drain k =>
    by_cases hk : k = id <;> simp [upon, reached, drained, hk, Mailbox.emptied]
  | drop k =>
    by_cases hk : k = id
    · simp [upon, hk, Mailbox.drop] at h
    · simp [upon, reached, drained, hk]
  | lookup | subscribe | receive | chore => simp [upon, reached, drained]

end Act

end RouteBus
