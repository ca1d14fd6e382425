import RouteBus.Proofs.Bus.Dispatch
import RouteBus.Proofs.Hub.Carriers
import RouteBus.Proofs.Task.Duties

/-!
# Messages on their way

A lookup takes on one parcel for each mailbox among the listeners that it picks, and each
put into a mailbox discharges one. So what lookups pick and what mailboxes get differ by
what tasks have in hand at the moment, and by nothing when they have ended.
-/

namespace RouteBus

open RouteBus.Task (Heads Deals Owes Inherited)

structure Parcel where
  mailbox : Nat
  message : Message
  deriving DecidableEq

def Listener.mailbox? : Listener → Option Nat
  | .mailbox id => some id
  | .external _ => none

def parcels (m : Message) (ls : List Listener) : Multiset Parcel :=
  ((ls.filterMap Listener.mailbox?).map fun id => Parcel.mk id m : List Parcel)

inductive Act where
  /-- A dispatch of the message looks its group up. -/
  | lookup (m : Message)
  | put (id : Nat) (m : Message)
  | subscribe (template : String) (listener : Nat)
  | receive (template : String)
  | drain (id : Nat)
  | drop (id : Nat)
  | chore

inductive Act.Of : {α : Type} → Task (Hub ε ν κ) α → Act → Prop
  | lookup {host : Host ε ν κ} : m.source = some source → Heads (Bus.dispatch host m) t →
      Act.Of t (.lookup m)
  | put {id : Nat} : Heads (.modify (Bus.onMailbox id (Mailbox.put m))) t → Act.Of t (.put id m)
  | subscribe {id : Nat} : Heads (Bus.subscribe template (.external id)) t →
      Act.Of t (.subscribe template id)
  | receive : Heads (Bus.onReceive template) t → Act.Of t (.receive template)
  | drain {id : Nat} : Heads (Bus.drain id) t → Act.Of t (.drain id)
  | drop {id : Nat} : Heads (Bus.dropMailbox id) t → Act.Of t (.drop id)
  | chore : (∀ hub, Chore hub (effect hub)) → Act.Of (.act effect next) .chore

/-- The steps of the hub, with the parcels that each takes and gives. -/
inductive Posting : Act → Hub ε ν κ → Hub ε ν κ → Multiset Parcel → Multiset Parcel → Prop
  | unmatched {hub : Hub ε ν κ} : m.source = some source →
      (∀ g ∈ hub.bus.topics, g.template.test source = false) →
      Posting (.lookup m) hub (hub.record (.sourceUnmatched source)) 0 0
  | picked {hub : Hub ε ν κ} : m.source = some source →
      Topics.FirstMatch source hub.bus.topics before g after →
      Posting (.lookup m) hub (Bus.pruneGroup host source before g after hub) 0
        (parcels m (g.live (Bus.isClosed host hub)))
  | put {id : Nat} : Posting (.put id m) hub (Bus.onMailbox id (Mailbox.put m) hub) {⟨id, m⟩} 0
  | subscribe {id : Nat} : Posting (.subscribe template id) hub
      (Bus.register template (.external id) hub).2 0 0
  | receive : Bus.register template (.mailbox hub.bus.mailboxes.length) hub = (.ok (), hub') →
      Posting (.receive template) hub (Bus.addMailbox hub') 0 0
  | refused : Bus.register template (.mailbox hub.bus.mailboxes.length) hub = (.error e, hub') →
      Posting (.receive template) hub hub 0 0
  | drain {id : Nat} : Posting (.drain id) hub (Bus.onMailbox id Mailbox.emptied hub) 0 0
  | drop {id : Nat} : Posting (.drop id) hub (Bus.onMailbox id Mailbox.drop hub) 0 0
  | chore : Chore hub hub' → Posting .chore hub hub' 0 0

variable {ε ν κ α β : Type} {hub hub' : Hub ε ν κ} {host : Host ε ν κ}

theorem Act.of_inherited : Inherited (@Act.Of ε ν κ) := by
  constructor
  intro α β u t l h hl
  cases hl with
  | lookup hs hu => exact .lookup hs (hu.trans h)
  | put hu => exact .put (hu.trans h)
  | subscribe hu => exact .subscribe (hu.trans h)
  | receive hu => exact .receive (hu.trans h)
  | drain hu => exact .drain (hu.trans h)
  | drop hu => exact .drop (hu.trans h)
  | chore hc =>
    obtain ⟨rest, rfl⟩ := h.act
    exact .chore hc

-- ---------------------------------------------------------------------------
-- What tasks have in hand
-- ---------------------------------------------------------------------------

/-- In the course of a task: what it holds now, and nothing at its end. -/
abbrev Delivers (held : Multiset Parcel) (t : Task (Hub ε ν κ) α) : Prop :=
  Owes Act.Of Posting held t

theorem delivers_bind {t : Task (Hub ε ν κ) α} {k : α → Task (Hub ε ν κ) β}
    (ht : Delivers held t) (hk : ∀ a, Delivers 0 (k a)) : Delivers held (t >>= k) := by
  rw [← add_zero held]
  exact Task.owes_bind Act.of_inherited ht hk

theorem delivers_chore {effect : Hub ε ν κ → Hub ε ν κ} {next : Hub ε ν κ → Task (Hub ε ν κ) α}
    (hc : ∀ hub, Chore hub (effect hub)) (hn : ∀ hub, Delivers held (next hub)) :
    Delivers held (.act effect next) :=
  ⟨.chore, .chore hc, fun hub => by
    have dealt : Posting .chore hub (effect hub) 0 0 := .chore (hc hub)
    exact ⟨held, by simpa using Deals.of_deal dealt held, hn hub⟩⟩

theorem delivers_hand (hears : ∀ id m, Delivers 0 (host.hear id m)) (m : Message) (l : Listener) :
    Delivers (parcels m [l]) (Bus.hand host m l) := by
  rw [Bus.hand_eq]
  refine delivers_chore (chore_record rfl) fun _ => ?_
  cases l with
  | mailbox id => exact ⟨.put id m, .put .refl, fun hub => ⟨0, .all .put, rfl⟩⟩
  | external id => exact hears id m

@[simp] theorem parcels_mailbox (m : Message) (id : Nat) : parcels m [.mailbox id] = {⟨id, m⟩} := rfl
@[simp] theorem parcels_external (m : Message) (id : Nat) : parcels m [.external id] = 0 := rfl

theorem parcels_cons (m : Message) (l : Listener) (ls : List Listener) :
    parcels m (l :: ls) = parcels m [l] + parcels m ls := by
  cases l <;> rfl

theorem delivers_handAll (hears : ∀ id m, Delivers 0 (host.hear id m)) (m : Message)
    (ls : List Listener) : Delivers (parcels m ls) (Bus.handAll host m ls) := by
  induction ls with
  | nil => rfl
  | cons l ls ih =>
    rw [parcels_cons]
    exact Task.owes_bind Act.of_inherited (delivers_hand hears m l) fun _ => ih

theorem posting_lookup (host : Host ε ν κ) (hs : m.source = some source) (hub : Hub ε ν κ) :
    Posting (.lookup m) hub (Bus.lookup host source hub).2 0
      ((Bus.lookup host source hub).1.elim 0 fun s => parcels m s.listeners) := by
  by_cases hm : ∃ g ∈ hub.bus.topics, g.template.test source = true
  · obtain ⟨g, hg, ht⟩ := hm
    obtain ⟨before, g, after, hf⟩ := Topics.exists_firstMatch hg ht
    rw [Bus.lookup_eq_some hf]
    exact .picked hs hf
  · have hm : ∀ g ∈ hub.bus.topics, g.template.test source = false := by simpa using hm
    rw [Bus.lookup_eq_none hm]
    exact .unmatched hs hm

theorem delivers_dispatch (hears : ∀ id m, Delivers 0 (host.hear id m)) (m : Message) :
    Delivers 0 (Bus.dispatch host m) := by
  cases hs : m.source with
  | none =>
    simp only [Bus.dispatch, hs]
    exact delivers_chore (chore_record rfl) fun _ => rfl
  | some source =>
    have looks : Act.Of (Bus.dispatch host m) (.lookup m) := .lookup hs .refl
    simp only [Bus.dispatch, hs] at looks ⊢
    refine ⟨_, looks, fun hub => ⟨_, .all (posting_lookup host hs hub), ?_⟩⟩
    change Delivers _ (Task.done (Bus.lookup host source hub).1 >>= _)
    cases (Bus.lookup host source hub).1 with
    | none => rfl
    | some selection =>
      rw [Task.done_bind]
      refine delivers_bind (delivers_handAll hears m selection.listeners) fun _ => ?_
      split <;> rfl

/-- A carrier hands on what its lookups pick before it ends. -/
theorem Carrier.delivers {t : Task (Hub ε ν κ) α} (h : Carrier t) : Delivers 0 t := by
  induction h with
  | done value => rfl
  | act hc _ ih => exact delivers_chore hc ih
  | yield _ ih => exact ih
  | bind _ _ ih₁ ih₂ => exact delivers_bind ih₁ ih₂
  | both _ _ ih₁ ih₂ => exact Task.owes_both Act.of_inherited ih₁ ih₂
  | alternate _ _ ih₁ ih₂ => exact (Task.owes_alternate Act.of_inherited ih₁ ih₂).1
  | dispatching _ m ih => exact delivers_dispatch ih m
  | subscribing template id =>
    exact ⟨.subscribe template id, .subscribe .refl, fun hub => ⟨0, .all .subscribe, rfl⟩⟩
  | receiving template =>
    refine ⟨.receive template, .receive .refl, fun hub => ⟨0, ?_, rfl⟩⟩
    dsimp only
    split
    · exact .all (.receive ‹_›)
    · exact .all (.refused ‹_›)
  | draining id => exact ⟨.drain id, .drain .refl, fun hub => ⟨0, .all .drain, rfl⟩⟩
  | dropping id => exact ⟨.drop id, .drop .refl, fun hub => ⟨0, .all .drop, rfl⟩⟩

end RouteBus
