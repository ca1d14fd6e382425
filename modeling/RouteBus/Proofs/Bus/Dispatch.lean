import RouteBus.Bus.Dispatch
import RouteBus.Proofs.Bus.Topics
import RouteBus.Proofs.Task.Runs
import RouteBus.Rehearsal.Performance

/-!
# Dispatch goes to the first group that matches

Who gets a message is settled by one lookup. What the listeners do afterwards,
and what others do while a listener is suspended, changes nothing about it.
-/

namespace RouteBus.Bus

open RouteBus.Task (Runs)

-- ---------------------------------------------------------------------------
-- What may become of a message
-- ---------------------------------------------------------------------------

def react (host : Host ε ν κ) (m : Message) : Listener → Task (Hub ε ν κ) Unit
  | .mailbox id => .modify (onMailbox id (Mailbox.put m))
  | .external id => host.hear id m

/-- The listeners get the message one after another, and each of them has done with
it what it does before the next one gets it. -/
inductive HandedTo (host : Host ε ν κ) (rely : Hub ε ν κ → Hub ε ν κ → Prop) (m : Message) :
    List Listener → Hub ε ν κ → Hub ε ν κ → Prop
  | nil : HandedTo host rely m [] hub hub
  | cons : Runs rely (react host m l) (hub.record (.handed l m)) () mid →
      HandedTo host rely m ls mid hub' → HandedTo host rely m (l :: ls) hub hub'

def pruneGroup (host : Host ε ν κ) (source : String) (before : List Group) (g : Group)
    (after : List Group) (hub : Hub ε ν κ) : Hub ε ν κ :=
  announce source (g.selection (isClosed host hub))
    (hub.withTopics (before ++ g.pruned (isClosed host hub) :: after))

/-- A message that finds the bus as it is in `hub` may end with this outcome in this hub. -/
inductive Dispatched (host : Host ε ν κ) (rely : Hub ε ν κ → Hub ε ν κ → Prop) (m : Message)
    (hub : Hub ε ν κ) : Outcome → Hub ε ν κ → Prop
  | sourceMissing : m.source = none →
      Dispatched host rely m hub .sourceMissing (hub.record .sourceMissing)
  | unmatched : m.source = some source →
      (∀ g ∈ hub.bus.topics, g.template.test source = false) →
      Dispatched host rely m hub (.unmatched source) (hub.record (.sourceUnmatched source))
  | groupEmpty : m.source = some source →
      Topics.FirstMatch source hub.bus.topics before g after →
      g.live (isClosed host hub) = [] →
      Dispatched host rely m hub (.groupEmpty g.template.raw)
        (pruneGroup host source before g after hub)
  | delivered : m.source = some source →
      Topics.FirstMatch source hub.bus.topics before g after →
      g.live (isClosed host hub) ≠ [] →
      HandedTo host rely m (g.live (isClosed host hub))
        (pruneGroup host source before g after hub) hub' →
      Dispatched host rely m hub
        (.delivered g.template.raw (g.live (isClosed host hub)).length) hub'

variable {ε ν κ : Type} {host : Host ε ν κ} {m : Message}
variable {rely : Hub ε ν κ → Hub ε ν κ → Prop} {hub hub' : Hub ε ν κ}

-- ---------------------------------------------------------------------------
-- Looking up
-- ---------------------------------------------------------------------------

theorem announce_eq (source : String) (s : Selection) (hub : Hub ε ν κ) :
    ∃ entries, announce source s hub = { hub with history := entries ++ hub.history } := by
  unfold announce
  split
  · exact ⟨[_], rfl⟩
  · exact ⟨[_, _], rfl⟩

/-- A lookup changes the groups and the history, nothing else. -/
theorem pruneGroup_eq (host : Host ε ν κ) (source : String) (before : List Group) (g : Group)
    (after : List Group) (hub : Hub ε ν κ) :
    ∃ entries, pruneGroup host source before g after hub =
      { hub with
        bus.topics := before ++ g.pruned (isClosed host hub) :: after
        history := entries ++ hub.history } := by
  obtain ⟨entries, h⟩ := announce_eq source (g.selection (isClosed host hub))
    (hub.withTopics (before ++ g.pruned (isClosed host hub) :: after))
  exact ⟨entries, h⟩

theorem lookup_eq_none (h : ∀ g ∈ hub.bus.topics, g.template.test source = false) :
    lookup host source hub = (none, hub.record (.sourceUnmatched source)) := by
  rw [lookup, Topics.select_eq_none_iff.mpr h]

theorem lookup_eq_some (h : Topics.FirstMatch source hub.bus.topics before g after) :
    lookup host source hub =
      (some (g.selection (isClosed host hub)), pruneGroup host source before g after hub) := by
  rw [lookup, h.select_eq]
  rfl

-- ---------------------------------------------------------------------------
-- Handing over
-- ---------------------------------------------------------------------------

theorem hand_eq (l : Listener) :
    hand host m l = (Hub.tell (.handed l m) >>= fun _ => react host m l) := by
  cases l <;> rfl

theorem runs_hand {l : Listener} :
    Runs rely (hand host m l) hub () hub' ↔
      Runs rely (react host m l) (hub.record (.handed l m)) () hub' := by
  simp [hand_eq, Hub.tell]

theorem runs_handAll {ls : List Listener} :
    Runs rely (handAll host m ls) hub () hub' ↔ HandedTo host rely m ls hub hub' := by
  induction ls generalizing hub with
  | nil =>
    constructor
    · rintro ⟨⟩; exact .nil
    · rintro ⟨⟩; exact .done
  | cons l ls ih =>
    simp only [handAll, Task.runs_bind]
    constructor
    · rintro ⟨_, mid, h, hs⟩; exact .cons (runs_hand.mp h) (ih.mp hs)
    · rintro ⟨⟩; exact ⟨(), _, runs_hand.mpr ‹_›, ih.mpr ‹_›⟩

-- ---------------------------------------------------------------------------
-- Dispatching
-- ---------------------------------------------------------------------------

theorem runs_dispatch_none (hs : m.source = none) {outcome : Outcome} :
    Runs rely (dispatch host m) hub outcome hub' ↔
      outcome = .sourceMissing ∧ hub' = hub.record .sourceMissing := by
  simp [dispatch, hs, Hub.tell]

theorem runs_dispatch_unmatched (hs : m.source = some source)
    (h : ∀ g ∈ hub.bus.topics, g.template.test source = false) {outcome : Outcome} :
    Runs rely (dispatch host m) hub outcome hub' ↔
      outcome = .unmatched source ∧ hub' = hub.record (.sourceUnmatched source) := by
  simp [dispatch, hs, lookup_eq_none h]

theorem runs_dispatch_some (hs : m.source = some source)
    (h : Topics.FirstMatch source hub.bus.topics before g after) {outcome : Outcome} :
    Runs rely (dispatch host m) hub outcome hub' ↔
      outcome = (if (g.live (isClosed host hub)).isEmpty then .groupEmpty g.template.raw
        else .delivered g.template.raw (g.live (isClosed host hub)).length) ∧
      HandedTo host rely m (g.live (isClosed host hub))
        (pruneGroup host source before g after hub) hub' := by
  simp only [dispatch, hs, Task.runs_atomically_bind, lookup_eq_some h, Group.selection]
  rw [Task.runs_bind]
  constructor
  · rintro ⟨_, mid, hh, hr⟩
    split at hr
    · obtain ⟨rfl, rfl⟩ := Task.runs_done.mp hr
      exact ⟨by simp [*], runs_handAll.mp hh⟩
    · obtain ⟨rfl, rfl⟩ := Task.runs_done.mp hr
      exact ⟨by simp [*], runs_handAll.mp hh⟩
  · rintro ⟨rfl, hh⟩
    refine ⟨(), hub', runs_handAll.mpr hh, ?_⟩
    split <;> simp

theorem runs_dispatch {outcome : Outcome} :
    Runs rely (dispatch host m) hub outcome hub' ↔ Dispatched host rely m hub outcome hub' := by
  constructor
  · intro h
    cases hs : m.source with
    | none =>
      obtain ⟨rfl, rfl⟩ := (runs_dispatch_none hs).mp h
      exact .sourceMissing hs
    | some source =>
      by_cases hm : ∃ g ∈ hub.bus.topics, g.template.test source = true
      · obtain ⟨g, hg, ht⟩ := hm
        obtain ⟨before, g, after, hf⟩ := Topics.exists_firstMatch hg ht
        obtain ⟨rfl, hh⟩ := (runs_dispatch_some hs hf).mp h
        by_cases hl : g.live (isClosed host hub) = []
        · rw [hl] at hh ⊢
          cases hh
          exact .groupEmpty hs hf hl
        · rw [if_neg (by simpa using hl)]
          exact .delivered hs hf hl hh
      · have hm : ∀ g ∈ hub.bus.topics, g.template.test source = false := by simpa using hm
        obtain ⟨rfl, rfl⟩ := (runs_dispatch_unmatched hs hm).mp h
        exact .unmatched hs hm
  · intro h
    cases h with
    | sourceMissing hs => exact (runs_dispatch_none hs).mpr ⟨rfl, rfl⟩
    | unmatched hs hm => exact (runs_dispatch_unmatched hs hm).mpr ⟨rfl, rfl⟩
    | groupEmpty hs hf hl =>
      refine (runs_dispatch_some hs hf).mpr ⟨by simp [hl], ?_⟩
      rw [hl]
      exact .nil
    | delivered hs hf hl hh => exact (runs_dispatch_some hs hf).mpr ⟨by simp [hl], hh⟩

/-- A message goes to the open listeners of the first group that matches its source, as they
are when it looks the group up, whatever they and others do from then on. The closed ones
have left the group for good. -/
theorem dispatch_first_match (host : Host ε ν κ) (rely : Hub ε ν κ → Hub ε ν κ → Prop)
    (m : Message) (hub : Hub ε ν κ) :
    (∀ outcome hub', Runs rely (dispatch host m) hub outcome hub' ↔
      Dispatched host rely m hub outcome hub') ∧
    ((∀ hub, rely hub hub) → ∃ outcome hub', Dispatched host rely m hub outcome hub') ∧
    ∀ source before g after, Topics.FirstMatch source hub.bus.topics before g after →
      ∀ joins later,
        Topics.Evolves joins (pruneGroup host source before g after hub).bus.topics later →
        ∀ l, isClosed host hub l = true → ¬ joins g.template.raw l →
          ∃ g', later[before.length]? = some g' ∧ g'.template = g.template ∧
            l ∉ g'.listeners := by
  refine ⟨fun _ _ => runs_dispatch, fun still => ?_, ?_⟩
  · exact ⟨_, _, runs_dispatch.mp (Task.runs_run still (dispatch host m) hub)⟩
  · intro source before g after _ joins later he l hl hj
    obtain ⟨entries, h⟩ := pruneGroup_eq host source before g after hub
    rw [h] at he
    exact he.stays_out hl hj

-- ---------------------------------------------------------------------------
-- A group without open listeners
-- ---------------------------------------------------------------------------

def shadowed : Rehearsal.Staging :=
  let hub : Rehearsal.Staging := .new "bus" "/" .new
  let named : Template := ⟨"news/:id", [.literal ['n', 'e', 'w', 's', '/'], .named ['i', 'd']]⟩
  let any : Template := ⟨"news/*", [.literal ['n', 'e', 'w', 's', '/'], .wildcard []]⟩
  { hub with
    bus.topics := [⟨named, [.external 0]⟩, ⟨any, [.external 1]⟩]
    host.actors := [⟨"a", .plain, [], true, []⟩, ⟨"b", .plain, [], false, []⟩] }

theorem dispatch_first_match_shadowed :
    ∃ hub', Runs Eq (dispatch Rehearsal.host ⟨some "news/1", .null⟩) shadowed
        (.groupEmpty "news/:id") hub' ∧
      ∀ later, Topics.Evolves (fun _ l => l = .external 1) hub'.bus.topics later →
        ∃ g', later[0]? = some g' ∧ g'.template.raw = "news/:id" ∧ .external 0 ∉ g'.listeners := by
  have hf : Topics.FirstMatch "news/1" shadowed.bus.topics [] _ [_] := ⟨rfl, by simp, by decide⟩
  have hd := dispatch_first_match Rehearsal.host Eq ⟨some "news/1", .null⟩ shadowed
  refine ⟨_, (hd.1 _ _).mpr (.groupEmpty rfl hf rfl), fun later he => ?_⟩
  obtain ⟨g', hg, ht, hl⟩ := hd.2.2 _ _ _ _ hf _ later he (.external 0) rfl (by simp)
  exact ⟨g', hg, by rw [ht], hl⟩

end RouteBus.Bus
