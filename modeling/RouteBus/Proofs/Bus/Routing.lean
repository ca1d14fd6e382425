import Mathlib
import RouteBus.Proofs.Bus.Dispatch
import RouteBus.Proofs.Bus.Errands
import RouteBus.Proofs.Rehearsal.Lawful
import RouteBus.Proofs.Template.Extraction

/-!
# Groups stay where they are

A group is made by the first registration under its template and never goes away, changes
its place or its template. So the first group for a source is the same for good, whatever
is registered, taken out or emptied afterwards.
-/

namespace RouteBus

open RouteBus.Task (Settles Deals Moves Runs)

namespace Topics

-- ---------------------------------------------------------------------------
-- One step
-- ---------------------------------------------------------------------------

inductive Regroups : List Group → List Group → Prop
  | still : Regroups groups groups
  | subscribe : subscribe groups text l = .ok (groups', joining) → Regroups groups groups'
  | select : select closed source groups = some (s, groups') → Regroups groups groups'

def grew (before : List Group) (g : Group) : Bool :=
  before.all fun b => b.template.raw ≠ g.template.raw || b.listeners.length < g.listeners.length

def gained (before after : List Group) : List String :=
  (after.filter (grew before)).map (·.template.raw)

variable {groups groups' : List Group}

theorem grew_eq_false {g b : Group} (hb : b ∈ groups) (ht : b.template.raw = g.template.raw)
    (hl : g.listeners.length ≤ b.listeners.length) : grew groups g = false := by
  simp only [grew, List.all_eq_false, Bool.or_eq_true, decide_eq_true_eq, not_or, not_not, not_lt]
  exact ⟨b, hb, ht, hl⟩

theorem filter_grew_same {part : List Group} (h : ∀ g ∈ part, g ∈ groups) :
    part.filter (grew groups) = [] := by
  rw [List.filter_eq_nil_iff]
  intro g hg
  rw [grew_eq_false (h g hg) rfl (Nat.le_refl _)]
  simp

theorem gained_self : gained groups groups = [] := by
  rw [gained, filter_grew_same fun _ => id]
  rfl

theorem gained_pruned {g : Group} :
    gained (before ++ g :: after) (before ++ g.pruned closed :: after) = [] := by
  have hb : before.filter (grew (before ++ g :: after)) = [] := filter_grew_same (by simp +contextual)
  have ha : after.filter (grew (before ++ g :: after)) = [] := filter_grew_same (by simp +contextual)
  have hg : grew (before ++ g :: after) (g.pruned closed) = false :=
    grew_eq_false (b := g) (by simp) rfl (List.length_filter_le _ _)
  simp [gained, List.filter_append, hb, ha, hg]

theorem gained_joined {g : Group}
    (once : ((before ++ g :: after).map (·.template.raw)).Nodup) :
    gained (before ++ g :: after) (before ++ g.joinedBy l :: after) = [g.template.raw] := by
  have hb : before.filter (grew (before ++ g :: after)) = [] := filter_grew_same (by simp +contextual)
  have ha : after.filter (grew (before ++ g :: after)) = [] := filter_grew_same (by simp +contextual)
  have hg : grew (before ++ g :: after) (g.joinedBy l) = true := by
    simp only [grew, List.all_eq_true, Bool.or_eq_true, decide_eq_true_eq]
    intro b hm
    by_cases ht : b.template.raw = g.template.raw
    · obtain rfl := List.inj_on_of_nodup_map once hm (by simp) ht
      exact .inr (by simp [Group.joinedBy])
    · exact .inl ht
  have joined : (g.joinedBy l).template.raw = g.template.raw := rfl
  simp [gained, List.filter_append, hb, ha, hg, joined]

theorem gained_new {g : Group} (h : g.template.raw ∉ groups.map (·.template.raw)) :
    gained groups (groups ++ [g]) = [g.template.raw] := by
  have hs : groups.filter (grew groups) = [] := filter_grew_same fun _ => id
  have hg : grew groups g = true := by
    simp only [grew, List.all_eq_true, Bool.or_eq_true, decide_eq_true_eq]
    exact fun b hb => .inl fun ht => h (List.mem_map.mpr ⟨b, hb, ht⟩)
  simp [gained, List.filter_append, hs, hg]

-- ---------------------------------------------------------------------------
-- From the first registration on
-- ---------------------------------------------------------------------------

/-- What the groups are once these templates were registered under, in this order. -/
structure Routed (texts : List String) (groups : List Group) : Prop where
  parsed : ∀ t ∈ groups.map (·.template), Template.parse t.raw = .ok t
  once : (groups.map (·.template.raw)).Nodup
  order : groups.map (·.template.raw) = texts.eraseDups

namespace Routed

theorem mem (hr : Routed texts groups) :
    text ∈ groups.map (·.template.raw) ↔ text ∈ texts := by
  rw [hr.order, List.mem_eraseDups]

theorem congr (hr : Routed texts groups)
    (ht : groups'.map (·.template) = groups.map (·.template)) : Routed texts groups' := by
  have raw : groups'.map (·.template.raw) = groups.map (·.template.raw) := by
    simpa [Function.comp_def] using congrArg (List.map Template.raw) ht
  refine ⟨?_, ?_, ?_⟩
  · rw [ht]
    exact hr.parsed
  · rw [raw]
    exact hr.once
  · rw [raw]
    exact hr.order

theorem again (hr : Routed texts groups) (h : text ∈ texts) : Routed (texts ++ [text]) groups := by
  refine ⟨hr.parsed, hr.once, ?_⟩
  rw [hr.order, List.eraseDups_append]
  simp [List.removeAll, h]

theorem extend (hr : Routed texts groups) (hp : Template.parse text = .ok t) (h : text ∉ texts)
    (l : Listener) : Routed (texts ++ [text]) (groups ++ [⟨t, [l]⟩]) := by
  have raw : t.raw = text := Template.raw_of_parse hp
  refine ⟨?_, ?_, ?_⟩
  · intro u hu
    rcases List.mem_append.mp (List.map_append ▸ hu) with hu | hu
    · exact hr.parsed u hu
    · obtain rfl : u = t := by simpa using hu
      rw [raw, hp]
  · rw [List.map_append, List.map_cons, List.map_nil, List.nodup_append_comm]
    refine List.nodup_cons.mpr ⟨?_, hr.once⟩
    change t.raw ∉ groups.map (·.template.raw)
    rw [hr.mem, raw]
    exact h
  · rw [List.map_append, hr.order, List.eraseDups_append]
    simp [List.removeAll, h, raw, List.eraseDups_cons]

/-- A registration succeeds if its template can be read. The group that is there already
shows that it can. -/
theorem subscribe_eq (hr : Routed texts groups) (text : String) (l : Listener) :
    (∃ t groups' joining, Template.parse text = .ok t ∧
      subscribe groups text l = .ok (groups', joining)) ∨
    ∃ e, Template.parse text = .error e ∧ subscribe groups text l = .error e := by
  unfold subscribe
  cases hj : join text l groups with
  | some joined =>
    obtain ⟨before, g, after, rfl, -, rfl, -⟩ := join_eq_some_iff.mp hj
    exact .inl ⟨g.template, _, _, hr.parsed _ (by simp), rfl⟩
  | none =>
    cases hp : Template.parse text with
    | error e => exact .inr ⟨e, rfl, rfl⟩
    | ok t => exact .inl ⟨t, _, _, rfl, rfl⟩

theorem subscribed (hr : Routed texts groups)
    (hs : subscribe groups text l = .ok (groups', joining)) :
    Routed (texts ++ [text]) groups' ∧ gained groups groups' = [text] ∧
      groups.map (·.template) <+: groups'.map (·.template) := by
  unfold subscribe at hs
  cases hj : join text l groups with
  | some joined =>
    obtain ⟨before, g, after, rfl, -, rfl, hjoined, -⟩ := join_eq_some_iff.mp hj
    simp only [hj] at hs
    obtain ⟨rfl, -⟩ : joined.1 = groups' ∧ _ := by simpa using hs
    have same : (before ++ g.joinedBy l :: after).map (·.template) =
        (before ++ g :: after).map (·.template) := by simp [Group.joinedBy]
    rw [hjoined]
    refine ⟨(hr.again (hr.mem.mp (by simp))).congr same, gained_joined hr.once, ?_⟩
    rw [same]
  | none =>
    have hn := join_eq_none_iff.mp hj
    cases hp : Template.parse text with
    | error e => simp [hj, hp, bind, Except.bind] at hs
    | ok t =>
      simp only [hj, hp] at hs
      cases hs
      have raw : t.raw = text := Template.raw_of_parse hp
      refine ⟨hr.extend hp (mt hr.mem.mpr hn) l, ?_, by simp⟩
      rw [← raw]
      exact gained_new (g := ⟨t, [l]⟩) (by rwa [raw])

theorem gains (hr : Routed texts groups) (h : Regroups groups groups') :
    gained groups groups' = [] ∨ ∃ text l joining, gained groups groups' = [text] ∧
      Topics.subscribe groups text l = .ok (groups', joining) := by
  cases h with
  | still => exact .inl gained_self
  | subscribe hs => exact .inr ⟨_, _, _, (hr.subscribed hs).2.1, hs⟩
  | select hs =>
    obtain ⟨before, g, after, ⟨rfl, -, -⟩, -, rfl⟩ := select_eq_some_iff.mp hs
    exact .inl gained_pruned

/-- Templates stay where they are, and one that is new comes last. -/
theorem step (hr : Routed texts groups) (h : Regroups groups groups') :
    Routed (texts ++ gained groups groups') groups' ∧
      groups.map (·.template) <+: groups'.map (·.template) := by
  cases h with
  | still =>
    rw [gained_self, List.append_nil]
    exact ⟨hr, List.prefix_rfl⟩
  | subscribe hs =>
    obtain ⟨routed, gains, grows⟩ := hr.subscribed hs
    rw [gains]
    exact ⟨routed, grows⟩
  | select hs =>
    obtain ⟨before, g, after, ⟨rfl, -, -⟩, -, rfl⟩ := select_eq_some_iff.mp hs
    rename_i closed _ _
    have same : (before ++ g.pruned closed :: after).map (·.template) =
        (before ++ g :: after).map (·.template) := by simp [Group.pruned]
    rw [gained_pruned, List.append_nil, same]
    exact ⟨hr.congr same, List.prefix_rfl⟩

end Routed

/-- The first match goes by the templates alone, so it is the same behind any that are added. -/
theorem FirstMatch.later {g : Group} (hf : FirstMatch source groups before g after)
    (hp : groups.map (·.template) <+: groups'.map (·.template)) :
    ∃ before' g' after', FirstMatch source groups' before' g' after' ∧ g'.template = g.template := by
  obtain ⟨rfl, hpassed, hmatched⟩ := hf
  obtain ⟨added, ha⟩ := hp
  rw [List.map_append, List.map_cons, List.append_assoc, List.cons_append, eq_comm,
    List.map_eq_append_iff] at ha
  obtain ⟨before', rest, rfl, hb, hr⟩ := ha
  obtain ⟨g', after', rfl, hg, -⟩ := List.map_eq_cons_iff.mp hr
  refine ⟨before', g', after', ⟨rfl, fun b hm => ?_, by rw [hg]; exact hmatched⟩, hg⟩
  have : b.template ∈ before.map (·.template) := hb ▸ List.mem_map.mpr ⟨b, hm, rfl⟩
  obtain ⟨b', hb', ht⟩ := List.mem_map.mp this
  rw [← ht]
  exact hpassed b' hb'

end Topics

-- ---------------------------------------------------------------------------
-- The bus
-- ---------------------------------------------------------------------------

variable {ε ν κ α : Type}

inductive Registers : List (Task (Hub ε ν κ) α) → Hub ε ν κ → List String →
    List (Task (Hub ε ν κ) α) → Hub ε ν κ → Prop
  | refl : Registers tasks hub [] tasks hub
  | move : Registers tasks hub texts tasks' hub' → Moves tasks' hub' tasks'' hub'' →
      Registers tasks hub (texts ++ Topics.gained hub'.bus.topics hub''.bus.topics) tasks'' hub''

/-- A registration succeeds if its template can be read, and is told from others by what
the groups gain. One that fails changes nothing. -/
def Registering (text : String) (hub : Hub ε ν κ) (result : Except TemplateError α × Hub ε ν κ) :
    Prop :=
  match result.1 with
  | .ok _ => (∃ t, Template.parse text = .ok t) ∧
      Topics.gained hub.bus.topics result.2.bus.topics = [text]
  | .error e => Template.parse text = .error e ∧ result.2 = hub

variable {hub hub' : Hub ε ν κ}

theorem Router.bus_push (location : String) (hub : Hub ε ν κ) : (push location hub).bus = hub.bus := by
  unfold push
  dsimp only
  split <;> rfl

theorem Router.bus_receive (hub : Hub ε ν κ) : (receive hub).2.bus = hub.bus := by
  unfold receive
  split <;> rfl

namespace Bus

theorem regroups_register (text : String) (l : Listener) (hub : Hub ε ν κ) :
    Topics.Regroups hub.bus.topics (register text l hub).2.bus.topics := by
  unfold register
  split
  · exact .still
  · exact .subscribe ‹_›

theorem regroups_lookup (host : Host ε ν κ) (source : String) (hub : Hub ε ν κ) :
    Topics.Regroups hub.bus.topics (lookup host source hub).2.bus.topics := by
  unfold lookup
  split
  · exact .still
  · rename_i s topics hs
    obtain ⟨entries, he⟩ := announce_eq source s (hub.withTopics topics)
    rw [he]
    exact .select hs

theorem topics_store (handle : Handle) (hub : Hub ε ν κ) :
    (store handle hub).2.bus.topics = hub.bus.topics := by
  unfold store
  split <;> rfl

end Bus

theorem Deed.regroups (h : Deed hub hub') : Topics.Regroups hub.bus.topics hub'.bus.topics := by
  cases h with
  | stay | own | note | tell | put | empty | drop | closeLocation | dropNavigations | addRoute =>
    exact .still
  | register text l => exact Bus.regroups_register text l hub
  | receiver text hr =>
    have := Bus.regroups_register text (.mailbox hub.bus.mailboxes.length) hub
    rwa [hr] at this
  | lookup host source => exact Bus.regroups_lookup host source hub
  | push location =>
    rw [Router.bus_push]
    exact .still
  | receive =>
    rw [Router.bus_receive]
    exact .still

theorem Handling.regroups (h : Handling hub hub' taken given) :
    Topics.Regroups hub.bus.topics hub'.bus.topics := by
  cases h with
  | deed h => exact h.regroups
  | claim | abandon | withdraw | closing | closed | discard => exact .still
  | store | giveBack =>
    rw [Bus.topics_store]
    exact .still

theorem regroups_move {tasks tasks' : List (Task (Hub ε ν κ) α)}
    (h : Moves tasks hub tasks' hub') (hs : List.Forall₂ (Settles Handling) shares tasks) :
    Topics.Regroups hub.bus.topics hub'.bus.topics ∧
      ∃ shares', List.Forall₂ (Settles Handling) shares' tasks' := by
  obtain ⟨shares', hs', ⟨taken, given, rest, -, -, hd⟩ | ⟨rfl, -⟩⟩ := h.settles hs
  · exact ⟨hd.regroups, shares', hs'⟩
  · exact ⟨.still, shares', hs'⟩

theorem Registers.routed {tasks tasks' : List (Task (Hub ε ν κ) α)} {earlier : List String}
    (h : Registers tasks hub texts tasks' hub')
    (hs : List.Forall₂ (Settles Handling) shares tasks)
    (hr : Topics.Routed earlier hub.bus.topics) :
    (∃ shares', List.Forall₂ (Settles Handling) shares' tasks') ∧
      Topics.Routed (earlier ++ texts) hub'.bus.topics ∧
      hub.bus.topics.map (·.template) <+: hub'.bus.topics.map (·.template) := by
  induction h with
  | refl =>
    rw [List.append_nil]
    exact ⟨⟨_, hs⟩, hr, List.prefix_rfl⟩
  | move _ hm ih =>
    obtain ⟨⟨mid, hmid⟩, routed, grows⟩ := ih
    obtain ⟨regroups, hs'⟩ := regroups_move hm hmid
    obtain ⟨routed', grows'⟩ := routed.step regroups
    rw [← List.append_assoc]
    exact ⟨hs', routed', grows.trans grows'⟩

theorem Topics.Routed.register (hr : Routed texts hub.bus.topics) (text : String) (l : Listener) :
    Registering text hub (Bus.register text l hub) := by
  unfold Bus.register
  rcases hr.subscribe_eq text l with ⟨t, groups', joining, hp, hs⟩ | ⟨e, hp, hs⟩
  · rw [hs]
    exact ⟨⟨t, hp⟩, (hr.subscribed hs).2.1⟩
  · rw [hs]
    exact ⟨hp, rfl⟩

theorem Topics.Routed.onReceive (hr : Routed texts hub.bus.topics) (text : String) :
    Registering text hub ((Bus.onReceive text).run hub) := by
  have h := hr.register text (.mailbox hub.bus.mailboxes.length)
  simp only [Bus.onReceive, Task.atomically, Task.run]
  split
  · rename_i he
    rw [he] at h
    exact h
  · rename_i he
    rw [he] at h
    exact ⟨h.1, rfl⟩

structure Routing (texts : List String) (tasks : List (Task (Hub ε ν κ) α)) (hub : Hub ε ν κ) :
    Prop where
  topics : hub.bus.topicList = texts.eraseDups
  once : hub.bus.topicList.Nodup
  subscribe : ∀ text l, Registering text hub ((Bus.subscribe text l).run hub)
  onReceive : ∀ text, Registering text hub ((Bus.onReceive text).run hub)
  /-- What the groups gain they gain by a registration. -/
  gains : ∀ {tasks' hub'}, Moves tasks hub tasks' hub' →
    Topics.gained hub.bus.topics hub'.bus.topics = [] ∨
      ∃ text l, Topics.gained hub.bus.topics hub'.bus.topics = [text] ∧
        (Bus.register text l hub).1 = .ok () ∧
        hub'.bus.topics = (Bus.register text l hub).2.bus.topics

theorem Topics.Routed.routing {tasks : List (Task (Hub ε ν κ) α)}
    (hr : Routed texts hub.bus.topics) (hs : List.Forall₂ (Settles Handling) shares tasks) :
    Routing texts tasks hub where
  topics := hr.order
  once := hr.once
  subscribe := hr.register
  onReceive := hr.onReceive
  gains := by
    intro tasks' hub' hm
    obtain ⟨regroups, -⟩ := regroups_move hm hs
    rcases hr.gains regroups with hn | ⟨text, l, joining, hg, hsub⟩
    · exact .inl hn
    · have done : Bus.register text l hub =
          (.ok (), (hub.withTopics hub'.bus.topics).record (Bus.joiningEvent text joining)) := by
        rw [Bus.register, hsub]
      exact .inr ⟨text, l, hg, by rw [done], by rw [done]; rfl⟩

/-- Registering, dispatching, receiving, fetching and closing listeners in any order, also
from within listeners: templates stay in the order in which they first came up, and a source
that some group matches goes to the same group for good. -/
theorem routing_append_only {tasks : List (Task (Hub ε ν κ) α)}
    (clients : ∀ t ∈ tasks, Client t) (bare : hub.bus.topics = [])
    (h : Registers tasks hub texts tasks' hub') :
    Routing texts tasks' hub' ∧ ∀ {more tasks'' hub''}, Registers tasks' hub' more tasks'' hub'' →
      hub'.bus.topicList <+: hub''.bus.topicList ∧
      ∀ source before g after, Topics.FirstMatch source hub'.bus.topics before g after →
        ∀ (host : Host ε ν κ) (m : Message), m.source = some source →
          ∀ rely outcome last, Runs rely (Bus.dispatch host m) hub'' outcome last →
            outcome = .groupEmpty g.template.raw ∨
              ∃ listeners, outcome = .delivered g.template.raw listeners := by
  have none_held : List.Forall₂ (Settles Handling) (tasks.map fun _ => 0) tasks := by
    rw [List.forall₂_map_left_iff, List.forall₂_same]
    exact fun t ht => (clients t ht).errands
  have start : Topics.Routed [] hub.bus.topics := by
    rw [bare]
    exact ⟨by simp, by simp, rfl⟩
  obtain ⟨⟨shares, hs⟩, routed, -⟩ := h.routed none_held start
  refine ⟨routed.routing hs, fun later => ?_⟩
  obtain ⟨-, -, grows⟩ := later.routed hs routed
  refine ⟨?_, fun source before g after hf host m hm rely outcome last hrun => ?_⟩
  · simpa [Bus.topicList, Function.comp_def] using grows.map Template.raw
  · obtain ⟨before', g', after', hf', ht⟩ := hf.later grows
    obtain ⟨rfl, -⟩ := (Bus.runs_dispatch_some hm hf').mp hrun
    rw [ht]
    split
    · exact .inl rfl
    · exact .inr ⟨_, rfl⟩

def registrations : List (Task Rehearsal.Staging (Except TemplateError Unit)) :=
  [Bus.subscribe "news/*" (.external 0), Bus.subscribe "news/:id" (.external 1),
    Bus.subscribe "news/*" (.external 2)]

def registered : Rehearsal.Staging :=
  let first := (Bus.register "news/*" (.external 0) (.new "bus" "/" .new)).2
  let second := (Bus.register "news/:id" (.external 1) first).2
  (Bus.register "news/*" (.external 2) second).2

theorem registers_registered :
    Registers registrations (.new "bus" "/" .new) ["news/*", "news/:id", "news/*"]
      [.done (.ok ()), .done (.ok ()), .done (.ok ())] registered := by
  have run : Registers registrations (.new "bus" "/" .new) _ _ registered :=
    .move (.move (.move .refl .act) (.later .act)) (.later (.later .act))
  convert run using 1 <;> cbv

theorem routing_append_only_news :
    registered.bus.topicList = ["news/*", "news/:id"] ∧
      ∀ outcome last,
        Runs Eq (Bus.dispatch Rehearsal.host ⟨some "news/1", .null⟩) registered outcome last →
          outcome = .groupEmpty "news/*" ∨
            ∃ listeners, outcome = .delivered "news/*" listeners := by
  have clients : ∀ t ∈ registrations, Client t := by
    have subscribes := Rehearsal.host_lawful.served.subscribe
    simp [registrations, subscribes]
  obtain ⟨routing, later⟩ := routing_append_only clients rfl registers_registered
  let named : Template := ⟨"news/:id", [.literal ['n', 'e', 'w', 's', '/'], .named ['i', 'd']]⟩
  let any : Template := ⟨"news/*", [.literal ['n', 'e', 'w', 's', '/'], .wildcard []]⟩
  have groups : registered.bus.topics =
      [⟨any, [.external 0, .external 2]⟩, ⟨named, [.external 1]⟩] := by cbv
  have hf : Topics.FirstMatch "news/1" registered.bus.topics [] _ _ :=
    ⟨groups, by simp, by decide⟩
  have order : registered.bus.topicList = ["news/*", "news/:id"] := routing.topics.trans (by cbv)
  exact ⟨order, fun outcome last => (later .refl).2 "news/1" _ _ _ hf _ _ rfl Eq outcome last⟩

end RouteBus
