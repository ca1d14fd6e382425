import Mathlib
import RouteBus.CommandLine.Run
import RouteBus.Proofs.Bus.Dispatch
import RouteBus.Proofs.Config.Validation
import RouteBus.Proofs.Template.Extraction

/-!
# Topics keep the order of the routes

The topics of a configuration are its endpoints in the order in which routes first mention them.
Each gets a group and a listener of its own in this order, so a message goes to the one listener of
the first topic that matches its source.
-/

namespace RouteBus

open RouteBus.Task (Runs)

-- ---------------------------------------------------------------------------
-- Places where endpoints are named
-- ---------------------------------------------------------------------------

structure Place where
  route : Nat
  fetched : Bool
  position : Nat

namespace Place

/-- Routes are read in order, and what each of them streams before what it fetches. -/
inductive Before : Place → Place → Prop
  | route : p.route < q.route → Before p q
  | list : p.route = q.route → p.fetched = false → q.fetched = true → Before p q
  | position : p.route = q.route → p.fetched = q.fetched → p.position < q.position → Before p q

theorem not_before_self (p : Place) : ¬ p.Before p := by
  intro h
  cases h with
  | route lt => exact Nat.lt_irrefl _ lt
  | list _ streamed fetched => simp [streamed] at fetched
  | position _ _ lt => exact Nat.lt_irrefl _ lt

end Place

def RoutePlan.sources (r : RoutePlan) : Bool → List String
  | false => r.streams
  | true => r.fetches

namespace Config

def Mentions (c : Config) (place : Place) (topic : String) : Prop :=
  ∃ r endpoint, c.routes[place.route]? = some r ∧
    (r.sources place.fetched)[place.position]? = some endpoint ∧ c.endpoint? endpoint = some topic

/-- The first mention of `topic` comes before all of `other`. -/
def Precedes (c : Config) (topic other : String) : Prop :=
  ∃ first, c.Mentions first topic ∧ ∀ place, c.Mentions place other → first.Before place

/-- The templates of all endpoints that some route streams or fetches, each where it is first
mentioned. -/
structure Prioritized (c : Config) (topics : List String) : Prop where
  mentioned : ∀ topic, topic ∈ topics ↔ ∃ place, c.Mentions place topic
  complete : ∀ r ∈ c.routes, ∀ endpoint ∈ r.streams ++ r.fetches,
    ∃ topic ∈ topics, c.endpoint? endpoint = some topic
  once : topics.Nodup
  inOrder : topics.Pairwise c.Precedes

def located (c : Config) (route : Nat) (r : RoutePlan) (fetched : Bool) : List (Place × String) :=
  (r.sources fetched).zipIdx.filterMap fun (endpoint, position) =>
    (c.endpoint? endpoint).map fun topic => (⟨route, fetched, position⟩, topic)

def mentions (c : Config) : List (Place × String) :=
  c.routes.zipIdx.flatMap fun (r, route) => c.located route r false ++ c.located route r true

variable {c : Config} {r : RoutePlan}

theorem mem_located {route : Nat} {fetched : Bool} {place : Place} {topic : String} :
    (place, topic) ∈ c.located route r fetched ↔
      place.route = route ∧ place.fetched = fetched ∧
        ∃ endpoint, (r.sources fetched)[place.position]? = some endpoint ∧
          c.endpoint? endpoint = some topic := by
  simp only [located, List.mem_filterMap, Option.map_eq_some_iff, Prod.mk.injEq]
  constructor
  · rintro ⟨⟨endpoint, position⟩, listed, topic, found, rfl, rfl⟩
    exact ⟨rfl, rfl, endpoint, List.mem_zipIdx_iff_getElem?.mp listed, found⟩
  · rintro ⟨rfl, rfl, endpoint, listed, found⟩
    exact ⟨(endpoint, place.position), List.mem_zipIdx_iff_getElem?.mpr listed, topic, found, rfl, rfl⟩

theorem mem_mentions {place : Place} {topic : String} :
    (place, topic) ∈ c.mentions ↔ c.Mentions place topic := by
  simp only [mentions, List.mem_flatMap, List.mem_append, mem_located]
  constructor
  · rintro ⟨⟨r, route⟩, listed, ⟨rfl, hf, endpoint, he, found⟩ | ⟨rfl, hf, endpoint, he, found⟩⟩ <;>
      exact ⟨r, endpoint, List.mem_zipIdx_iff_getElem?.mp listed, hf ▸ he, found⟩
  · rintro ⟨r, endpoint, listed, he, found⟩
    refine ⟨(r, place.route), List.mem_zipIdx_iff_getElem?.mpr listed, ?_⟩
    cases hf : place.fetched with
    | false => exact .inl ⟨rfl, rfl, endpoint, hf ▸ he, found⟩
    | true => exact .inr ⟨rfl, rfl, endpoint, hf ▸ he, found⟩

theorem map_located (route : Nat) (fetched : Bool) :
    (c.located route r fetched).map Prod.snd = (r.sources fetched).filterMap c.endpoint? := by
  conv_rhs => rw [← List.zipIdx_map_fst 0 (r.sources fetched), List.filterMap_map]
  simp [located, List.map_filterMap, Function.comp_def]

theorem topicTemplates_eq : c.topicTemplates = (c.mentions.map Prod.snd).eraseDups := by
  have read : c.mentions.map Prod.snd =
      (c.routes.flatMap fun r => r.streams ++ r.fetches).filterMap c.endpoint? := by
    conv_rhs => rw [← List.zipIdx_map_fst 0 c.routes, List.flatMap_map, List.filterMap_flatMap]
    simp only [mentions, List.map_flatMap, List.map_append, map_located, List.filterMap_append]
    rfl
  rw [topicTemplates, read]

-- ---------------------------------------------------------------------------
-- First mentions
-- ---------------------------------------------------------------------------

theorem pairwise_zipIdx (xs : List α) : xs.zipIdx.Pairwise fun x y => x.2 < y.2 := by
  have positions : (xs.zipIdx.map Prod.snd).Pairwise (· < ·) := by
    rw [List.zipIdx_map_snd]
    exact List.pairwise_lt_range'
  exact List.pairwise_map.mp positions

theorem pairwise_located (route : Nat) (fetched : Bool) :
    (c.located route r fetched).Pairwise fun entry other => entry.1.Before other.1 := by
  rw [located, List.pairwise_filterMap]
  refine (pairwise_zipIdx _).imp fun {x y} lt entry he other ho => ?_
  obtain ⟨_, -, rfl⟩ := Option.map_eq_some_iff.mp he
  obtain ⟨_, -, rfl⟩ := Option.map_eq_some_iff.mp ho
  exact .position rfl rfl lt

/-- Mentions are read in the order of their places. -/
theorem pairwise_mentions : c.mentions.Pairwise fun entry other => entry.1.Before other.1 := by
  rw [mentions, List.pairwise_flatMap]
  constructor
  · rintro ⟨r, route⟩ -
    rw [List.pairwise_append]
    refine ⟨pairwise_located .., pairwise_located .., fun entry he other ho => ?_⟩
    obtain ⟨hr, hf, -⟩ := mem_located.mp he
    obtain ⟨hr', hf', -⟩ := mem_located.mp ho
    exact .list (hr.trans hr'.symm) hf hf'
  · have route_eq : ∀ {r route} {entry : Place × String},
        entry ∈ c.located route r false ++ c.located route r true → entry.1.route = route := by
      intro r route entry he
      rcases List.mem_append.mp he with he | he
      · exact (mem_located.mp he).1
      · exact (mem_located.mp he).1
    refine (pairwise_zipIdx _).imp fun lt entry he other ho => ?_
    apply Place.Before.route
    rw [route_eq he, route_eq ho]
    exact lt

def others {ι : Type} (text : String) (entries : List (ι × String)) : List (ι × String) :=
  entries.filter fun entry => !entry.2 == text

theorem mem_others {ι : Type} {entries : List (ι × String)} {entry : ι × String} :
    entry ∈ others text entries ↔ entry ∈ entries ∧ entry.2 ≠ text := by
  simp [others]

theorem map_others {ι : Type} (text : String) (entries : List (ι × String)) :
    (others text entries).map Prod.snd = (entries.map Prod.snd).filter fun other => !other == text := by
  simp [others, List.filter_map, Function.comp_def]

/-- Of what is left of a list without its repetitions, each comes up in the list before all
occurrences of those behind it. -/
theorem pairwise_eraseDups {ι : Type} {before : ι → ι → Prop} (entries : List (ι × String))
    (sorted : entries.Pairwise fun entry other => before entry.1 other.1) :
    (entries.map Prod.snd).eraseDups.Pairwise fun text other =>
      ∃ first, (first, text) ∈ entries ∧ ∀ place, (place, other) ∈ entries → before first place := by
  -- `eraseDups` goes on with the tail less the first text, so the recursion is on that shorter list
  match entries, sorted with
  | [], _ => simp
  | (first, text) :: entries, .cons ahead sorted =>
    have ih := pairwise_eraseDups (others text entries) (sorted.filter _)
    have behind : ∀ other ∈ ((others text entries).map Prod.snd).eraseDups, ∀ place,
        (place, other) ∈ (first, text) :: entries → (place, other) ∈ others text entries := by
      intro other ho place hp
      obtain ⟨entry, he, rfl⟩ := List.mem_map.mp (List.mem_eraseDups.mp ho)
      have differs := (mem_others.mp he).2
      simpa [mem_others, differs] using hp
    rw [List.map_cons, List.eraseDups_cons, ← map_others]
    refine .cons (fun other ho => ?_) (ih.imp_of_mem fun {_ other} _ ho => ?_)
    · refine ⟨first, List.mem_cons_self, fun place hp => ?_⟩
      exact ahead _ (mem_others.mp (behind other ho place hp)).1
    · rintro ⟨first', hf, lt⟩
      refine ⟨first', List.mem_cons_of_mem _ (mem_others.mp hf).1, fun place hp => ?_⟩
      exact lt place (behind other ho place hp)
termination_by entries.length
decreasing_by exact Nat.lt_succ_of_le (List.length_filter_le _ _)

theorem pairwise_topicTemplates : c.topicTemplates.Pairwise c.Precedes := by
  rw [topicTemplates_eq]
  refine (pairwise_eraseDups _ pairwise_mentions).imp ?_
  rintro topic other ⟨first, hf, before⟩
  exact ⟨first, mem_mentions.mp hf, fun place hp => before place (mem_mentions.mpr hp)⟩

theorem not_precedes_self (topic : String) : ¬ c.Precedes topic topic := by
  rintro ⟨first, hf, before⟩
  exact first.not_before_self (before first hf)

theorem mem_topicTemplates {topic : String} :
    topic ∈ c.topicTemplates ↔ ∃ place, c.Mentions place topic := by
  simp [topicTemplates_eq, List.mem_eraseDups, mem_mentions]

theorem prioritized_of_validate (valid : c.validate = .ok ()) :
    c.Prioritized c.topicTemplates where
  mentioned _ := mem_topicTemplates
  complete := by
    intro r hr endpoint he
    obtain ⟨readable, sound⟩ := validate_ok.mp valid
    have known : endpoint ∈ c.endpointNames := by
      rcases List.mem_append.mp he with he | he
      · exact (sound r hr).streams endpoint he
      · exact (sound r hr).fetches endpoint he
    obtain ⟨topic, -, found, -⟩ := endpoint?_known readable known
    refine ⟨topic, ?_, found⟩
    rw [topicTemplates, List.mem_eraseDups, List.mem_filterMap]
    exact ⟨endpoint, List.mem_flatMap.mpr ⟨r, hr, he⟩, found⟩
  once := by
    refine pairwise_topicTemplates.imp ?_
    rintro topic _ precedes rfl
    exact not_precedes_self topic precedes
  inOrder := pairwise_topicTemplates

-- ---------------------------------------------------------------------------
-- Wiring
-- ---------------------------------------------------------------------------

inductive Wired : Nat → List String → List Group → Prop
  | nil : Wired listener [] []
  | cons : Template.parse topic = .ok t → Wired (listener + 1) topics groups →
      Wired listener (topic :: topics) (⟨t, [.external listener]⟩ :: groups)

theorem Wired.raws (h : Wired listener topics groups) : groups.map (·.template.raw) = topics := by
  induction h with
  | nil => rfl
  | cons parsed _ ih => simp [ih, Template.raw_of_parse parsed]

variable {ε ν κ : Type} {hub : Hub ε ν κ}

def grown (groups : List Group) (told : List (Entry ν)) (hub : Hub ε ν κ) : Hub ε ν κ :=
  { hub with bus.topics := hub.bus.topics ++ groups, history := told ++ hub.history }

theorem grown_grown : grown more told' (grown groups told hub) =
    grown (groups ++ more) (told' ++ told) hub := by
  simp [grown]

theorem topicList_grown (wired : Wired listener topics groups) (told : List (Entry ν))
    (hub : Hub ε ν κ) :
    (grown groups told hub).bus.topicList = hub.bus.topicList ++ topics := by
  simp [grown, Bus.topicList, wired.raws]

/-- A topic that is new gets a group of its own, behind all others. -/
theorem register_new (parsed : Template.parse topic = .ok t) (fresh : topic ∉ hub.bus.topicList)
    (l : Listener) :
    ∃ event, Bus.register topic l hub = (.ok (), grown [⟨t, [l]⟩] [.event event] hub) := by
  have joins : Topics.join topic l hub.bus.topics = none := Topics.join_eq_none_iff.mpr fresh
  refine ⟨.groupCreated topic (hub.bus.topics.length + 1), ?_⟩
  rw [Bus.register, Topics.subscribe, joins, parsed]
  rfl

/-- Topics that are new are registered whatever others do, each behind those before it. -/
theorem runs_subscribeTopics {topics : List String} (readable : ∀ topic ∈ topics, Readable topic)
    (listener : Nat) (hub : Hub ε ν κ) (fresh : (hub.bus.topicList ++ topics).Nodup) :
    ∃ groups told, Wired listener topics groups ∧ ∀ rely result hub',
      Runs rely (subscribeTopics listener topics) hub result hub' ↔
        result = .ok () ∧ hub' = grown groups told hub := by
  induction topics generalizing listener hub with
  | nil =>
    refine ⟨[], [], .nil, fun rely result hub' => ?_⟩
    simp [subscribeTopics, grown]
  | cons topic topics ih =>
    obtain ⟨⟨t, parsed⟩, rest⟩ := List.forall_mem_cons.mp readable
    have new : topic ∉ hub.bus.topicList := fun old =>
      (List.nodup_append.mp fresh).2.2 topic old topic List.mem_cons_self rfl
    obtain ⟨event, registered⟩ := register_new parsed new (.external listener)
    have first : Wired listener [topic] [⟨t, [.external listener]⟩] := .cons parsed .nil
    obtain ⟨groups, told, wired, runs⟩ := ih rest (listener + 1)
      (grown [⟨t, [.external listener]⟩] [.event event] hub)
      (by rwa [topicList_grown first, List.append_assoc])
    refine ⟨⟨t, [.external listener]⟩ :: groups, told ++ [.event event], .cons parsed wired, ?_⟩
    intro rely result hub'
    rw [subscribeTopics, Bus.subscribe, Task.runs_atomically_bind, registered]
    rw [grown_grown] at runs
    exact runs rely result hub'

-- ---------------------------------------------------------------------------
-- Winning
-- ---------------------------------------------------------------------------

def Matches (topic source : String) : Prop :=
  ∃ t, Template.parse topic = .ok t ∧ t.test source = true

theorem matches_iff (parsed : Template.parse topic = .ok t) :
    Matches topic source ↔ t.test source = true := by
  simp [Matches, parsed]

/-- What becomes of a message by the topics, and who hears it: the listener of the first that
matches, known by its position. -/
inductive Won (topics : List String) (listener : Nat) (source : String) :
    Outcome → List Listener → Prop
  | unmatched : (∀ topic ∈ topics, ¬ Matches topic source) →
      Won topics listener source (.unmatched source) []
  | delivered (before : List String) : topics = before ++ topic :: after →
      (∀ earlier ∈ before, ¬ Matches earlier source) → Matches topic source →
      Won topics listener source (.delivered topic 1) [.external (listener + before.length)]

theorem Won.cons (h : Won topics (listener + 1) source outcome heard)
    (missed : ¬ Matches topic source) : Won (topic :: topics) listener source outcome heard := by
  cases h with
  | unmatched none => exact .unmatched (List.forall_mem_cons.mpr ⟨missed, none⟩)
  | delivered before split passed matched =>
    rw [Nat.add_assoc, Nat.add_comm 1]
    exact .delivered (topic :: before) (congrArg _ split)
      (List.forall_mem_cons.mpr ⟨missed, passed⟩) matched

/-- The first group that matches has the one listener of the topic that wins. -/
theorem Wired.won (wired : Wired listener topics groups) (source : String) :
    (∀ g ∈ groups, g.template.test source = false) ∧
        Won topics listener source (.unmatched source) [] ∨
      ∃ before g after, Topics.FirstMatch source groups before g after ∧
        (∃ i < topics.length, g.listeners = [.external (listener + i)]) ∧
        Won topics listener source (.delivered g.template.raw 1) g.listeners := by
  induction wired with
  | nil => exact .inl ⟨by simp, .unmatched (by simp)⟩
  | @cons topic t listener topics groups parsed _ ih =>
    cases ht : t.test source with
    | true =>
      refine .inr ⟨[], _, groups, ⟨rfl, by simp, ht⟩, ⟨0, by simp, rfl⟩, ?_⟩
      rw [Template.raw_of_parse parsed]
      exact .delivered [] rfl (by simp) ((matches_iff parsed).mpr ht)
    | false =>
      have missed : ¬ Matches topic source := by simp [matches_iff parsed, ht]
      rcases ih with ⟨none, won⟩ | ⟨before, g, after, ⟨split, passed, matched⟩, ⟨i, hi, own⟩, won⟩
      · exact .inl ⟨List.forall_mem_cons.mpr ⟨ht, none⟩, won.cons missed⟩
      · refine .inr ⟨⟨t, [.external listener]⟩ :: before, g, after, ?_, ?_, won.cons missed⟩
        · exact ⟨congrArg _ split, List.forall_mem_cons.mpr ⟨ht, passed⟩, matched⟩
        · exact ⟨i + 1, Nat.succ_lt_succ hi, by rw [own, Nat.add_assoc, Nat.add_comm 1]⟩

theorem runs_dispatch_wired (wired : Wired listener topics hub.bus.topics) (host : Host ε ν κ)
    (attentive : ∀ i < topics.length, host.deaf hub.host (listener + i) = false)
    (hs : m.source = some source) :
    ∃ outcome heard told, Won topics listener source outcome heard ∧ ∀ rely result last,
      Runs rely (Bus.dispatch host m) hub result last ↔ result = outcome ∧
        Bus.HandedTo host rely m heard { hub with history := told ++ hub.history } last := by
  rcases wired.won source with ⟨none, won⟩ | ⟨before, g, after, first, ⟨i, hi, own⟩, won⟩
  · refine ⟨_, _, [.event (.sourceUnmatched source)], won, fun rely result last => ?_⟩
    rw [Bus.runs_dispatch_unmatched hs none]
    constructor
    · rintro ⟨rfl, rfl⟩
      exact ⟨rfl, .nil⟩
    · rintro ⟨rfl, ⟨⟩⟩
      exact ⟨rfl, rfl⟩
  · have live : g.live (Bus.isClosed host hub) = g.listeners := by
      simp [Group.live, own, Bus.isClosed, attentive i hi]
    have pruned : g.pruned (Bus.isClosed host hub) = g := by rw [Group.pruned, live]
    obtain ⟨told, looked⟩ := Bus.pruneGroup_eq host source before g after hub
    rw [pruned, ← first.split] at looked
    refine ⟨_, _, told, won, fun rely result last => ?_⟩
    rw [Bus.runs_dispatch_some hs first, live, looked]
    simp [own]

/-- Topics come in the order in which routes first mention their endpoints, and once each. They are
wired in this order, in any company, and from then on a message is heard by the one listener of the
first that matches its source. -/
theorem topics_keep_priority (valid : c.validate = .ok ()) :
    c.Prioritized c.topicTemplates ∧
    ∀ (host : Host ε ν κ) (listener : Nat) (hub : Hub ε ν κ), hub.bus.topics = [] →
      (∀ state, ∀ i < c.topicTemplates.length, host.deaf state (listener + i) = false) →
      ∃ wired : Hub ε ν κ, wired.bus.topicList = c.topicTemplates ∧
        (∀ rely result hub', Runs rely (subscribeTopics listener c.topicTemplates) hub result hub' ↔
          result = .ok () ∧ hub' = wired) ∧
        ∀ (later : Hub ε ν κ) (m : Message) (source : String),
          later.bus.topics = wired.bus.topics → m.source = some source →
          ∃ outcome heard told, Won c.topicTemplates listener source outcome heard ∧
            ((Bus.dispatch host m).run later).1 = outcome ∧
            ∀ rely result last, Runs rely (Bus.dispatch host m) later result last ↔
              result = outcome ∧ Bus.HandedTo host rely m heard
                { later with history := told ++ later.history } last := by
  have prioritized := prioritized_of_validate valid
  refine ⟨prioritized, fun host listener hub bare attentive => ?_⟩
  have readable : ∀ topic ∈ c.topicTemplates, Readable topic := fun _ =>
    readable_of_topic (validate_ok.mp valid).1
  have fresh : (hub.bus.topicList ++ c.topicTemplates).Nodup := by
    simpa [Bus.topicList, bare] using prioritized.once
  obtain ⟨groups, told, wired, runs⟩ := runs_subscribeTopics readable listener hub fresh
  refine ⟨grown groups told hub, ?_, runs, fun later m source same hs => ?_⟩
  · rw [topicList_grown wired, Bus.topicList, bare]
    rfl
  have wired' : Wired listener c.topicTemplates later.bus.topics := by
    rw [same]
    simpa [grown, bare] using wired
  obtain ⟨outcome, heard, told', won, runs'⟩ :=
    runs_dispatch_wired wired' host (attentive later.host) hs
  have alone := Task.runs_run (fun _ => rfl) (Bus.dispatch host m) later
  exact ⟨outcome, heard, told', won, ((runs' Eq _ _).mp alone).1, runs'⟩

def feeds : Config where
  name := "feeds"
  initial := ""
  root := "data"
  endpoints := [("any", "feeds/*"), ("byid", "feeds/:id"), ("every", "feeds/*"), ("news", "news/:day")]
  routes := [⟨"feeds/:id", ["news"], ["byid", "any"], ["byid"]⟩, ⟨"all", [], ["every"], ["news"]⟩]

def feedsHost : Host Unit CommandLine.Note String :=
  CommandLine.host (fun _ => none) feeds.root feeds.topicTemplates

theorem topics_keep_priority_feeds :
    feeds.topicTemplates = ["feeds/:id", "feeds/*", "news/:day"] ∧
      feeds.Prioritized feeds.topicTemplates ∧
      ∃ wired : CommandLine.Running, wired.bus.topicList = feeds.topicTemplates ∧
        ((Bus.dispatch feedsHost ⟨some "feeds/a/b", .null⟩).run wired).1 =
          .delivered "feeds/*" 1 := by
  have valid : feeds.validate = .ok () := by cbv
  have topics : feeds.topicTemplates = ["feeds/:id", "feeds/*", "news/:day"] := by cbv
  have named : Template.parse "feeds/:id" =
      .ok ⟨"feeds/:id", [.literal "feeds/".toList, .named ['i', 'd']]⟩ := by cbv
  have any : Template.parse "feeds/*" =
      .ok ⟨"feeds/*", [.literal "feeds/".toList, .wildcard []]⟩ := by cbv
  have misses : ¬ Matches "feeds/:id" "feeds/a/b" := by
    rw [matches_iff named]
    decide
  have hits : Matches "feeds/*" "feeds/a/b" := (matches_iff any).mpr (by decide)
  obtain ⟨prioritized, wires⟩ := topics_keep_priority (ε := Unit) (ν := CommandLine.Note)
    (κ := String) valid
  obtain ⟨wired, listed, -, wins⟩ := wires feedsHost 0 (.new feeds.name feeds.initial ()) rfl
    fun _ _ _ => rfl
  obtain ⟨outcome, heard, -, won, dispatched, -⟩ :=
    wins wired ⟨some "feeds/a/b", .null⟩ "feeds/a/b" rfl rfl
  refine ⟨topics, prioritized, wired, listed, dispatched.trans ?_⟩
  rw [topics] at won
  cases won with
  | unmatched none => exact absurd hits (none _ (by simp))
  | delivered before split passed matched =>
    rcases before with _ | ⟨first, _ | ⟨second, rest⟩⟩
    · cases split
      exact absurd matched misses
    · cases split
      rfl
    · simp only [List.cons_append, List.cons.injEq] at split
      exact absurd hits (passed _ (by simp [split.2.1]))

end Config

end RouteBus
