import Mathlib
import RouteBus.Proofs.Json.Members
import RouteBus.Proofs.Task.Ensures
import RouteBus.Proofs.Template.Factors
import RouteBus.Rehearsal.Session
import RouteBus.Startup

/-!
# What is checked cannot fail later

The check of a configuration reads every template and looks up every name. Starting up reads
the templates and looks the names up again, several times over, and finds nothing that was not
found before: a configuration that loads starts, whatever its routes meet with on the way.
-/

namespace RouteBus

open RouteBus.Task (Ensures Runs ensures_bind ensures_done ensures_atomically)
open RouteBus.Token (bind_ok)

theorem bind_error {x : Except ε α} {f : α → Except ε β} {e : ε} :
    x >>= f = .error e ↔ x = .error e ∨ ∃ a, x = .ok a ∧ f a = .error e := by
  cases x <;> simp [bind, Except.bind]

-- ---------------------------------------------------------------------------
-- Checks along a list
-- ---------------------------------------------------------------------------

theorem forM_ok {ε α : Type} {check : α → Except ε Unit} {xs : List α} {u : Unit} :
    xs.forM check = .ok u ↔ ∀ x ∈ xs, check x = .ok () := by
  induction xs with
  | nil => simp [List.forM, pure, Except.pure]
  | cons x xs ih =>
    rw [List.forM, bind_ok]
    simp only [ih, List.forall_mem_cons]
    constructor
    · rintro ⟨⟨⟩, hx, hxs⟩; exact ⟨hx, hxs⟩
    · rintro ⟨hx, hxs⟩; exact ⟨(), hx, hxs⟩

/-- A check along a list fails as the first member does that fails it. -/
theorem forM_error {check : α → Except ε Unit} {xs : List α} {e : ε} :
    xs.forM check = .error e ↔
      ∃ before x after, xs = before ++ x :: after ∧ (∀ y ∈ before, check y = .ok ()) ∧
        check x = .error e := by
  induction xs with
  | nil => simp [List.forM, pure, Except.pure]
  | cons x xs ih =>
    rw [List.forM, bind_error]
    simp only [ih]
    constructor
    · rintro (failed | ⟨⟨⟩, passed, before, y, after, rfl, hb, hy⟩)
      · exact ⟨[], x, xs, rfl, by simp, failed⟩
      · exact ⟨x :: before, y, after, rfl, by simpa [passed] using hb, hy⟩
    · rintro ⟨before, y, after, he, hb, hy⟩
      cases before with
      | nil =>
        cases he
        exact .inl hy
      | cons z before =>
        cases he
        obtain ⟨passed, hb⟩ := List.forall_mem_cons.mp hb
        exact .inr ⟨(), passed, before, y, after, rfl, hb, hy⟩

theorem mapM_ok {f : α → Except ε β} {R : α → β → Prop} {xs : List α}
    (h : ∀ x ∈ xs, ∃ y, f x = .ok y ∧ R x y) : ∃ ys, xs.mapM f = .ok ys ∧ List.Forall₂ R xs ys := by
  induction xs with
  | nil => exact ⟨[], rfl, .nil⟩
  | cons x xs ih =>
    obtain ⟨⟨y, hy, hR⟩, hxs⟩ := List.forall_mem_cons.mp h
    obtain ⟨ys, hys, hRs⟩ := ih hxs
    exact ⟨y :: ys, by rw [List.mapM_cons, hy, hys]; rfl, .cons hR hRs⟩

-- ---------------------------------------------------------------------------
-- What is right
-- ---------------------------------------------------------------------------

def Readable (text : String) : Prop := ∃ t, Template.parse text = .ok t

namespace Config

def endpointNames (c : Config) : List String := c.endpoints.map Prod.fst

def Ordered (c : Config) : Prop := c.endpointNames.Pairwise (· < ·)

structure Sound (c : Config) (r : RoutePlan) : Prop where
  template : Readable r.template
  closes : ∀ endpoint ∈ r.closes, endpoint ∈ c.endpointNames
  streams : ∀ endpoint ∈ r.streams, endpoint ∈ c.endpointNames
  fetches : ∀ endpoint ∈ r.fetches, endpoint ∈ c.endpointNames

/-- What is wrong where nothing before it is: endpoints come by name and before the routes, routes
as they are written, each with its template first and then the names that it closes, streams and
fetches. -/
inductive FirstProblem (c : Config) : ConfigError → Prop
  | endpoint : (endpoint, text) ∈ c.endpoints →
      (∀ entry ∈ c.endpoints, entry.1 < endpoint → Readable entry.2) →
      Template.parse text = .error e → FirstProblem c (.invalidTemplate e)
  | template : (∀ entry ∈ c.endpoints, Readable entry.2) → c.routes = before ++ r :: after →
      (∀ other ∈ before, c.Sound other) →
      Template.parse r.template = .error e → FirstProblem c (.invalidTemplate e)
  | missing : (∀ entry ∈ c.endpoints, Readable entry.2) → c.routes = before ++ r :: after →
      (∀ other ∈ before, c.Sound other) → Readable r.template →
      r.closes ++ r.streams ++ r.fetches = known ++ endpoint :: rest →
      (∀ other ∈ known, other ∈ c.endpointNames) →
      endpoint ∉ c.endpointNames → FirstProblem c (.unknownEndpoint r.template endpoint)

variable {c : Config} {r : RoutePlan}

-- ---------------------------------------------------------------------------
-- What the check finds
-- ---------------------------------------------------------------------------

theorem checkTemplate_ok : checkTemplate text = .ok () ↔ Readable text := by
  unfold checkTemplate Readable
  split <;> simp [*]

theorem checkTemplate_error :
    checkTemplate text = .error problem ↔
      ∃ e, Template.parse text = .error e ∧ problem = .invalidTemplate e := by
  unfold checkTemplate
  split <;> simp [*, eq_comm]

theorem endpoint?_isNone : (c.endpoint? endpoint).isNone = true ↔ endpoint ∉ c.endpointNames := by
  simp only [endpoint?, member?, Option.isNone_map, Option.isNone_iff_eq_none, List.find?_eq_none,
    beq_iff_eq, endpointNames, List.mem_map, not_exists, not_and]

theorem checkRoute_ok : c.checkRoute r = .ok () ↔ c.Sound r := by
  have names : (∀ endpoint ∈ r.endpointNames, ¬ (c.endpoint? endpoint).isNone = true) ↔
      (∀ endpoint ∈ r.closes, endpoint ∈ c.endpointNames) ∧
        (∀ endpoint ∈ r.streams, endpoint ∈ c.endpointNames) ∧
        ∀ endpoint ∈ r.fetches, endpoint ∈ c.endpointNames := by
    simp only [RoutePlan.endpointNames, List.mem_append, or_imp, forall_and, endpoint?_isNone,
      not_not, and_assoc]
  rw [checkRoute, bind_ok]
  constructor
  · rintro ⟨⟨⟩, read, found⟩
    split at found
    · rename_i known
      obtain ⟨hc, hs, hf⟩ := names.mp (List.find?_eq_none.mp known)
      exact ⟨checkTemplate_ok.mp read, hc, hs, hf⟩
    · cases found
  · rintro ⟨readable, hc, hs, hf⟩
    have known := List.find?_eq_none.mpr (names.mpr ⟨hc, hs, hf⟩)
    exact ⟨(), checkTemplate_ok.mpr readable, by rw [known]; rfl⟩

theorem checkRoute_error :
    c.checkRoute r = .error problem ↔
      (∃ e, Template.parse r.template = .error e ∧ problem = .invalidTemplate e) ∨
      Readable r.template ∧ ∃ known endpoint rest,
        r.closes ++ r.streams ++ r.fetches = known ++ endpoint :: rest ∧
        (∀ other ∈ known, other ∈ c.endpointNames) ∧ endpoint ∉ c.endpointNames ∧
        problem = .unknownEndpoint r.template endpoint := by
  have first : ∀ endpoint,
      r.endpointNames.find? (fun name => (c.endpoint? name).isNone) = some endpoint ↔
      endpoint ∉ c.endpointNames ∧ ∃ known rest,
        r.closes ++ r.streams ++ r.fetches = known ++ endpoint :: rest ∧
        ∀ other ∈ known, other ∈ c.endpointNames := by
    intro endpoint
    rw [List.find?_eq_some_iff_append, endpoint?_isNone]
    simp only [RoutePlan.endpointNames, Bool.not_eq_eq_eq_not, Bool.not_true, ← Bool.not_eq_true,
      endpoint?_isNone, not_not]
  rw [checkRoute, bind_error, checkTemplate_error]
  apply or_congr Iff.rfl
  constructor
  · rintro ⟨⟨⟩, read, found⟩
    split at found
    · cases found
    · rename_i endpoint hf
      obtain ⟨unknown, known, rest, he, hk⟩ := (first endpoint).mp hf
      cases found
      exact ⟨checkTemplate_ok.mp read, known, endpoint, rest, he, hk, unknown, rfl⟩
  · rintro ⟨readable, known, endpoint, rest, he, hk, unknown, rfl⟩
    have found := (first endpoint).mpr ⟨unknown, known, rest, he, hk⟩
    exact ⟨(), checkTemplate_ok.mpr readable, by rw [found]; rfl⟩

theorem validate_ok :
    c.validate = .ok () ↔
      (∀ entry ∈ c.endpoints, Readable entry.2) ∧ ∀ r ∈ c.routes, c.Sound r := by
  rw [validate, bind_ok]
  simp only [forM_ok, checkTemplate_ok, checkRoute_ok]
  constructor
  · rintro ⟨⟨⟩, readable, sound⟩; exact ⟨readable, sound⟩
  · rintro ⟨readable, sound⟩; exact ⟨(), readable, sound⟩

/-- Of entries in the order of their names, those before one are those of smaller names. -/
theorem Ordered.mem_before (ordered : c.Ordered) (he : c.endpoints = before ++ entry :: after)
    {other : String × String} : other ∈ before ↔ other ∈ c.endpoints ∧ other.1 < entry.1 := by
  rw [Ordered, endpointNames, he, List.map_append, List.map_cons, List.pairwise_append,
    List.pairwise_cons] at ordered
  obtain ⟨-, ⟨behind, -⟩, ahead⟩ := ordered
  rw [he, List.mem_append, List.mem_cons]
  constructor
  · intro ho
    exact ⟨.inl ho, ahead _ (List.mem_map_of_mem ho) _ List.mem_cons_self⟩
  · rintro ⟨ho | rfl | ho, lt⟩
    · exact ho
    · exact absurd lt (lt_irrefl _)
    · exact absurd (lt.trans (behind _ (List.mem_map_of_mem ho))) (lt_irrefl _)

theorem validate_error (ordered : c.Ordered) :
    c.validate = .error problem ↔ c.FirstProblem problem := by
  rw [validate, bind_error]
  simp only [forM_ok, forM_error, checkTemplate_ok, checkTemplate_error, checkRoute_ok,
    checkRoute_error]
  constructor
  · rintro (⟨before, ⟨endpoint, text⟩, after, he, hb, e, hp, rfl⟩ |
      ⟨⟨⟩, readable, before, r, after, he, hb, ⟨e, hp, rfl⟩ |
        ⟨hr, known, endpoint, rest, hn, hk, unknown, rfl⟩⟩)
    · have listed : (endpoint, text) ∈ c.endpoints := by simp [he]
      refine .endpoint listed (fun entry hm lt => hb entry ?_) hp
      exact (ordered.mem_before he).mpr ⟨hm, lt⟩
    · exact .template readable he hb hp
    · exact .missing readable he hb hr hn hk unknown
  · intro h
    cases h with
    | endpoint listed smaller hp =>
      obtain ⟨before, after, he⟩ := List.append_of_mem listed
      refine .inl ⟨before, _, after, he, fun entry hm => ?_, _, hp, rfl⟩
      obtain ⟨hm, lt⟩ := (ordered.mem_before he).mp hm
      exact smaller entry hm lt
    | template readable he hb hp =>
      exact .inr ⟨(), readable, _, _, _, he, hb, .inl ⟨_, hp, rfl⟩⟩
    | missing readable he hb hr hn hk unknown =>
      exact .inr ⟨(), readable, _, _, _, he, hb, .inr ⟨hr, _, _, _, hn, hk, unknown, rfl⟩⟩

-- ---------------------------------------------------------------------------
-- What is loaded
-- ---------------------------------------------------------------------------

theorem pairwise_readEndpoints (h : readEndpoints j = some entries) :
    (entries.map Prod.fst).Pairwise (· < ·) := by
  have sorted : ∀ (read acc : List (String × String)), (acc.map Prod.fst).Pairwise (· < ·) →
      ((read.foldl (fun sorted entry => putMember entry.1 entry.2 sorted) acc).map
        Prod.fst).Pairwise (· < ·) := by
    intro read
    induction read with
    | nil => exact fun _ => id
    | cons entry read ih => exact fun acc ha => ih _ (pairwise_putMember ha)
  obtain ⟨members, -, h⟩ := Option.bind_eq_some_iff.mp h
  obtain ⟨read, -, h⟩ := Option.bind_eq_some_iff.mp h
  obtain rfl := Option.some.inj h
  exact sorted read [] .nil

theorem ordered_of_ofJson5? (h : ofJson5? j = some c) : c.Ordered := by
  obtain ⟨fields, -, h⟩ := Option.bind_eq_some_iff.mp h
  split at h
  · simp only [bind, Option.bind_eq_some_iff] at h
    obtain ⟨_, -, _, -, _, -, entries, he, _, -, h⟩ := h
    obtain rfl := Option.some.inj h
    obtain ⟨field, -, he⟩ := Option.bind_eq_some_iff.mp he
    exact pairwise_readEndpoints he
  · cases h

/-- What is loaded has been checked. -/
theorem checked_of_parse (h : parse text = .ok c) : c.Ordered ∧ c.validate = .ok () := by
  unfold parse at h
  split at h
  · cases h
  · rename_i read he
    obtain ⟨⟨⟩, valid, h⟩ := bind_ok.mp h
    cases h
    obtain ⟨j, -, hj⟩ := Option.bind_eq_some_iff.mp he
    exact ⟨ordered_of_ofJson5? hj, valid⟩

end Config

-- ---------------------------------------------------------------------------
-- Starting up
-- ---------------------------------------------------------------------------

/-- Wherever it is begun and in any company, the task ends without an error. -/
def Succeeds (t : Task σ (Except δ Unit)) : Prop :=
  ∀ rely, Ensures rely (fun _ => True) t fun result _ => result = .ok ()

theorem Succeeds.run {t : Task σ (Except δ Unit)} (h : Succeeds t) (s : σ) :
    (t.run s).1 = .ok () :=
  h Eq s _ _ trivial (Task.runs_eq_iff.mpr rfl)

theorem succeeds_done : Succeeds (.done (.ok ()) : Task σ (Except δ Unit)) := fun _ =>
  ensures_done fun _ _ => rfl

theorem Succeeds.bind {t : Task σ (Except δ Unit)} {k : Except δ Unit → Task σ (Except δ' Unit)}
    (ht : Succeeds t) (hk : Succeeds (k (.ok ()))) : Succeeds (t >>= k) := by
  intro rely s result s' _ h
  obtain ⟨a, mid, h, hk'⟩ := Task.runs_bind.mp h
  obtain rfl := ht rely s a mid trivial h
  exact hk rely mid result s' trivial hk'

/-- What comes before the last part and what it gives do not matter. -/
theorem Succeeds.after {t : Task σ α} {k : α → Task σ (Except δ Unit)}
    (hk : ∀ a, Succeeds (k a)) : Succeeds (t >>= k) := by
  intro rely s result s' _ h
  obtain ⟨a, mid, -, h⟩ := Task.runs_bind.mp h
  exact hk a rely mid result s' trivial h

variable {ε ν κ : Type} {c : Config} {r : RoutePlan}

theorem succeeds_subscribe (readable : Readable text) (l : Listener) :
    Succeeds (Bus.subscribe text l : Task (Hub ε ν κ) (Except TemplateError Unit)) := by
  obtain ⟨t, parsed⟩ := readable
  intro rely
  apply ensures_atomically
  intro hub _
  have joined : ∃ topics, Topics.subscribe hub.bus.topics text l = .ok topics := by
    unfold Topics.subscribe
    split
    · exact ⟨_, rfl⟩
    · exact ⟨_, by rw [parsed]; rfl⟩
  obtain ⟨topics, hj⟩ := joined
  rw [Bus.register, hj]

/-- Registering a route gives no error of the chains that are run at once. -/
theorem succeeds_register (readable : Readable text) (host : Host ε ν κ)
    (chains : List (RouteChain κ)) : Succeeds (Router.register host text chains) := by
  obtain ⟨t, parsed⟩ := readable
  rw [Router.register, parsed]
  refine .after fun index => .after fun location => .after fun fired => ?_
  cases fired with
  | none => exact succeeds_done
  | some params => exact .after fun _ => succeeds_done

namespace Config

theorem endpoint?_mem (h : c.endpoint? endpoint = some text) : (endpoint, text) ∈ c.endpoints := by
  obtain ⟨entry, found, rfl⟩ := Option.map_eq_some_iff.mp h
  have hn : entry.1 = endpoint := by simpa using List.find?_some found
  exact hn ▸ List.mem_of_find?_eq_some found

theorem readable_of_topic (readable : ∀ entry ∈ c.endpoints, Readable entry.2)
    (h : topic ∈ c.topicTemplates) : Readable topic := by
  rw [topicTemplates, List.mem_eraseDups, List.mem_filterMap] at h
  obtain ⟨endpoint, -, found⟩ := h
  exact readable _ (endpoint?_mem found)

theorem endpoint?_known (readable : ∀ entry ∈ c.endpoints, Readable entry.2)
    (known : endpoint ∈ c.endpointNames) :
    ∃ text t, c.endpoint? endpoint = some text ∧ Template.parse text = .ok t := by
  cases found : c.endpoint? endpoint with
  | none => exact absurd known (endpoint?_isNone.mp (by rw [found]; rfl))
  | some text =>
    obtain ⟨t, parsed⟩ := readable _ (endpoint?_mem found)
    exact ⟨text, t, rfl, parsed⟩

def IsStep (c : Config) (operation : Operation) (endpoint : String) (chain : RouteChain κ) : Prop :=
  ∃ text t, c.endpoint? endpoint = some text ∧ Template.parse text = .ok t ∧
    chain = .leaf (.bus operation t Params.values)

theorem endpointSteps_ok (readable : ∀ entry ∈ c.endpoints, Readable entry.2)
    {endpoints : List String} (known : ∀ endpoint ∈ endpoints, endpoint ∈ c.endpointNames)
    (operation : Operation) :
    ∃ chains : List (RouteChain κ), endpoints.mapM (c.endpointStep r operation) = .ok chains ∧
      List.Forall₂ (c.IsStep operation) endpoints chains := by
  apply mapM_ok
  intro endpoint he
  obtain ⟨text, t, found, parsed⟩ := endpoint?_known readable (known endpoint he)
  refine ⟨_, ?_, text, t, found, parsed, rfl⟩
  rw [endpointStep, found]
  dsimp only
  rw [RouteStep.busAt_of_parse parsed]

theorem routeChains_ok (valid : c.validate = .ok ()) (hr : r ∈ c.routes) (last : κ) :
    ∃ closes streams fetches,
      c.routeChains last r = .ok (closes ++ streams ++ fetches ++ [.leaf (.custom last)]) ∧
      List.Forall₂ (c.IsStep .close) r.closes closes ∧
      List.Forall₂ (c.IsStep .stream) r.streams streams ∧
      List.Forall₂ (c.IsStep .fetch) r.fetches fetches := by
  obtain ⟨readable, sound⟩ := validate_ok.mp valid
  obtain ⟨closes, hcloses, hc⟩ := endpointSteps_ok readable (sound r hr).closes .close
  obtain ⟨streams, hstreams, hs⟩ := endpointSteps_ok readable (sound r hr).streams .stream
  obtain ⟨fetches, hfetches, hf⟩ := endpointSteps_ok readable (sound r hr).fetches .fetch
  exact ⟨closes, streams, fetches, by rw [routeChains, hcloses, hstreams, hfetches]; rfl, hc, hs, hf⟩

theorem succeeds_subscribeTopics {topics : List String} (readable : ∀ topic ∈ topics, Readable topic)
    (listener : Nat) :
    Succeeds (subscribeTopics listener topics : Task (Hub ε ν κ) (Except ConfigError Unit)) := by
  induction topics generalizing listener with
  | nil => exact succeeds_done
  | cons topic topics ih =>
    obtain ⟨first, rest⟩ := List.forall_mem_cons.mp readable
    exact (succeeds_subscribe first _).bind (ih rest (listener + 1))

theorem succeeds_addRoutes (valid : c.validate = .ok ()) (host : Host ε ν κ) (last : String → κ)
    {routes : List RoutePlan} (listed : ∀ r ∈ routes, r ∈ c.routes) :
    Succeeds (c.addRoutes host last routes) := by
  induction routes with
  | nil => exact succeeds_done
  | cons r routes ih =>
    obtain ⟨first, rest⟩ := List.forall_mem_cons.mp listed
    obtain ⟨closes, streams, fetches, hc, -⟩ := routeChains_ok valid first (last r.template)
    have added : Succeeds (c.addRoute host last r) := by
      rw [addRoute, hc]
      have readable := ((validate_ok.mp valid).2 r first).template
      exact (succeeds_register readable host _).bind succeeds_done
    exact added.bind (ih rest)

theorem succeeds_start (valid : c.validate = .ok ()) (host : Host ε ν κ) (last : String → κ)
    (listener : Nat) : Succeeds (c.start host last listener) := by
  have readable : ∀ topic ∈ c.topicTemplates, Readable topic := fun _ =>
    readable_of_topic (validate_ok.mp valid).1
  exact (succeeds_subscribeTopics readable listener).bind
    (succeeds_addRoutes valid host last fun _ => id)

/-- The check succeeds for just the configurations that are right and otherwise reports their first
problem. Where it succeeds, nothing fails that is done to start up. -/
theorem validation_decides_startup (ordered : c.Ordered) :
    (c.validate = .ok () ↔
      (∀ entry ∈ c.endpoints, Readable entry.2) ∧ ∀ r ∈ c.routes, c.Sound r) ∧
    (∀ problem, c.validate = .error problem ↔ c.FirstProblem problem) ∧
    (c.validate = .ok () → ∀ host : Host ε ν κ,
      (∀ topic ∈ c.topicTemplates, ∀ l,
        Succeeds (Bus.subscribe topic l : Task (Hub ε ν κ) (Except TemplateError Unit))) ∧
      (∀ r ∈ c.routes, ∀ last : κ, ∃ chains, c.routeChains last r = .ok chains) ∧
      (∀ r ∈ c.routes, ∀ chains, Succeeds (Router.register host r.template chains)) ∧
      ∀ last listener, Succeeds (c.start host last listener) ∧
        ∀ hub, ((c.start host last listener).run hub).1 = .ok ()) := by
  refine ⟨validate_ok, fun _ => validate_error ordered, fun valid host => ?_⟩
  obtain ⟨readable, sound⟩ := validate_ok.mp valid
  refine ⟨fun topic ht => ?_, fun r hr last => ?_, fun r hr => ?_, fun last listener => ?_⟩
  · exact succeeds_subscribe (readable_of_topic readable ht)
  · obtain ⟨_, _, _, hc, -⟩ := routeChains_ok valid hr last
    exact ⟨_, hc⟩
  · exact succeeds_register (sound r hr).template host
  · have started := succeeds_start valid host last listener
    exact ⟨started, started.run⟩

def rooms : Config where
  name := "rooms"
  initial := "/room/a"
  root := "data"
  endpoints := [("said", "said/:room"), ("stream", "live/:room")]
  routes := [⟨"/room/:room", ["stream"], ["stream"], ["said"]⟩]

def troubled : Rehearsal.Staging :=
  .new rooms.name rooms.initial
    { Rehearsal.Scene.new with wire := Rehearsal.Wire.new.refuse "live/a" }

def troubledStart : Except ConfigError Unit × Rehearsal.Staging :=
  (rooms.start Rehearsal.host .finish 0).run troubled

theorem validation_decides_startup_rooms :
    rooms.Ordered ∧ rooms.validate = .ok () ∧ troubledStart.1 = .ok () ∧
      .event (.openFailed "live/a" ⟨"live/a", "connection refused"⟩) ∈ troubledStart.2.history ∧
      { rooms with routes := [⟨"/", ["said", "heard"], ["lost"], []⟩] }.FirstProblem
        (.unknownEndpoint "/" "heard") := by
  have ordered : rooms.endpointNames.Pairwise (· < ·) := by decide
  have valid : rooms.validate = .ok () := by cbv
  obtain ⟨-, -, starts⟩ := validation_decides_startup (c := rooms) ordered
  obtain ⟨-, -, -, started⟩ := starts valid Rehearsal.host
  have refused : troubledStart.2.history[7]? =
      some (.event (.openFailed "live/a" ⟨"live/a", "connection refused"⟩)) := by cbv
  have missing : { rooms with routes := [⟨"/", ["said", "heard"], ["lost"], []⟩] }.validate =
      .error (.unknownEndpoint "/" "heard") := by cbv
  obtain ⟨-, reports, -⟩ := validation_decides_startup (ε := Unit) (ν := Unit) (κ := Unit)
    (c := { rooms with routes := [⟨"/", ["said", "heard"], ["lost"], []⟩] }) ordered
  exact ⟨ordered, valid, (started .finish 0).2 _, List.mem_of_getElem? refused,
    (reports _).mp missing⟩

end Config

end RouteBus
