import Mathlib
import RouteBus.Proofs.Bus.Ledger
import RouteBus.Proofs.Bus.Replacing
import RouteBus.Proofs.Chain.Grouping
import RouteBus.Proofs.Rehearsal.Lawful

/-!
# Switching streams

A route that closes what a template matches and then opens the target of that template.
Whoever goes from location to location has one stream of the template at a time: that of the
last location, or none if its connect was refused.
-/

namespace RouteBus

open RouteBus.Task (Ensures Runs)

def Chain.parts : Chain κ → List (Chain κ)
  | .skip => []
  | .leaf step => [.leaf step]
  | .andThen first second => first.parts ++ second.parts
  | .both left right => [.both left right]

def HandsOn (host : Host ε ν κ) (chain : RouteChain κ) : Prop :=
  ∀ params, Ensures Aside (fun _ => True) (chain.run (Router.perform host) params)
    fun given _ => given = params

/-- The route closes what the template matches and later opens its target, both with the same
arguments. Nothing else that it runs has to do with connections. -/
structure Switching (host : Host ε ν κ) (t : Template) (args : Params → List String)
    (route : Route κ) : Prop where
  parts : ∃ before between after, route.chains.flatMap Chain.parts =
      before ++ .leaf (.bus .close t args) :: (between ++ .leaf (.bus .stream t args) :: after) ∧
    (∀ chain ∈ before ++ between ++ after, chain.Aloof) ∧
    ∀ chain ∈ before ++ between, HandsOn host chain

/-- One key is open or its connect was refused. If it was open, it stays so untouched. -/
structure Switched (key : String) (hub hub' : Hub ε ν κ) : Prop extends Replaced key hub hub' where
  kept : key ∈ hub.bus.connections.keys → Aside hub hub'

def Changed (t : Template) (args : Params → List String) (hub : Hub ε ν κ) :
    Option Params → Hub ε ν κ → Prop
  | none => Aside hub
  | some params => Switched (t.resolve (args params)).uri hub

/-- A navigation, or a registration with its replay, of a router with one switching route and
none beside it that has to do with connections; and what that route captures of the current
location. -/
inductive Visit (host : Host ε ν κ) (t : Template) (args : Params → List String)
    (hub : Hub ε ν κ) : Option Params → Task (Hub ε ν κ) Unit → Prop
  | navigate (navigation : Navigation) : hub.router.routes = before ++ route :: after →
      (∀ other ∈ before ++ after, ∀ chain ∈ other.chains, chain.Aloof) →
      Switching host t args route →
      Visit host t args hub (route.template.captures hub.router.location.current)
        ((fun _ => ()) <$> Router.onNavigation host navigation)
  | register : Template.parse text = .ok template → Switching host t args ⟨template, chains⟩ →
      Visit host t args hub (template.captures hub.router.location.current)
        ((fun _ => ()) <$> Router.register host text chains)

/-- What a bus without connections comes to by visits, one after another. Between them others
may do anything but open and close connections. -/
inductive Visited (host : Host ε ν κ) (t : Template) (args : Params → List String) :
    Hub ε ν κ → Prop
  | start : Unconnected hub → Visited host t args hub
  | meanwhile : Visited host t args hub → Aside hub hub' → Visited host t args hub'
  | visit : Visited host t args hub → Visit host t args hub captured task →
      (∀ params ∈ captured, t.Fits (args params)) → Runs Aside task hub () hub' →
      Visited host t args hub'

structure Resting (t : Template) (hub : Hub ε ν κ) : Prop where
  balanced : Balanced hub 0
  unclaimed : hub.bus.connections.pending = []
  streams : hub.bus.connections.keys = [] ∨
    ∃ key, hub.bus.connections.keys = [key] ∧ t.test key = true

variable {ε ν κ α : Type} {hub hub' last : Hub ε ν κ} {host : Host ε ν κ} {t : Template}
  {args : Params → List String} {pre mid post : Hub ε ν κ → Prop} {params : Params}

-- ---------------------------------------------------------------------------
-- Parts of chains
-- ---------------------------------------------------------------------------

theorem runChains_parts (chain : RouteChain κ) (params : Params) :
    Router.runChains host chain.parts params = chain.run (Router.perform host) params := by
  induction chain generalizing params with
  | skip => rfl
  | leaf | both => exact runChains_singleton _ params
  | andThen first second ih₁ ih₂ =>
    rw [Chain.parts, runChains_append, ih₁, Chain.run]
    exact congrArg _ (funext ih₂)

theorem runChains_flatMap_parts (chains : List (RouteChain κ)) (params : Params) :
    Router.runChains host (chains.flatMap Chain.parts) params =
      Router.runChains host chains params := by
  induction chains generalizing params with
  | nil => rfl
  | cons chain chains ih =>
    rw [List.flatMap_cons, runChains_append, runChains_parts, Router.runChains]
    exact congrArg _ (funext ih)

theorem handsOn_leaf {step : RouteStep κ} (h : ∀ own, step ≠ .custom own) :
    HandsOn host (.leaf step) := by
  intro params
  cases step with
  | bus | go =>
    refine Task.ensures_bind (fun _ _ _ _ _ => trivial) fun _ => ?_
    exact Task.ensures_done fun _ _ => rfl
  | custom own => exact absurd rfl (h own)

theorem ensures_handed (quiet : host.Quiet) (stable : Stable pre) (chains : List (RouteChain κ))
    (aloof : ∀ chain ∈ chains, chain.Aloof) (on : ∀ chain ∈ chains, HandsOn host chain) :
    Ensures Aside pre (Router.runChains host chains params)
      fun given hub => given = params ∧ pre hub := by
  induction chains with
  | nil => exact Task.ensures_done fun _ hp => ⟨rfl, hp⟩
  | cons chain chains ih =>
    have kept := (aloof_chain quiet chain (aloof chain List.mem_cons_self) params).ensures stable
    refine Task.ensures_then params (fun hub given hub' hp hr => ⟨?_, kept hub given hub' hp hr⟩) ?_
    · exact on chain List.mem_cons_self params hub given hub' trivial hr
    · exact ih (fun chain hc => aloof chain (List.mem_cons_of_mem _ hc))
        fun chain hc => on chain (List.mem_cons_of_mem _ hc)

theorem ensures_perform (operation : Operation) (stable : Stable post)
    (h : Ensures Aside pre (Bus.attempt host t (args params) operation) fun _ => post) :
    Ensures Aside pre (Router.perform host (.bus operation t args) params)
      fun given hub => given = params ∧ post hub := by
  have carried : Ensures Aside pre (Bus.carryOut host operation t (args params))
      fun _ => post := by
    refine Task.ensures_bind h fun outcome => ?_
    cases outcome with
    | ok => exact Task.ensures_done fun _ => id
    | error e => exact ensures_record stable _ fun _ => rfl
  exact Task.ensures_bind carried fun _ => Task.ensures_done fun _ hp => ⟨rfl, hp⟩

-- ---------------------------------------------------------------------------
-- The chain of a switching route
-- ---------------------------------------------------------------------------

theorem stable_switched (key : String) (hub : Hub ε ν κ) : Stable (Switched key hub) :=
  fun _ _ h hs => ⟨stable_replaced key hub _ _ h hs.toReplaced, fun hk => (hs.kept hk).trans h⟩

theorem Switching.ensures (quiet : host.Quiet) (sw : Switching host t args route)
    (closes : Ensures Aside pre (Bus.closeTarget host t (t.resolve (args params))) fun _ => mid)
    (opens : Ensures Aside mid (Bus.openTarget host (t.resolve (args params)).uri) fun _ => post)
    (stable₁ : Stable pre) (stable₂ : Stable mid) (stable₃ : Stable post) :
    Ensures Aside pre (Router.runChains host route.chains params) fun _ => post := by
  obtain ⟨before, between, after, hparts, aloof, on⟩ := sw.parts
  simp only [List.mem_append, or_imp, forall_and] at aloof on
  obtain ⟨⟨aloof₁, aloof₂⟩, aloof₃⟩ := aloof
  rw [← runChains_flatMap_parts, hparts, runChains_append]
  refine Task.ensures_then params (ensures_handed quiet stable₁ before aloof₁ on.1) ?_
  refine Task.ensures_then params (ensures_perform .close stable₂ (Task.ensures_map closes)) ?_
  rw [runChains_append]
  refine Task.ensures_then params (ensures_handed quiet stable₂ between aloof₂ on.2) ?_
  refine Task.ensures_then params (ensures_perform .stream stable₃ (Task.ensures_map opens)) ?_
  exact (aloof_runChains quiet after aloof₃ params).ensures stable₃

theorem Resting.keys_eq (rest : Resting t hub) (hk : key ∈ hub.bus.connections.keys) :
    hub.bus.connections.keys = [key] := by
  rcases rest.streams with he | ⟨other, he, -⟩
  · simp [he] at hk
  · rw [he, List.mem_singleton] at hk
    rw [he, hk]

theorem Resting.test (rest : Resting t hub) (handle : Handle)
    (hm : handle ∈ hub.bus.connections.opened) : t.test handle.key = true := by
  have hk : handle.key ∈ hub.bus.connections.keys := List.mem_map_of_mem hm
  rcases rest.streams with he | ⟨key, he, ht⟩
  · simp [he] at hk
  · rw [he, List.mem_singleton] at hk
    rwa [hk]

theorem Switching.switches (quiet : host.Quiet) (hp : Template.parse text = .ok t)
    (sw : Switching host t args route) (rest : Resting t hub) (fits : t.Fits (args params)) :
    Ensures Aside (Aside hub) (Router.runChains host route.chains params)
      fun _ => Switched (t.resolve (args params)).uri hub := by
  have wanted := isConnected_target (c := hub.bus.connections) hp fits
  by_cases hk : (t.resolve (args params)).uri ∈ hub.bus.connections.keys
  · -- The target is open, and nothing beside it: both steps leave it alone.
    have stays : Ensures Aside (Aside hub) (Router.runChains host route.chains params)
        fun _ => Aside hub :=
      sw.ensures quiet (Bus.ensures_closeTarget_wanted fits.complete (wanted.mpr (.inl hk)))
        (Bus.ensures_openTarget_wanted (wanted.mpr (.inl hk))) (stable_aside hub)
        (stable_aside hub) (stable_aside hub)
    intro s a s' hs hr
    have ha := stays s a s' hs hr
    refine ⟨⟨.inl ?_, ?_⟩, fun _ => ha⟩
    · rw [ha.connections, rest.keys_eq hk]
    · rw [ha.connections, rest.unclaimed]
  · -- It is not open. What is open matches the template, so the close takes all of it.
    have unwanted : hub.bus.connections.isConnected (t.resolve (args params)).uri = false := by
      rw [← Bool.not_eq_true, wanted, rest.unclaimed]
      simpa using hk
    have replaces : Ensures Aside (Since hub hub.bus.connections)
        (Router.runChains host route.chains params)
        fun _ => Replaced (t.resolve (args params)).uri hub :=
      sw.ensures quiet (Bus.ensures_closeTarget_all quiet unwanted rest.unclaimed rest.test)
        (Bus.ensures_openTarget quiet _) (stable_since hub _) (stable_since hub _)
        (stable_replaced _ hub)
    intro s a s' hs hr
    exact ⟨replaces s a s' hs.since hr, fun h => absurd h hk⟩

-- ---------------------------------------------------------------------------
-- Navigations
-- ---------------------------------------------------------------------------

theorem stable_changed (hub : Hub ε ν κ) (captured : Option Params) :
    Stable (Changed t args hub captured) := by
  cases captured with
  | none => exact stable_aside hub
  | some params => exact stable_switched _ hub

section
variable {route : Route κ} {location : String}

theorem Switching.ensures_fire (quiet : host.Quiet) (hp : Template.parse text = .ok t)
    (sw : Switching host t args route) (rest : Resting t hub)
    (fits : ∀ params ∈ route.template.captures location, t.Fits (args params)) (index : Nat) :
    Ensures Aside (Aside hub) (Router.fire host location index route)
      fun _ => Changed t args hub (route.template.captures location) := by
  unfold Router.fire
  cases hc : route.template.captures location with
  | none => exact Task.ensures_done fun _ => id
  | some params =>
    refine Task.ensures_bind (ensures_record (stable_aside hub) _ fun _ => rfl) fun _ => ?_
    refine Task.ensures_bind (sw.switches quiet hp rest (fits params hc)) fun _ => ?_
    exact Task.ensures_done fun _ => id

theorem ensures_fireAll_cons (stable : Stable mid) (index : Nat) {routes : List (Route κ)}
    (first : Ensures Aside pre (Router.fire host location index route) fun _ => mid)
    (others : Ensures Aside mid (Router.fireAll host location (index + 1) routes) fun _ => post) :
    Ensures Aside pre (Router.fireAll host location index (route :: routes)) fun _ => post := by
  refine Task.ensures_bind first fun fired => ?_
  cases fired with
  | none => exact others
  | some params =>
    refine Task.ensures_bind (ensures_record stable _ fun _ => rfl) fun _ => ?_
    exact Task.ensures_bind others fun _ => Task.ensures_done fun _ => id

theorem Switching.ensures_fireAll (quiet : host.Quiet) (hp : Template.parse text = .ok t)
    (sw : Switching host t args route) (rest : Resting t hub)
    (fits : ∀ params ∈ route.template.captures location, t.Fits (args params))
    (before after : List (Route κ))
    (aloof : ∀ other ∈ before ++ after, ∀ chain ∈ other.chains, chain.Aloof) (index : Nat) :
    Ensures Aside (Aside hub) (Router.fireAll host location index (before ++ route :: after))
      fun _ => Changed t args hub (route.template.captures location) := by
  induction before generalizing index with
  | nil =>
    have fired := sw.ensures_fire quiet hp rest fits index
    refine ensures_fireAll_cons (stable_changed hub _) index fired ?_
    exact (aloof_fireAll quiet location _ after aloof).ensures (stable_changed hub _)
  | cons other before ih =>
    simp only [List.cons_append, List.forall_mem_cons] at aloof
    have idle : Aloof (Router.fire host location index other) :=
      Aloof.closed.fire _ _ _ (aloof_runChains quiet other.chains aloof.1)
    have kept := idle.ensures (stable_aside hub)
    exact ensures_fireAll_cons (stable_aside hub) index kept (ih aloof.2 _)

end

theorem Visit.client (visit : Visit host t args hub captured task) (lawful : host.Lawful) :
    Client task := by
  cases visit with
  | navigate navigation => exact lawful.served.map _ (lawful.served.onNavigation navigation)
  | register => exact lawful.served.map _ (lawful.served.register (fun _ _ => .addRoute _) _ _)

theorem Switching.ensures_onNavigation (quiet : host.Quiet) (hp : Template.parse text = .ok t)
    (sw : Switching host t args route) (rest : Resting t hub)
    (hroutes : hub.router.routes = before ++ route :: after)
    (aloof : ∀ other ∈ before ++ after, ∀ chain ∈ other.chains, chain.Aloof)
    (fits : ∀ params ∈ route.template.captures hub.router.location.current, t.Fits (args params))
    (navigation : Navigation) :
    Ensures Aside (· = hub) (Router.onNavigation host navigation)
      fun _ => Changed t args hub (route.template.captures hub.router.location.current) := by
  have arrives : Ensures Aside (· = hub) (Task.atomically (Router.arrive navigation.previous))
      fun location s => location = hub.router.location.current ∧
        (s.router.routes = before ++ route :: after ∧ Aside hub s) := by
    refine Task.ensures_atomically fun s hs => ?_
    subst hs
    exact ⟨rfl, hroutes, .of_record rfl rfl rfl rfl⟩
  have reads : Ensures Aside
      (fun s => s.router.routes = before ++ route :: after ∧ Aside hub s)
      (Task.read (·.router.routes))
      fun routes s => routes = before ++ route :: after ∧ Aside hub s :=
    Task.ensures_read fun _ hs => hs
  refine Task.ensures_then _ arrives (Task.ensures_then _ reads ?_)
  have fires := sw.ensures_fireAll quiet hp rest fits before after aloof 0
  refine Task.ensures_bind fires fun fired => ?_
  split
  · refine Task.ensures_bind (ensures_record (stable_changed hub _) _ fun _ => rfl) fun _ => ?_
    exact Task.ensures_done fun _ => id
  · exact Task.ensures_done fun _ => id

theorem Switching.ensures_register (quiet : host.Quiet) (hp : Template.parse text = .ok t)
    (htemplate : Template.parse template = .ok r) (sw : Switching host t args ⟨r, chains⟩)
    (rest : Resting t hub)
    (fits : ∀ params ∈ r.captures hub.router.location.current, t.Fits (args params)) :
    Ensures Aside (· = hub) (Router.register host template chains)
      fun _ => Changed t args hub (r.captures hub.router.location.current) := by
  have adds : Ensures Aside (· = hub) (Task.atomically (Router.addRoute ⟨r, chains⟩))
      fun _ s => s.router.location = hub.router.location ∧ Aside hub s := by
    refine Task.ensures_atomically fun s hs => ?_
    subst hs
    exact ⟨rfl, .of_record rfl rfl rfl rfl⟩
  have reads : Ensures Aside (fun s => s.router.location = hub.router.location ∧ Aside hub s)
      (Task.read (·.router.location.current))
      fun location s => location = hub.router.location.current ∧ Aside hub s :=
    Task.ensures_read fun s hs => ⟨congrArg _ hs.1, hs.2⟩
  rw [Router.register, htemplate]
  refine Task.ensures_bind adds fun index => Task.ensures_then _ reads ?_
  refine Task.ensures_bind (sw.ensures_fire quiet hp rest fits index) fun fired => ?_
  cases fired with
  | none => exact Task.ensures_done fun _ => id
  | some params =>
    refine Task.ensures_bind (ensures_record (stable_changed hub _) _ fun _ => rfl) fun _ => ?_
    exact Task.ensures_done fun _ => id

theorem Visit.changes (visit : Visit host t args hub captured task) (quiet : host.Quiet)
    (hp : Template.parse text = .ok t) (rest : Resting t hub)
    (fits : ∀ params ∈ captured, t.Fits (args params)) :
    Ensures Aside (· = hub) task fun _ => Changed t args hub captured := by
  cases visit with
  | navigate navigation hroutes aloof sw =>
    exact Task.ensures_map (sw.ensures_onNavigation quiet hp rest hroutes aloof fits navigation)
  | register htemplate sw =>
    exact Task.ensures_map (sw.ensures_register quiet hp htemplate rest fits)

-- ---------------------------------------------------------------------------
-- One after another
-- ---------------------------------------------------------------------------

theorem Unconnected.resting (start : Unconnected hub) : Resting t hub := by
  refine ⟨start.balanced, ?_, .inl ?_⟩
  · rw [start.connections]; rfl
  · rw [start.connections]; rfl

theorem Resting.aside (rest : Resting t hub) (h : Aside hub hub') : Resting t hub' := by
  refine ⟨rest.balanced.aside h, ?_, ?_⟩
  · rw [h.connections]; exact rest.unclaimed
  · rw [h.connections]; exact rest.streams

theorem Resting.visit (rest : Resting t hub) (quiet : host.Quiet)
    (hp : Template.parse text = .ok t) (visit : Visit host t args hub captured task)
    (fits : ∀ params ∈ captured, t.Fits (args params)) (h : Runs Aside task hub () hub') :
    Resting t hub' := by
  have balanced : Balanced hub' 0 :=
    h.settles (fun hd hb => Balanced.deals hb hd) (fun ha hb => Balanced.aside hb ha)
      (visit.client quiet.toLawful).errands rest.balanced
  have changed := visit.changes quiet hp rest fits hub () hub' rfl h
  cases captured with
  | none => exact rest.aside changed
  | some params =>
    have switched : Switched (t.resolve (args params)).uri hub hub' := changed
    refine ⟨balanced, switched.pending, ?_⟩
    rcases switched.opened with he | ⟨he, -⟩
    · exact .inr ⟨_, he, (fits params rfl).test_target⟩
    · exact .inl he

theorem Visited.resting (visited : Visited host t args hub) (quiet : host.Quiet)
    (hp : Template.parse text = .ok t) : Resting t hub := by
  induction visited with
  | start h => exact h.resting
  | meanwhile _ h ih => exact ih.aside h
  | visit _ visit fits h ih => exact ih.visit quiet hp visit fits h

/-- However often a switching route has run before, it leaves the target of its last parameters
open and nothing else, or nothing at all if the connect was refused in this run. What was open
of other targets is closed, each once, and a target that was open already is left alone. -/
theorem switching_replaces (quiet : host.Quiet) (hp : Template.parse text = .ok t)
    (visited : Visited host t args hub) (visit : Visit host t args hub (some params) task)
    (fits : t.Fits (args params)) :
    (∃ hub', Runs Aside task hub () hub') ∧
      ∀ hub', Runs Aside task hub () hub' →
        Switched (t.resolve (args params)).uri hub hub' ∧
          ∀ handle ∈ made hub'.history, handle.key ≠ (t.resolve (args params)).uri →
            (closings hub'.history).count handle = 1 ∧ (closeds hub'.history).count handle = 1 := by
  have rest := visited.resting quiet hp
  have fits : ∀ captured ∈ some params, t.Fits (args captured) := by
    rintro _ ⟨⟩
    exact fits
  refine ⟨⟨_, Task.runs_run aside_refl task hub⟩, fun hub' h => ?_⟩
  have switched : Switched (t.resolve (args params)).uri hub hub' :=
    visit.changes quiet hp rest fits hub () hub' rfl h
  refine ⟨switched, fun handle hm hk => ?_⟩
  refine (rest.visit quiet hp visit fits h).balanced.closed_once hm fun ho => hk ?_
  have hkey : handle.key ∈ hub'.bus.connections.keys := List.mem_map_of_mem ho
  rcases switched.opened with he | ⟨he, -⟩
  · rwa [he, List.mem_singleton] at hkey
  · simp [he] at hkey

-- ---------------------------------------------------------------------------
-- A switch
-- ---------------------------------------------------------------------------

namespace Rehearsal

def quietHost : Host Scene Note Device := hostWith fun _ _ => .done ()

theorem quietHost_quiet : quietHost.Quiet where
  toLawful := hostWith_lawful fun _ _ => .done ()
  aloof := hostWith_within Aloof.closed Scenic.deed (fun _ => .own) fun _ _ => trivial

def listenTemplate : Template :=
  ⟨"/s/:p", [.literal "/s/".toList, .named "p".toList]⟩

def pageTemplate : Template := ⟨"p/:x", [.literal "p/".toList, .named "x".toList]⟩

def listenChain : RouteChain Device :=
  .sequence [.leaf (.bus .close listenTemplate Params.values),
    .leaf (.bus .fetch listenTemplate Params.values),
    .leaf (.bus .stream listenTemplate Params.values)]

theorem listenChain_switching (template : Template) :
    Switching quietHost listenTemplate Params.values ⟨template, [listenChain]⟩ := by
  refine ⟨[], [.leaf (.bus .fetch listenTemplate Params.values)], [], rfl, ?_, ?_⟩
  · intro chain hc
    obtain rfl := List.mem_singleton.mp hc
    exact rfl
  · intro chain hc
    obtain rfl := List.mem_singleton.mp hc
    exact handsOn_leaf nofun

theorem listenTemplate_fits {location value : String} (hc : pageTemplate.captures location =
    some ⟨["x"], [value]⟩) (h : value ≠ "" ∧ '/' ∉ value.toList ∧ '?' ∉ value.toList ∧
      ∀ c ∈ value.toList.head?, c ≠ ':' ∧ c ≠ '*') :
    ∀ params ∈ pageTemplate.captures location, listenTemplate.Fits params.values := by
  intro params hm
  obtain rfl := Option.some.inj (hc.symm.trans hm)
  refine ⟨rfl, le_refl 1, fun arg ha => ?_⟩
  obtain rfl := List.mem_singleton.mp ha
  exact h

def registering : Task Staging Unit :=
  (fun _ => ()) <$> Router.register quietHost "p/:x" [listenChain]

def turning : Task Staging Unit :=
  (fun _ => ()) <$> Router.onNavigation quietHost ⟨"p/1", "p/2"⟩

def turned : Staging := Router.push "p/2" (registering.run (.new "bus" "p/1" .new)).2

end Rehearsal

open Rehearsal in
/-- On the second page the stream of the first is closed and that of the second is open. -/
theorem switching_replaces_turned :
    ∃ hub', Runs Aside turning turned () hub' ∧ Switched "/s/2" turned hub' ∧
      (closings hub'.history).count ⟨"/s/1", 0⟩ = 1 := by
  have parsed : Template.parse "/s/:p" = .ok listenTemplate := by cbv
  have page : Template.parse "p/:x" = .ok pageTemplate := by cbv
  have routes : turned.router.routes = [] ++ ⟨pageTemplate, [listenChain]⟩ :: [] := by cbv
  have first : pageTemplate.captures (.new "bus" "p/1" .new : Staging).router.location.current =
      some ⟨["x"], ["1"]⟩ := by cbv
  have second : pageTemplate.captures turned.router.location.current = some ⟨["x"], ["2"]⟩ := by cbv
  have both : made (turning.run turned).2.history = [⟨"/s/2", 1⟩, ⟨"/s/1", 0⟩] := by cbv
  have target : (listenTemplate.resolve ["2"]).uri = "/s/2" := by cbv
  have runs : ∀ (task : Task Staging Unit) hub, Runs Aside task hub () (task.run hub).2 :=
    Task.runs_run aside_refl
  have registered : Visited quietHost listenTemplate Params.values
      (registering.run (.new "bus" "p/1" .new)).2 :=
    .visit (.start (unconnected_new ..)) (.register page (listenChain_switching _))
      (listenTemplate_fits first (by simp)) (runs ..)
  have visit := Visit.navigate ⟨"p/1", "p/2"⟩ routes (by simp) (listenChain_switching pageTemplate)
  have fits := listenTemplate_fits second (by simp)
  rw [second] at visit fits
  obtain ⟨-, switches⟩ := switching_replaces quietHost_quiet parsed
    (registered.meanwhile (aside_push "p/2")) visit (fits _ rfl)
  obtain ⟨switched, closed⟩ := switches _ (runs turning turned)
  rw [target] at switched closed
  rw [both] at closed
  exact ⟨_, runs turning turned, switched, (closed ⟨"/s/1", 0⟩ (by simp) (by decide)).1⟩

end RouteBus
