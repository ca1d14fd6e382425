import RouteBus.Proofs.Navigation.Going
import RouteBus.Rehearsal.Performance

/-!
# Actions

A step of a chain that opens, closes, fetches or goes somewhere reads its template when it is made.
It does what the operation itself does with the text of the template, in the same steps and with the
same suspensions. A failure is recorded and goes no further, and the value goes on unchanged.
-/

namespace RouteBus

open RouteBus.Task (Runs)

namespace Bus

def ignoring (operation : Operation) (template : String) (args : List String)
    (t : Task (Hub ε ν κ) (Except StreamError α)) : Task (Hub ε ν κ) Unit := do
  match ← t with
  | .ok _ => return ()
  | .error e => Hub.tell (.failureSwallowed operation template args e)

def call (host : Host ε ν κ) (template : String) (args : List String) :
    Operation → Task (Hub ε ν κ) Unit
  | .close => ignoring .close template args (closeStreams host template args)
  | .stream => ignoring .stream template args (openStream host template args)
  | .fetch => ignoring .fetch template args (fetch host template args)

end Bus

structure Besides (event : Event) (hub hub' : Hub ε ν κ) : Prop where
  bus : hub'.bus = hub.bus
  router : hub'.router = hub.router
  host : hub'.host = hub.host
  history : ∃ later before, hub.history = later ++ before ∧
    hub'.history = later ++ .event event :: before

/-- The hubs are the same but for an event of this kind, if there is one. -/
inductive Noted (kind : Event → Prop) (hub hub' : Hub ε ν κ) : Prop
  | silent : (∀ event, ¬ kind event) → hub' = hub → Noted kind hub hub'
  | event : kind event → Besides event hub hub' → Noted kind hub hub'

/-- Among others who do what they like while it is suspended, the action comes to what the operation
comes to, and the operation to what the action comes to, but for an event of the action itself. The
action always ends, and gives back what it was given. -/
structure ComesTo {ε ν κ β ι : Type} (kind : β → Event → Prop) (operation : Task (Hub ε ν κ) β)
    (value : ι) (action : Task (Hub ε ν κ) ι) : Prop where
  of_action : ∀ {rely hub given hub'}, Runs rely action hub given hub' → given = value ∧
    ∃ outcome mid, Runs rely operation hub outcome mid ∧ Noted (kind outcome) mid hub'
  of_operation : ∀ {rely hub outcome mid}, Runs rely operation hub outcome mid →
    ∃ hub', Runs rely action hub value hub' ∧ Noted (kind outcome) mid hub'
  completes : ∀ hub, (action.run hub).1 = value

/-- The action is the operation on the bus, step by step, and ignores its failure. -/
structure Swallows {ε ν κ α ι : Type} (name : Operation) (text : String) (args : List String)
    (operation : Task (Hub ε ν κ) (Except StreamError α)) (value : ι)
    (action : Task (Hub ε ν κ) ι) : Prop extends
    ComesTo (fun outcome event =>
      ∃ e, outcome = .error e ∧ event = .failureSwallowed name text args e)
      operation value action where
  steps : action = (do Bus.ignoring name text args operation; return value)

structure Follows {ε ν κ ι : Type} (text : String) (t : Template) (args : List String) (value : ι)
    (action : Task (Hub ε ν κ) ι) : Prop extends
    ComesTo (fun _ event => (t.resolve args).complete = false ∧
      ∃ router, event = .targetIncomplete router text args)
      (Router.go text args) value action where
  steps : action = (do
    if (t.resolve args).complete = false then
      Task.modify fun hub => hub.record (.targetIncomplete hub.router.name text args)
    let _ ← Router.go text args
    return value)

structure Acts {ε ν κ : Type} (host : Host ε ν κ) (text : String) (t : Template) : Prop where
  onBus : ∀ operation args, ∃ step : RouteStep κ, RouteStep.busAt operation text args = .ok step ∧
    Router.perform host step = Bus.action host operation t args
  onRouter : ∀ args, ∃ step : RouteStep κ, RouteStep.goTo text args = .ok step ∧
    Router.perform host step = Router.action t args
  stream : ∀ {ι : Type} (build : ι → List String) (value : ι),
    Swallows .stream text (build value) (Bus.openStream host text (build value)) value
      (Bus.action host .stream t build value)
  close : ∀ {ι : Type} (build : ι → List String) (value : ι),
    Swallows .close text (build value) (Bus.closeStreams host text (build value)) value
      (Bus.action host .close t build value)
  fetch : ∀ {ι : Type} (build : ι → List String) (value : ι),
    Swallows .fetch text (build value) (Bus.fetch host text (build value)) value
      (Bus.action host .fetch t build value)
  go : ∀ {ι : Type} (build : ι → List String) (value : ι),
    Follows text t (build value) value (Router.action t build value : Task (Hub ε ν κ) ι)

variable {ε ν κ ι α : Type} {host : Host ε ν κ} {hub : Hub ε ν κ} {text : String} {t : Template}
  {args : List String}

-- ---------------------------------------------------------------------------
-- On the bus
-- ---------------------------------------------------------------------------

namespace Bus

theorem resolve_of_parse (parsed : Template.parse template = .ok t) (args : List String) :
    resolve template args = .ok (t.resolve args) := by
  rw [resolve, parsed]
  rfl

/-- A template that was read beforehand is as good as its text. -/
theorem carryOut_eq_call (parsed : Template.parse template = .ok t) (host : Host ε ν κ)
    (operation : Operation) (args : List String) :
    carryOut host operation t args = call host template args operation := by
  obtain rfl := Template.raw_of_parse parsed
  cases operation with
  | close =>
    simp only [carryOut, attempt, call, ignoring, closeStreams, parsed, bind_map_left]
  | stream =>
    simp only [carryOut, attempt, call, ignoring, openStream, resolve_of_parse parsed,
      bind_map_left]
    refine congrArg _ (funext fun opened => ?_)
    cases opened <;> rfl
  | fetch =>
    simp only [carryOut, attempt, call, ignoring, fetch, resolve_of_parse parsed, bind_map_left]
    refine congrArg _ (funext fun fetched => ?_)
    cases fetched <;> rfl

end Bus

theorem besides_record (event : Event) (hub : Hub ε ν κ) : Besides event hub (hub.record event) :=
  ⟨rfl, rfl, rfl, [], hub.history, rfl, rfl⟩

theorem runs_ignoring {operation : Task (Hub ε ν κ) (Except StreamError α)} {value : ι} :
    Runs rely (do Bus.ignoring name text args operation; return value) hub given hub' ↔
      given = value ∧ ∃ outcome mid, Runs rely operation hub outcome mid ∧
        hub' = match outcome with
          | .ok _ => mid
          | .error e => mid.record (.failureSwallowed name text args e) := by
  rw [Bus.ignoring, Task.bind_assoc, Task.runs_bind]
  constructor
  · rintro ⟨outcome, mid, runs, rest⟩
    cases outcome with
    | ok done =>
      obtain ⟨rfl, rfl⟩ := Task.runs_done.mp rest
      exact ⟨rfl, _, _, runs, rfl⟩
    | error e =>
      change Runs rely (Task.modify _ >>= fun _ => .done value) mid given hub' at rest
      rw [Task.runs_modify_bind, Task.runs_done] at rest
      obtain ⟨rfl, rfl⟩ := rest
      exact ⟨rfl, _, _, runs, rfl⟩
  · rintro ⟨rfl, outcome, mid, runs, rfl⟩
    refine ⟨outcome, mid, runs, ?_⟩
    cases outcome with
    | ok done => exact .done
    | error e => exact .act .done

theorem noted_outcome (name : Operation) (text : String) (args : List String)
    (outcome : Except StreamError α) (mid : Hub ε ν κ) :
    Noted (fun event => ∃ e, outcome = .error e ∧ event = .failureSwallowed name text args e) mid
      (match outcome with
        | .ok _ => mid
        | .error e => mid.record (.failureSwallowed name text args e)) := by
  cases outcome with
  | ok done => exact .silent (by simp) rfl
  | error e => exact .event ⟨e, rfl, rfl⟩ (besides_record _ mid)

theorem ComesTo.of_runs {β : Type} {kind : β → Event → Prop} {operation : Task (Hub ε ν κ) β}
    {value : ι} {action : Task (Hub ε ν κ) ι}
    (of_action : ∀ {rely hub given hub'}, Runs rely action hub given hub' → given = value ∧
      ∃ outcome mid, Runs rely operation hub outcome mid ∧ Noted (kind outcome) mid hub')
    (of_operation : ∀ {rely hub outcome mid}, Runs rely operation hub outcome mid →
      ∃ hub', Runs rely action hub value hub' ∧ Noted (kind outcome) mid hub') :
    ComesTo kind operation value action where
  of_action := of_action
  of_operation := of_operation
  completes hub := (of_action (Task.runs_run (fun _ => rfl) action hub)).1

theorem swallows_ignoring (name : Operation) (text : String) (args : List String)
    (operation : Task (Hub ε ν κ) (Except StreamError α)) (value : ι) :
    Swallows name text args operation value
      (do Bus.ignoring name text args operation; return value) where
  toComesTo := by
    refine .of_runs (fun runs => ?_) fun runs => ?_
    · obtain ⟨same, outcome, mid, ran, rfl⟩ := runs_ignoring.mp runs
      exact ⟨same, outcome, mid, ran, noted_outcome name text args outcome mid⟩
    · exact ⟨_, runs_ignoring.mpr ⟨rfl, _, _, runs, rfl⟩, noted_outcome name text args _ _⟩
  steps := rfl

-- ---------------------------------------------------------------------------
-- On the router
-- ---------------------------------------------------------------------------

theorem besides_push (event : Event) (location : String) (hub : Hub ε ν κ) :
    Besides event (Router.push location hub) (Router.push location (hub.record event)) := by
  unfold Router.push
  dsimp only [Hub.record, Hub.withLocation]
  split
  · exact ⟨rfl, rfl, rfl, [_], hub.history, rfl, rfl⟩
  · exact ⟨rfl, rfl, rfl, [_, _], hub.history, rfl, rfl⟩

theorem action_eq (parsed : Template.parse text = .ok t) (build : ι → List String) (value : ι) :
    (Router.action t build value : Task (Hub ε ν κ) ι) = (do
      if (t.resolve (build value)).complete = false then
        Task.modify fun hub => hub.record (.targetIncomplete hub.router.name text (build value))
      let _ ← Router.go text (build value)
      return value) := by
  obtain rfl := Template.raw_of_parse parsed
  rw [Router.action, Router.follow, go_eq parsed]
  cases (t.resolve (build value)).complete <;> rfl

def Router.told (text : String) (target : Target) (args : List String) (hub : Hub ε ν κ) :
    Hub ε ν κ :=
  if target.complete then hub else hub.record (.targetIncomplete hub.router.name text args)

theorem runs_action (parsed : Template.parse text = .ok t) {build : ι → List String} {value : ι} :
    Runs rely (Router.action t build value) hub given hub' ↔ given = value ∧
      hub' = Router.push (t.resolve (build value)).uri
        (Router.told text (t.resolve (build value)) (build value) hub) := by
  rw [action_eq parsed, go_eq parsed, Router.told]
  cases (t.resolve (build value)).complete <;> simp

theorem noted_push (text : String) (target : Target) (args : List String) (hub : Hub ε ν κ) :
    Noted (fun event => target.complete = false ∧
        ∃ router, event = .targetIncomplete router text args)
      (Router.push target.uri hub) (Router.push target.uri (Router.told text target args hub)) := by
  rw [Router.told]
  cases target.complete with
  | true => exact .silent (by simp) rfl
  | false => exact .event ⟨rfl, _, rfl⟩ (besides_push _ target.uri hub)

theorem follows_action (parsed : Template.parse text = .ok t) (build : ι → List String)
    (value : ι) :
    Follows text t (build value) value (Router.action t build value : Task (Hub ε ν κ) ι) where
  toComesTo := by
    refine .of_runs (fun runs => ?_) fun runs => ?_
    · obtain ⟨same, rfl⟩ := (runs_action parsed).mp runs
      exact ⟨same, _, _, (runs_go parsed).mpr ⟨rfl, rfl⟩, noted_push text _ _ _⟩
    · obtain ⟨-, rfl⟩ := (runs_go parsed).mp runs
      exact ⟨_, (runs_action parsed).mpr ⟨rfl, rfl⟩, noted_push text _ _ _⟩
  steps := action_eq parsed build value

-- ---------------------------------------------------------------------------
-- Of any template
-- ---------------------------------------------------------------------------

theorem map_error_iff {f : Template → RouteStep κ} {read : Except TemplateError Template} :
    f <$> read = .error e ↔ read = .error e := by
  cases read with
  | ok t => exact iff_of_false nofun nofun
  | error other =>
    refine ⟨fun h => ?_, fun h => ?_⟩ <;> exact congrArg Except.error (Except.error.inj h)

theorem acts (parsed : Template.parse text = .ok t) (host : Host ε ν κ) : Acts host text t where
  onBus operation args := ⟨_, RouteStep.busAt_of_parse parsed operation args, funext fun _ => rfl⟩
  onRouter args := ⟨_, RouteStep.goTo_of_parse parsed args, funext fun _ => rfl⟩
  stream build value := by
    rw [Bus.action, Bus.carryOut_eq_call parsed]
    exact swallows_ignoring ..
  close build value := by
    rw [Bus.action, Bus.carryOut_eq_call parsed]
    exact swallows_ignoring ..
  fetch build value := by
    rw [Bus.action, Bus.carryOut_eq_call parsed]
    exact swallows_ignoring ..
  go := follows_action parsed

/-- An action cannot be made of a template that cannot be read, and of no other. Where it can be
made it does what the operation of that name does with the same template and arguments, in the same
steps and with the same suspensions, whatever the host does meanwhile and whether or not the
operation fails. It always ends, and gives back what it was given. -/
theorem actions_swallow_failures (host : Host ε ν κ) (text : String) :
    (∀ operation args e, (RouteStep.busAt operation text args : Except _ (RouteStep κ)) = .error e ↔
      Template.parse text = .error e) ∧
    (∀ args e, (RouteStep.goTo text args : Except _ (RouteStep κ)) = .error e ↔
      Template.parse text = .error e) ∧
    ∀ t, Template.parse text = .ok t → Acts host text t :=
  ⟨fun _ _ _ => map_error_iff, fun _ _ => map_error_iff, fun _ parsed => acts parsed host⟩

def Rehearsal.reclusive : Staging :=
  .new "bus" "/" { Rehearsal.Scene.new with wire := Rehearsal.Wire.new.refuse "p/a" }

open Rehearsal in
theorem actions_swallow_failures_reclusive :
    ∃ hub', Runs Eq (Bus.action Rehearsal.host .stream profile (fun name => [name]) "a") reclusive
        "a" hub' ∧
      hub'.bus.connections.keys = [] ∧
      .event (.failureSwallowed .stream "p/:x" ["a"] (.transport ⟨"p/a", "connection refused"⟩)) ∈
        hub'.history := by
  have parsed : Template.parse "p/:x" = .ok profile := by cbv
  have answer : ((Bus.openStream Rehearsal.host "p/:x" ["a"]).run reclusive).1 =
      .error (.transport ⟨"p/a", "connection refused"⟩) := by cbv
  have unopened : ((Bus.openStream Rehearsal.host "p/:x" ["a"]).run
      reclusive).2.bus.connections.keys = [] := by cbv
  have failed := Task.runs_eq_iff.mpr (Prod.ext answer rfl)
  obtain ⟨-, -, made⟩ := actions_swallow_failures Rehearsal.host "p/:x"
  obtain ⟨hub', ran, noted⟩ :=
    ((made profile parsed).stream (fun name : String => [name]) "a").of_operation failed
  cases noted with
  | silent never _ => exact absurd ⟨_, rfl, rfl⟩ (never _)
  | event kind besides =>
    obtain ⟨e, he, rfl⟩ := kind
    obtain ⟨later, before, -, told⟩ := besides.history
    refine ⟨hub', ran, besides.bus ▸ unopened, ?_⟩
    rw [told, ← Except.error.inj he]
    simp

end RouteBus
