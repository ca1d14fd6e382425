import RouteBus.Proofs.Hub.Clients
import RouteBus.Proofs.Hub.Requests
import RouteBus.Rehearsal.Performance

/-!
# The host of a rehearsal is lawful

Its transport, its listeners and its route steps use bus and router as any client does,
however deep their scripts are nested.
-/

namespace RouteBus.Rehearsal

-- ---------------------------------------------------------------------------
-- The host
-- ---------------------------------------------------------------------------

/-- What the host does by itself, its connections apart: notes, and changes of the scene. -/
inductive Scenic : Staging → Staging → Prop
  | note (n : Note) : Scenic hub (hub.note n)
  | scene {hub : Staging} (scene : Scene) : scene.wire.live = hub.host.wire.live →
      scene.wire.connects = hub.host.wire.connects → Scenic hub { hub with host := scene }

section
variable {D : Staging → Staging → Prop} {P : ∀ {α : Type}, Task Staging α → Prop}
  {runner : ScriptRunner} (closed : Closed D P)
include closed

theorem within_onWire {f : Wire → α × Wire}
    (own : ∀ hub : Staging, D hub { hub with
      host := { hub.host with wire := (f hub.host.wire).2 } }) : P (onWire f) :=
  closed.atomically own

theorem within_deliverAll (hd : ∀ text, P (deliver text)) (chunks : List String) :
    P (deliverAll deliver chunks) := by
  induction chunks with
  | nil => exact closed.done ()
  | cons chunk chunks ih => exact closed.bind (hd chunk) fun _ => ih

variable (scenic : ∀ {hub hub'}, Scenic hub hub' → D hub hub')
include scenic

theorem within_note (n : Note) : P (note n) := closed.modify fun _ => scenic (.note n)

theorem within_connect (own : ∀ (hub : Staging) state, D hub { hub with host := state })
    (uri : String) (deliver : String → Task Staging Unit) (hd : ∀ text, P (deliver text)) :
    P (connect uri deliver) := by
  refine closed.bind (within_note closed scenic _) fun _ => closed.bind (closed.read _) fun count => ?_
  refine closed.bind (closed.pause count) fun _ => ?_
  refine closed.bind (within_onWire closed fun hub => own hub _) fun answer => ?_
  cases answer with
  | error refusal => exact closed.done _
  | ok =>
    refine closed.bind (closed.read _) fun chunks => ?_
    exact closed.bind (within_deliverAll closed hd chunks) fun _ => closed.done _

theorem within_request (uri : String) : P (request uri) :=
  closed.bind (within_note closed scenic _) fun _ =>
    within_onWire closed fun _ => scenic (.scene _ rfl rfl)

theorem within_hear (hs : ∀ id steps, P (runner id steps)) (listener : Nat) (m : Message) :
    P (hear runner listener m) := by
  refine closed.bind (closed.read _) fun found => ?_
  cases found with
  | none => exact closed.done ()
  | some actor =>
    dsimp only
    split
    · exact closed.modify fun _ => scenic (.scene _ rfl rfl)
    · exact within_note closed scenic _
    · exact closed.bind (within_note closed scenic _) fun _ => hs _ _

theorem within_performDevice (hs : ∀ id steps, P (runner id steps)) (device : Device)
    (params : Params) : P (performDevice runner device params) := by
  cases device with
  | record id =>
    exact closed.bind (closed.modify fun _ => scenic (.scene _ rfl rfl)) fun _ => closed.done _
  | replace params => exact closed.done _
  | script steps => exact closed.bind (hs _ _) fun _ => closed.done _
  | log label => exact closed.bind (within_note closed scenic _) fun _ => closed.done _
  | logPausing label yields =>
    refine closed.bind (within_note closed scenic _) fun _ => ?_
    refine closed.bind (closed.pause yields) fun _ => ?_
    exact closed.bind (within_note closed scenic _) fun _ => closed.done _
  | finish route => exact closed.bind (within_note closed scenic _) fun _ => closed.done _

/-- A host is of a class if its scripts are. -/
theorem hostWith_within (own : ∀ (hub : Staging) state, D hub { hub with host := state })
    (hs : ∀ id steps, P (runner id steps)) : (hostWith runner).Within P where
  connect := within_connect closed scenic own
  request := within_request closed scenic
  disconnect _ := closed.bind (within_note closed scenic _) fun _ =>
    within_onWire closed fun hub => own hub _
  hear := within_hear closed scenic hs
  perform := within_performDevice closed scenic hs

omit closed scenic

theorem Scenic.deed (h : Scenic hub hub') : Deed hub hub' := by
  cases h with
  | note n => exact .note n
  | scene scene => exact .own scene

theorem hostWith_lawful (hs : ∀ id steps, Client (runner id steps)) :
    (hostWith runner).Lawful := by
  obtain ⟨connect, request, disconnect, hear, perform⟩ :=
    hostWith_within Client.closed Scenic.deed (fun _ => .own) hs
  exact ⟨connect, request, disconnect, hear, perform⟩

end

-- ---------------------------------------------------------------------------
-- Steps
-- ---------------------------------------------------------------------------

section
variable {D : Staging → Staging → Prop} {P : ∀ {α : Type}, Task Staging α → Prop}
  {host : Host Scene Note Device} (served : Served D P host)
include served

theorem within_join {tasks : List (Task Staging Reply)} (h : ∀ t ∈ tasks, P t) : P (join tasks) := by
  unfold join
  split
  · exact served.joinAll h
  · exact served.joinAlternating h

section
variable (service : ∀ {hub hub'}, Service hub hub' → D hub hub')
include service

theorem within_receiveFree : P (.atomically receiveFree) := by
  refine served.atomically fun hub => ?_
  unfold receiveFree
  split
  · exact service .receive
  · exact served.routine .stay

theorem within_pump (limit : Nat) : P (pump host limit) := by
  induction limit with
  | zero => exact served.done _
  | succ limit ih =>
    refine served.bind (within_receiveFree served service) fun arrival => ?_
    match arrival with
    | none | some .nothing | some .ended => exact served.done _
    | some (.navigation navigation) =>
      refine served.bind (served.onNavigation navigation) fun _ => ?_
      exact served.bind ih fun _ => served.done _

theorem within_closeLocation : P closeLocation := served.modify fun _ => service .closeLocation

theorem within_dropNavigations : P dropNavigations := served.modify fun _ => service .dropNavigations

end

variable (scenic : ∀ {hub hub'}, Scenic hub hub' → D hub hub')
include scenic

theorem within_onScene (f : Scene → Scene) (h : ∀ scene, (f scene).wire = scene.wire) :
    P (onScene f) :=
  served.modify fun hub => scenic (.scene _ (by rw [h]) (by rw [h]))

theorem within_buildRoute (spec : List RouteSpec) : P (buildRoute spec) :=
  served.bind (within_onScene served scenic _ fun _ => rfl) fun _ => served.done _

theorem within_closeListener (id : String) : P (closeListener id) := by
  refine served.bind (served.read _) fun found => ?_
  cases found with
  | none => exact served.done _
  | some entry => exact served.bind (within_onScene served scenic _ fun _ => rfl) fun _ => served.done _

theorem within_takeNavigations : P takeNavigations :=
  served.atomically fun _ => scenic (.scene _ rfl rfl)

theorem within_keepReceiver (id : String) (sink : Bool) (receiver : Receiver) :
    P (keepReceiver id sink receiver) := by
  unfold keepReceiver
  split
  · refine served.bind (within_onScene served scenic _ fun _ => rfl) fun _ => ?_
    exact within_note served.toClosed scenic _
  · refine served.bind (served.read _) fun replaced => ?_
    refine served.bind (within_onScene served scenic _ fun _ => rfl) fun _ => ?_
    cases replaced with
    | none => exact served.done ()
    | some old => exact served.dropMailbox _

theorem within_receive (template id : String) (model : Option String) (sink : Bool) :
    P (receive template id model sink) := by
  refine served.bind (served.onReceive template) fun made => ?_
  cases made with
  | error e => exact served.done _
  | ok mailbox =>
    exact served.bind (within_keepReceiver served scenic ..) fun _ => served.done _

variable (service : ∀ {hub hub'}, Service hub hub' → D hub hub')
include service

theorem within_registerRoute (id template : String) (chains : List (RouteChain Device)) :
    P (registerRoute host id template chains) := by
  have registers := served.register (fun _ _ => service (.addRoute _)) template chains
  refine served.bind registers fun registered => ?_
  cases registered with
  | error e => exact served.done _
  | ok => exact served.bind (within_onScene served scenic _ fun _ => rfl) fun _ => served.done _

theorem within_addRoute (id template : String) (spec : List RouteSpec) :
    P (addRoute host id template spec) := by
  refine served.bind (within_buildRoute served scenic spec) fun built => ?_
  cases built with
  | error e => exact served.done _
  | ok chains => exact within_registerRoute served scenic service id template chains

theorem within_extendRoute (id : String) (spec : List RouteSpec) :
    P (extendRoute host id spec) := by
  refine served.bind (within_buildRoute served scenic spec) fun built => ?_
  cases built with
  | error e => exact served.done _
  | ok chains =>
    refine served.bind (served.read _) fun kept => ?_
    cases kept with
    | none => exact served.done _
    | some template =>
      refine served.bind (within_onScene served scenic _ fun _ => rfl) fun _ => ?_
      exact within_registerRoute served scenic service id template chains

set_option linter.unusedSectionVars false in
mutual

theorem within_performStep : ∀ step, P (performStep host step)
  | .subscribe .. => by
    refine served.bind (served.read _) fun _ => ?_
    refine served.bind (within_onScene served scenic _ fun _ => rfl) fun _ => ?_
    exact served.map _ (served.subscribe ..)
  | .closeListener id => within_closeListener served scenic id
  | .recorded _ => served.read _
  | .onReceive .. | .onModel .. => within_receive served scenic ..
  | .drain id => by
    refine served.bind (served.read _) fun found => ?_
    cases found with
    | none => exact served.done _
    | some receiver => exact served.bind (served.drain _) fun _ => served.done _
  | .drop id => by
    refine served.bind (served.read _) fun found => ?_
    cases found with
    | none => exact served.done _
    | some receiver =>
      refine served.bind (within_onScene served scenic _ fun _ => rfl) fun _ => ?_
      exact served.bind (served.dropMailbox _) fun _ => served.done _
  | .dispatch m => served.map _ (served.dispatch m)
  | .receiveRaw text => served.map _ (served.receiveRaw text)
  | .topics | .openConnections | .isConnected _ | .location | .currentParams _ | .isCurrent _
  | .routeCount | .names => served.read _
  | .openStream template args => served.map _ (served.openStream template args)
  | .closeStreams template args => served.map _ (served.closeStreams template args)
  | .fetch template args => served.map _ (served.fetch template args)
  | .join steps => served.map _ (within_join served (within_stepTasks steps))
  | .respond .. | .refuse _ =>
    served.bind (within_onWire served.toClosed fun _ => scenic (.scene _ rfl rfl)) fun _ =>
      served.done _
  | .eager .. | .connectYields _ =>
    served.bind (within_onScene served scenic _ fun _ => rfl) fun _ => served.done _
  | .push uri data => by
    refine served.bind (served.read _) fun live => ?_
    split
    · exact served.bind (served.receiveChunk uri data) fun _ => served.done _
    · exact served.done _
  | .transport => served.read _
  | .route template id spec => within_addRoute served scenic service id template spec
  | .addRoute id spec => within_extendRoute served scenic service id spec
  | .setLocation _ =>
    served.bind (served.modify fun _ => served.routine (.push _)) fun _ => served.done _
  | .go template args => served.map _ (served.go template args)
  | .navigate navigation => served.map _ (served.onNavigation navigation)
  | .pump => by
    refine served.bind (within_pump served service pumpLimit) fun handled => ?_
    cases handled with
    | none => exact served.done _
    | some navigations => exact served.done _
  | .listen => by
    refine served.bind (within_closeLocation served service) fun _ => ?_
    refine served.bind (within_takeNavigations served scenic) fun held => ?_
    split
    · refine served.bind (served.read _) fun queued => ?_
      refine served.bind (served.listen service _) fun _ => ?_
      exact served.bind (within_dropNavigations served service) fun _ => served.done _
    · exact served.done _
  | .closeLocation => served.bind (within_closeLocation served service) fun _ => served.done _
  | .dropNavigations => by
    refine served.bind (within_takeNavigations served scenic) fun held => ?_
    split
    · exact served.bind (within_dropNavigations served service) fun _ => served.done _
    · exact served.done _

theorem within_stepTasks : ∀ steps, ∀ t ∈ stepTasks host steps, P t
  | [], _, h => nomatch h
  | step :: steps, t, h => by
    rcases List.mem_cons.mp h with rfl | h
    · exact within_performStep step
    · exact within_stepTasks steps t h

end

-- ---------------------------------------------------------------------------
-- Scripts
-- ---------------------------------------------------------------------------

theorem within_performAll (id : String) (steps : List Step) : P (performAll host id steps) := by
  induction steps with
  | nil => exact served.done ()
  | cons step steps ih =>
    refine served.bind (within_performStep served scenic service step) fun _ => ?_
    exact served.bind (within_note served.toClosed scenic _) fun _ => ih

theorem within_runScript (id : String) (steps : List Step) : P (runScript host id steps) := by
  have entered : P (.atomically (enterScript id)) := by
    refine served.atomically fun hub => ?_
    unfold enterScript
    split
    · exact scenic (.note _)
    · exact scenic (.scene _ rfl rfl)
  refine served.bind entered fun inside => ?_
  split
  · refine served.bind (within_performAll served scenic service id steps) fun _ => ?_
    exact within_onScene served scenic _ fun _ => rfl
  · exact served.done ()

end

theorem hostOfDepth_lawful (depth : Nat) : (hostOfDepth depth).Lawful := by
  induction depth with
  | zero => exact hostWith_lawful fun id _ => within_note Client.closed Scenic.deed _
  | succ depth ih =>
    exact hostWith_lawful fun id steps => within_runScript ih.served Scenic.deed Service.deed id steps

theorem host_lawful : Rehearsal.host.Lawful := hostOfDepth_lawful scriptLimit

/-- The host is of each class that has the steps of opens and closes and those of its own. -/
theorem hostOfDepth_within {D : Staging → Staging → Prop}
    {P : ∀ {α : Type}, Task Staging α → Prop} (closed : Closed D P)
    (linking : ∀ {hub hub'}, Linking hub hub' → D hub hub')
    (service : ∀ {hub hub'}, Service hub hub' → D hub hub')
    (note : ∀ hub n, D hub (hub.note n))
    (own : ∀ (hub : Staging) state, D hub { hub with host := state }) (depth : Nat) :
    (hostOfDepth depth).Within P := by
  have scenic : ∀ {hub hub'}, Scenic hub hub' → D hub hub' := by
    intro hub hub' h
    cases h with
    | note n => exact note hub n
    | scene scene => exact own hub scene
  induction depth with
  | zero => exact hostWith_within closed scenic own fun id _ => within_note closed scenic _
  | succ depth ih =>
    exact hostWith_within closed scenic own
      (within_runScript (closed.served linking ih) scenic service)

end RouteBus.Rehearsal
