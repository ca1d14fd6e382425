import Mathlib
import RouteBus.CommandLine.Run
import RouteBus.Proofs.Task.Likeness

/-!
# Ways in

Messages come in as chunks of a connection, as texts that were pulled by hand, and in batches that
were fetched. Whichever way they come, they are dispatched one after another, each in the state
that those before it and their listeners left.
-/

namespace RouteBus

open RouteBus.Task (Alike Heedless Indistinct Runs alike_aside alike_atomically alike_modify)

def Entry.ofChunk : Entry ν → Bool
  | .event (.chunkReceived ..) | .event (.chunkUndecodable _) => true
  | _ => false

/-- The hubs differ at most in what their histories say of chunks. -/
structure Same (hub other : Hub ε ν κ) : Prop where
  bus : hub.bus = other.bus
  router : hub.router = other.router
  host : hub.host = other.host
  history : hub.history.filter (!·.ofChunk) = other.history.filter (!·.ofChunk)

/-- What listeners do does not depend on what the history says of chunks. -/
def Host.Discreet (host : Host ε ν κ) : Prop :=
  ∀ id m, Alike Same Eq (host.hear id m) (host.hear id m)

variable {ε ν κ : Type} {hub other : Hub ε ν κ} {host : Host ε ν κ} {texts : List String}
  {values : List Json}

-- ---------------------------------------------------------------------------
-- Steps that make no difference
-- ---------------------------------------------------------------------------

namespace Same

theorem symm (h : Same hub other) : Same other hub :=
  ⟨h.bus.symm, h.router.symm, h.host.symm, h.history.symm⟩

theorem record (h : Same hub other) (event : Event) :
    Same (hub.record event) (other.record event) := by
  refine ⟨h.bus, h.router, h.host, ?_⟩
  simp only [Hub.record, List.filter_cons, h.history]

theorem note (h : Same hub other) (note : ν) : Same (hub.note note) (other.note note) := by
  refine ⟨h.bus, h.router, h.host, ?_⟩
  simp only [Hub.note, List.filter_cons, h.history]

theorem withTopics (h : Same hub other) (topics : List Group) :
    Same (hub.withTopics topics) (other.withTopics topics) :=
  ⟨by simp only [Hub.withTopics, h.bus], h.router, h.host, h.history⟩

theorem onMailbox (h : Same hub other) (id : Nat) (f : Mailbox → Mailbox) :
    Same (Bus.onMailbox id f hub) (Bus.onMailbox id f other) :=
  ⟨by simp only [Bus.onMailbox, h.bus], h.router, h.host, h.history⟩

theorem chunk (h : Same hub other) {event : Event}
    (he : (Entry.event event : Entry ν).ofChunk = true) : Same (hub.record event) other := by
  refine ⟨h.bus, h.router, h.host, ?_⟩
  simp [Hub.record, he, h.history]

theorem announce (h : Same hub other) (source : String) (s : Selection) :
    Same (Bus.announce source s hub) (Bus.announce source s other) := by
  have pruned : ∀ event, Same (if s.pruned = 0 then hub else hub.record event)
      (if s.pruned = 0 then other else other.record event) := by
    intro event
    split
    · exact h
    · exact h.record event
  exact (pruned _).record _

theorem isClosed (h : Same hub other) : Bus.isClosed host hub = Bus.isClosed host other := by
  funext l
  cases l with
  | mailbox id => simp only [Bus.isClosed, h.bus]
  | external id => simp only [Bus.isClosed, h.host]

theorem lookup (h : Same hub other) (source : String) :
    (Bus.lookup host source hub).1 = (Bus.lookup host source other).1 ∧
      Same (Bus.lookup host source hub).2 (Bus.lookup host source other).2 := by
  unfold Bus.lookup
  rw [h.isClosed, h.bus]
  split
  · exact ⟨rfl, h.record _⟩
  · exact ⟨rfl, (h.withTopics _).announce source _⟩

theorem register (h : Same hub other) (template : String) (l : Listener) :
    (Bus.register template l hub).1 = (Bus.register template l other).1 ∧
      Same (Bus.register template l hub).2 (Bus.register template l other).2 := by
  unfold Bus.register
  rw [h.bus]
  split
  · exact ⟨rfl, h⟩
  · exact ⟨rfl, (h.withTopics _).record _⟩

end Same

-- ---------------------------------------------------------------------------
-- Dispatching
-- ---------------------------------------------------------------------------

namespace Bus

theorem alike_tell (event : Event) :
    Alike Same Eq (Hub.tell event) (Hub.tell event : Task (Hub ε ν κ) Unit) :=
  alike_modify fun _ _ h => h.record event

theorem alike_subscribe (template : String) (l : Listener) :
    Alike Same Eq (subscribe template l) (subscribe template l : Task (Hub ε ν κ) _) :=
  alike_atomically fun _ _ h => h.register template l

theorem alike_hand (discreet : host.Discreet) (m : Message) (l : Listener) :
    Alike Same Eq (hand host m l) (hand host m l) := by
  apply (alike_tell _).bind
  rintro _ _ rfl
  cases l with
  | mailbox id => exact alike_modify fun _ _ h => h.onMailbox id _
  | external id => exact discreet id m

theorem alike_handAll (discreet : host.Discreet) (m : Message) (ls : List Listener) :
    Alike Same Eq (handAll host m ls) (handAll host m ls) := by
  induction ls with
  | nil => exact .done rfl
  | cons l ls ih => exact (alike_hand discreet m l).bind fun _ _ _ => ih

theorem alike_dispatch (discreet : host.Discreet) (m : Message) :
    Alike Same Eq (dispatch host m) (dispatch host m) := by
  unfold dispatch
  split
  · exact (alike_tell _).bind fun _ _ _ => .done rfl
  · apply (alike_atomically fun _ _ h => h.lookup _).bind
    rintro picked _ rfl
    cases picked with
    | none => exact .done rfl
    | some selection =>
      apply (alike_handAll discreet m _).bind
      rintro _ _ rfl
      split <;> exact .done rfl

-- ---------------------------------------------------------------------------
-- Chunks
-- ---------------------------------------------------------------------------

def receiveChunks (host : Host ε ν κ) : List (String × String) → Task (Hub ε ν κ) Unit
  | [] => .done ()
  | (key, text) :: chunks => do
    receiveChunk host key text
    receiveChunks host chunks

theorem receiveChunk_error (h : Message.decode text = .error e) (host : Host ε ν κ) (key : String) :
    receiveChunk host key text = Hub.tell (.chunkUndecodable key) := by
  rw [receiveChunk, h]

theorem receiveRaw_error (h : Message.decode text = .error e) (host : Host ε ν κ) :
    receiveRaw host text = .done (.error (.decode pulledUri e)) := by
  rw [receiveRaw, h]

/-- Of chunks only those count that decode. -/
theorem alike_receiveChunks (discreet : host.Discreet) (chunks : List (String × String)) :
    Alike Same (fun _ _ => True) (receiveChunks host chunks)
      ((chunks.filterMap fun chunk => (Message.decode chunk.2).toOption).mapM (dispatch host)) := by
  induction chunks with
  | nil => exact .done trivial
  | cons chunk chunks ih =>
    obtain ⟨key, text⟩ := chunk
    rw [receiveChunks, List.filterMap_cons]
    cases hd : Message.decode text with
    | error e =>
      rw [receiveChunk_error hd]
      exact alike_aside (fun _ _ h => h.chunk rfl) ih
    | ok m =>
      simp only [receiveChunk, hd, Except.toOption, List.mapM_cons, Task.bind_assoc]
      apply alike_aside fun _ _ h => h.chunk rfl
      apply (alike_dispatch discreet m).bind
      rintro outcome _ -
      rw [← Task.bind_done (receiveChunks host chunks)]
      exact ih.bind fun _ _ _ => .done trivial

-- ---------------------------------------------------------------------------
-- Batches
-- ---------------------------------------------------------------------------

theorem dispatchAll_eq (host : Host ε ν κ) (messages : List Message) :
    dispatchAll host messages = do
      let _ ← messages.mapM (dispatch host)
      return () := by
  induction messages with
  | nil => rfl
  | cons m messages ih =>
    simp only [dispatchAll, ih, List.mapM_cons, Task.bind_assoc, Task.pure_eq, Task.done_bind]

/-- Behind its request a fetch goes on with the answer alone. -/
theorem fetch_answered (resolved : resolve template args = .ok target) (host : Host ε ν κ) :
    ∃ answered : Except TransportFailure String → Task (Hub ε ν κ) (Except StreamError Nat),
      fetch host template args = (do
        Hub.tell (.fetchStarted target.uri)
        answered (← host.request target.uri)) ∧
      ∀ body messages, Message.decodeBatch body = .ok messages → answered (.ok body) = (do
        dispatchAll host messages
        Hub.tell (.fetched target.uri messages.length)
        return .ok messages.length) := by
  rw [fetch, resolved]
  refine ⟨_, rfl, fun body messages read => ?_⟩
  simp only [read]

theorem decode_ok (h : Json.decode text = .ok value) :
    Message.decode text = .ok (Message.ofPayload value) := by
  rw [Message.decode, h]
  rfl

theorem mapM_receiveRaw
    (decoded : List.Forall₂ (fun text value => Json.decode text = .ok value) texts values)
    (host : Host ε ν κ) :
    texts.mapM (receiveRaw host) =
      List.map .ok <$> (values.map Message.ofPayload).mapM (dispatch host) := by
  induction decoded with
  | nil => rfl
  | cons hd _ ih =>
    simp only [List.mapM_cons, List.map_cons, receiveRaw, decode_ok hd, ih]
    simp [map_eq_pure_bind]

theorem filterMap_decode {chunks : List (String × String)}
    (decoded : List.Forall₂ (fun text value => Json.decode text = .ok value)
      (chunks.map Prod.snd) values) :
    chunks.filterMap (fun chunk => (Message.decode chunk.2).toOption) =
      values.map Message.ofPayload := by
  induction chunks generalizing values with
  | nil =>
    cases decoded
    rfl
  | cons chunk chunks ih =>
    cases decoded with
    | cons hd rest =>
      rw [List.filterMap_cons, decode_ok hd, List.map_cons, ← ih rest]
      rfl

/-- However messages come in, they are dispatched one after another, and come to the same. -/
theorem inbound_paths_agree (host : Host ε ν κ)
    (decoded : List.Forall₂ (fun text value => Json.decode text = .ok value) texts values)
    (batch : Json.decodeArray body = .ok values) :
    -- pulled by hand
    texts.mapM (receiveRaw host) =
      List.map .ok <$> (values.map Message.ofPayload).mapM (dispatch host) ∧
    -- fetched
    (∀ template args target, resolve template args = .ok target →
      ∃ answered : Except TransportFailure String → Task (Hub ε ν κ) (Except StreamError Nat),
        fetch host template args = (do
          Hub.tell (.fetchStarted target.uri)
          answered (← host.request target.uri)) ∧
        answered (.ok body) = (do
          let _ ← (values.map Message.ofPayload).mapM (dispatch host)
          Hub.tell (.fetched target.uri values.length)
          return .ok values.length)) ∧
    -- from connections
    (host.Discreet → ∀ chunks : List (String × String), chunks.map Prod.snd = texts →
      Indistinct Same (receiveChunks host chunks)
        ((values.map Message.ofPayload).mapM (dispatch host))) ∧
    -- what does not decode
    ∀ text e, Message.decode text = .error e →
      receiveRaw host text = .done (.error (.decode pulledUri e)) ∧
      ∀ key, Indistinct Same (receiveChunk host key text) (.done () : Task (Hub ε ν κ) Unit) := by
  refine ⟨mapM_receiveRaw decoded host, ?_, ?_, ?_⟩
  · intro template args target resolved
    obtain ⟨answered, he, ha⟩ := fetch_answered resolved host
    have read : Message.decodeBatch body = .ok (values.map Message.ofPayload) := by
      rw [Message.decodeBatch, batch]
      rfl
    refine ⟨answered, he, ?_⟩
    simp only [ha body _ read, dispatchAll_eq, List.length_map, Task.bind_assoc, Task.pure_eq,
      Task.done_bind]
  · rintro discreet chunks rfl
    rw [← filterMap_decode decoded]
    exact (alike_receiveChunks discreet chunks).indistinct fun _ _ => Same.symm
  · intro text e undecodable
    refine ⟨receiveRaw_error undecodable host, fun key => ?_⟩
    have dropped : Alike Same Eq (receiveChunk host key text) (.done () : Task (Hub ε ν κ) Unit) := by
      rw [receiveChunk_error undecodable]
      exact alike_aside (fun _ _ h => h.chunk rfl) (.done rfl)
    exact dropped.indistinct fun _ _ => Same.symm

/-- The listeners of the command line only log what they hear. -/
theorem commandLine_discreet (files : CommandLine.KnownFiles) (root : String) (topics : List String) :
    (CommandLine.host files root topics).Discreet := by
  intro id m
  cases heard : topics[id]? with
  | none =>
    simp only [CommandLine.host, heard]
    exact .done rfl
  | some topic =>
    simp only [CommandLine.host, heard]
    exact alike_modify fun _ _ h => h.note _

def relay : Host Unit Unit Unit where
  connect _ _ := .done (.ok ())
  request _ := .done (.ok "[\x7b\"src\": \"a\"\x7d, \x7b\"src\": \"b\"\x7d]")
  disconnect _ := .done ()
  hear id _ :=
    if id = 0 then do
      let _ ← subscribe "b" (.external 1)
      return ()
    else .done ()
  deaf _ _ := false
  perform _ params := .done params

theorem relay_discreet : relay.Discreet := by
  intro id m
  change Alike Same Eq (if id = 0 then _ else _) (if id = 0 then _ else _)
  split
  · exact (alike_subscribe "b" (.external 1)).bind fun _ _ _ => .done rfl
  · exact .done rfl

def relayed : Hub Unit Unit Unit :=
  ((subscribe "a" (.external 0)).run (Hub.new "bus" "/" ())).2

/-- The second message goes to whom the first one made listen, whichever way they come in. -/
theorem inbound_paths_agree_relayed :
    ((["\x7b\"src\": \"a\"\x7d", "\x7b\"src\": \"b\"\x7d"].mapM (receiveRaw relay)).run relayed).1 =
      [.ok (.delivered "a" 1), .ok (.delivered "b" 1)] ∧
    ((fetch relay "all" []).run relayed).1 = .ok 2 ∧
    ∃ hub, Runs Eq (receiveChunks relay
          [("k", "\x7b\"src\": \"a\"\x7d"), ("k", "\x7b\"src\": \"b\"\x7d")])
        relayed () hub ∧ hub.bus.topicList = ["a", "b"] := by
  have decoded : List.Forall₂ (fun text value => Json.decode text = .ok value)
      ["\x7b\"src\": \"a\"\x7d", "\x7b\"src\": \"b\"\x7d"]
      [.obj [("src", .str "a")], .obj [("src", .str "b")]] :=
    .cons (by cbv) (.cons (by cbv) .nil)
  have batch : Json.decodeArray "[\x7b\"src\": \"a\"\x7d, \x7b\"src\": \"b\"\x7d]" =
      .ok [.obj [("src", .str "a")], .obj [("src", .str "b")]] := by cbv
  obtain ⟨raw, fetched, chunks, -⟩ := inbound_paths_agree relay decoded batch
  refine ⟨?_, ?_, ?_⟩
  · rw [raw]
    cbv
  · have resolved : resolve "all" [] = .ok ⟨"all", true⟩ := by cbv
    obtain ⟨answered, he, ha⟩ := fetched "all" [] ⟨"all", true⟩ resolved
    rw [he]
    change ((Hub.tell (.fetchStarted "all") >>= fun _ => answered (.ok _)).run relayed).1 = _
    rw [ha]
    cbv
  · have alone : Heedless Same (@Eq (Hub Unit Unit Unit)) := by
      rintro hub other _ same rfl
      exact ⟨other, rfl, same⟩
    obtain ⟨-, matched⟩ := chunks relay_discreet [("k", _), ("k", _)] rfl Eq alone relayed relayed
      ⟨rfl, rfl, rfl, rfl⟩
    obtain ⟨⟨⟩, hub, received, same⟩ := matched _ _ (Task.runs_eq_iff.mpr rfl)
    refine ⟨hub, received, ?_⟩
    rw [same.bus]
    cbv

end Bus

end RouteBus
