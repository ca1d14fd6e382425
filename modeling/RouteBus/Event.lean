import RouteBus.Params
import RouteBus.Bus.Topics
import RouteBus.Bus.Connections
import RouteBus.Bus.Failure
import RouteBus.Message

/-!
# Events

What bus, router and location do, as a history. Most events are also written as
structured records; the others only keep the history complete.
-/

namespace RouteBus

inductive Operation where
  | stream | close | fetch
  deriving DecidableEq, Repr

def Operation.name : Operation → String
  | .stream => "stream"
  | .close => "close"
  | .fetch => "fetch"

inductive Event where
  | busReady (bus : String)
  | groupCreated (topic : String) (groups : Nat)
  | groupJoined (topic : String) (listeners : Nat)
  | sourceMissing
  | sourceUnmatched (source : String)
  | listenersPruned (topic : String) (pruned : Nat)
  | groupEmpty (topic source : String)
  | delivering (topic source : String) (listeners : Nat)
  | handed (listener : Listener) (message : Message)
  | chunkReceived (key source : String) (bytes : Nat)
  | chunkUndecodable (key : String)
  | openSkipped (key : String)
  | openStarted (key : String)
  | connected (handle : Handle)
  | opened (handle : Handle) (count : Nat)
  | openFailed (key : String) (failure : TransportFailure)
  | closeSkipped (template key : String)
  | withdrawn (handles : List Handle)
  | closing (handle : Handle)
  | closed (template : String) (handle : Handle)
  | fetchStarted (uri : String)
  | fetchFailed (uri : String) (failure : TransportFailure)
  | fetchUndecodable (uri : String)
  | fetched (uri : String) (messages : Nat)
  | failureSwallowed (operation : Operation) (template : String) (args : List String)
      (error : StreamError)
  | routerReady (router : String)
  | routeRegistered (router template : String)
  | chainStarted (route : Nat) (params : Params)
  | routeReplayed (router template location : String) (params : Params)
  | navigationReceived (router previous location : String)
  | navigationMatched (router template : String) (params : Params)
  | navigationUnmatched (router location : String)
  | navigationsEnded (router : String)
  | targetIncomplete (router template : String) (args : List String)
  | locationPushed (previous location : String)
  | navigationDropped
  deriving DecidableEq, Repr

-- ---------------------------------------------------------------------------
-- Records
-- ---------------------------------------------------------------------------

inductive Level where
  | debug | info | warn
  deriving DecidableEq, Repr

def Level.name : Level → String
  | .debug => "DEBUG"
  | .info => "INFO"
  | .warn => "WARN"

inductive FieldValue where
  | text (value : String)
  | count (value : Nat)
  deriving DecidableEq, Repr

structure Record where
  level : Level
  event : String
  component : String
  fields : List (String × FieldValue)
  deriving DecidableEq, Repr

/-- The text of a failure in a record; a decoding failure has one text for all. -/
def StreamError.summary : StreamError → String
  | .decode .. => "decode"
  | error => error.message

namespace Event

private def topicRecord (level : Level) (event : String) (fields : List (String × FieldValue)) :
    Option Record :=
  some ⟨level, event, "topic_registry", fields⟩

private def connectionRecord (level : Level) (event : String)
    (fields : List (String × FieldValue)) : Option Record :=
  some ⟨level, event, "connection_lifecycle", fields⟩

private def busRecord (level : Level) (event : String) (fields : List (String × FieldValue)) :
    Option Record :=
  some ⟨level, event, "stream_bus", fields⟩

private def routerRecord (level : Level) (event : String) (fields : List (String × FieldValue)) :
    Option Record :=
  some ⟨level, event, "router", fields⟩

def record? : Event → Option Record
  | .busReady bus => busRecord .info "stream_bus_init" [("bus", .text bus)]
  | .groupCreated topic groups =>
    topicRecord .debug "topic_group_create" [("topic", .text topic), ("groups", .count groups)]
  | .groupJoined topic listeners =>
    topicRecord .debug "topic_group_join" [("topic", .text topic), ("listeners", .count listeners)]
  | .sourceMissing => topicRecord .warn "dispatch_missing_source" []
  | .sourceUnmatched source => topicRecord .debug "dispatch_no_match" [("src", .text source)]
  | .listenersPruned topic pruned =>
    topicRecord .debug "dispatch_listeners_pruned"
      [("topic", .text topic), ("pruned", .count pruned), ("reason", .text "listener_closed")]
  | .groupEmpty topic source =>
    topicRecord .warn "dispatch_empty_group" [("topic", .text topic), ("src", .text source)]
  | .delivering topic source listeners =>
    topicRecord .debug "dispatch_deliver"
      [("topic", .text topic), ("src", .text source), ("listeners", .count listeners)]
  | .chunkReceived key source bytes =>
    some ⟨.debug, "ingress_receive", "ingress_listener",
      [("key", .text key), ("src", .text source), ("bytes", .count bytes)]⟩
  | .chunkUndecodable key =>
    some ⟨.warn, "ingress_decode_failed", "ingress_listener",
      [("key", .text key), ("err", .text "decode")]⟩
  | .openSkipped key =>
    connectionRecord .debug "connection_open_skipped"
      [("key", .text key), ("reason", .text "already_connected")]
  | .openStarted key => connectionRecord .debug "connection_open_start" [("key", .text key)]
  | .opened handle count =>
    connectionRecord .info "connection_open_ok" [("key", .text handle.key), ("open", .count count)]
  | .openFailed key failure =>
    connectionRecord .warn "connection_open_failed"
      [("key", .text key), ("err", .text failure.message)]
  | .closeSkipped template key =>
    connectionRecord .debug "connection_close_skipped"
      [("template", .text template), ("key", .text key), ("reason", .text "target_still_wanted")]
  | .closed template handle =>
    connectionRecord .info "connection_close_ok"
      [("template", .text template), ("key", .text handle.key)]
  | .fetchStarted uri => busRecord .debug "fetch_start" [("uri", .text uri)]
  | .fetchFailed uri failure =>
    busRecord .warn "fetch_failed" [("uri", .text uri), ("err", .text failure.message)]
  | .fetchUndecodable uri =>
    busRecord .warn "fetch_decode_failed" [("uri", .text uri), ("err", .text "decode")]
  | .fetched uri messages =>
    busRecord .info "fetch_ok" [("uri", .text uri), ("messages", .count messages)]
  | .failureSwallowed operation template args error =>
    busRecord .warn "action_failure_swallowed"
      [("operation", .text operation.name), ("template", .text template),
        ("params", .text (formatKeys args)), ("err", .text error.summary)]
  | .routerReady router => routerRecord .info "router_init" [("router", .text router)]
  | .routeRegistered router template =>
    routerRecord .debug "route_subscribe" [("router", .text router), ("template", .text template)]
  | .routeReplayed router template location params =>
    routerRecord .debug "route_replay"
      [("router", .text router), ("template", .text template), ("location", .text location),
        ("params", .text params.format)]
  | .navigationReceived router previous location =>
    routerRecord .debug "navigation_receive"
      [("router", .text router), ("previous", .text previous), ("location", .text location)]
  | .navigationMatched router template params =>
    routerRecord .debug "navigation_match"
      [("router", .text router), ("template", .text template), ("params", .text params.format)]
  | .navigationUnmatched router location =>
    routerRecord .debug "navigation_no_match"
      [("router", .text router), ("location", .text location)]
  | .navigationsEnded router =>
    routerRecord .debug "navigation_listen_closed" [("router", .text router)]
  | .targetIncomplete router template args =>
    routerRecord .debug "navigation_push"
      [("router", .text router), ("template", .text template), ("params", .text (formatKeys args))]
  | .locationPushed previous location =>
    some ⟨.debug, "navigation_push", "location",
      [("previous", .text previous), ("location", .text location)]⟩
  | .navigationDropped =>
    some ⟨.warn, "navigation_notify_dropped", "location",
      [("reason", .text "receiver_dropped")]⟩
  | .handed .. | .connected .. | .withdrawn .. | .closing .. | .chainStarted .. => none

end Event

end RouteBus
