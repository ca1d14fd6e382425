import RouteBus.Rehearsal.Performance

/-!
# Sessions

A session performs steps one after another and reports, for each, its answer and
what went into the history since the step before it.
-/

namespace RouteBus.Rehearsal

structure Report where
  reply : Reply
  /-- The oldest first. -/
  log : List (Entry Note)

-- ---------------------------------------------------------------------------
-- Sinks
-- ---------------------------------------------------------------------------

/-- Mailboxes whose sinks have been waiting for their turn, in the order in which they
began to: when they were started, or when they got their first message. -/
def dueMailboxes (log : List (Entry Note)) : List Nat :=
  (log.filterMap fun
    | .event (.handed (.mailbox id) _) => some id
    | .note (.sinkStarted id) => some id
    | _ => none).eraseDups

def flushMailbox (mailbox : Nat) : Task Staging Unit := do
  match ← readScene (·.sinks.find? fun (_, receiver) => receiver.mailbox = mailbox) with
  | none => return ()
  | some (id, receiver) =>
    let items := receiver.items (← Bus.drain mailbox)
    Task.modify fun hub => items.foldl (fun hub item => hub.note (.sank id item)) hub

def flushAll : List Nat → Task Staging Unit
  | [] => .done ()
  | mailbox :: mailboxes => do
    flushMailbox mailbox
    flushAll mailboxes

/-- Ends a turn: lets the sinks catch up with the history. -/
def settle (hub : Staging) : Staging :=
  let hub := ((flushAll (dueMailboxes (entriesSince hub.host.settled hub))).run hub).2
  { hub with host := { hub.host with settled := hub.history.length } }

-- ---------------------------------------------------------------------------
-- Performing
-- ---------------------------------------------------------------------------

/-- Runs a task to its end. The sinks catch up whenever it suspends. -/
def playTurns {α : Type} : Task Staging α → Staging → α × Staging
  | .done value, hub => (value, hub)
  | .act effect next, hub => playTurns (next hub) (effect hub)
  | .yield rest, hub => playTurns rest (settle hub)

def play {α : Type} (task : Task Staging α) (hub : Staging) : α × Staging :=
  let (value, hub) := playTurns task hub
  (value, settle hub)

/-- Performs steps in order; the first `seen` entries of the history are reported already. -/
def playAll (seen : Nat) (hub : Staging) : List Step → List Report
  | [] => []
  | step :: steps =>
    let (reply, hub) := play (performStep host step) hub
    ⟨reply, entriesSince seen hub⟩ :: playAll hub.history.length hub steps

def rehearse (name location : String) (steps : List Step) : List Report :=
  playAll 0 (.new name location .new) steps

end RouteBus.Rehearsal
