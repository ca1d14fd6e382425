import RouteBus.Proofs.Hub.Clients
import RouteBus.Proofs.Task.Duties

/-!
# What tasks owe to the connection table

Whoever claims a key has to give the claim up when the connect has ended, and whoever
takes a connection out of the table has to disconnect it. Each atomic step on the hub
either has to do with no connection or deals with such duties, and a client that ends
has done all of its own.
-/

namespace RouteBus

inductive Duty where
  /-- The connect to a key is in flight. -/
  | connect (key : String)
  /-- A connection is in the table no more and still to be disconnected. -/
  | disconnect (handle : Handle)
  deriving DecidableEq

def Entry.ofConnection : Entry ν → Bool
  | .event e => e.ofConnection
  | .note _ => false

/-- Neither the connections nor what the history says of them is touched. -/
structure Aside (hub hub' : Hub ε ν κ) : Prop where
  connections : hub'.bus.connections = hub.bus.connections
  handlesMade : hub'.bus.handlesMade = hub.bus.handlesMade
  history : ∃ entries : List (Entry ν), hub'.history = entries ++ hub.history ∧
    ∀ entry ∈ entries, entry.ofConnection = false

inductive Deal : Hub ε ν κ → Hub ε ν κ → Multiset Duty → Multiset Duty → Prop
  | aside : Aside hub hub' → Deal hub hub' 0 0
  | claim : hub.bus.connections.reserve key = some connections →
      Deal hub ((hub.withConnections connections).record (.openStarted key)) 0 {.connect key}
  | store : (Bus.store (Bus.mint key hub).1 (Bus.mint key hub).2).1 = none →
      Deal hub (Bus.store (Bus.mint key hub).1 (Bus.mint key hub).2).2 {.connect key} 0
  | giveBack : (Bus.store (Bus.mint key hub).1 (Bus.mint key hub).2).1 = some handle →
      Deal hub (Bus.store (Bus.mint key hub).1 (Bus.mint key hub).2).2
        {.connect key} {.disconnect handle}
  | abandon : Deal hub (Bus.abandon key refusal hub) {.connect key} 0
  | withdraw : hub.bus.connections.takeMatching template = (handles, connections) →
      Deal hub ((hub.withConnections connections).record (.withdrawn handles)) 0
        (handles.map Duty.disconnect)
  | disconnect : Deal hub (hub.record (.closing handle)) {.disconnect handle} 0
  | closed : Deal hub (hub.record (.closed template handle)) 0 0

variable {ε ν κ α β : Type} {hub hub' : Hub ε ν κ} {host : Host ε ν κ}

-- ---------------------------------------------------------------------------
-- Steps aside
-- ---------------------------------------------------------------------------

theorem Aside.of_record {event : Event} (h : event.ofConnection = false)
    (hc : hub'.bus.connections = hub.bus.connections)
    (hn : hub'.bus.handlesMade = hub.bus.handlesMade) (hh : hub'.history = hub.history) :
    Aside hub (hub'.record event) where
  connections := hc
  handlesMade := hn
  history := ⟨[.event event], by simp [Hub.record, hh], by simpa [Entry.ofConnection] using h⟩

theorem Aside.of_history (hc : hub'.bus.connections = hub.bus.connections)
    (hn : hub'.bus.handlesMade = hub.bus.handlesMade) (hh : hub'.history = hub.history) :
    Aside hub hub' where
  connections := hc
  handlesMade := hn
  history := ⟨[], hh, by simp⟩

theorem Aside.trans {last : Hub ε ν κ} (h : Aside hub hub') (h' : Aside hub' last) :
    Aside hub last := by
  obtain ⟨before, hb, hbc⟩ := h.history
  obtain ⟨after, ha, hac⟩ := h'.history
  refine ⟨h'.connections.trans h.connections, h'.handlesMade.trans h.handlesMade,
    after ++ before, by simp [ha, hb], fun entry he => ?_⟩
  rcases List.mem_append.mp he with he | he
  · exact hac entry he
  · exact hbc entry he

theorem aside_register (template : String) (l : Listener) :
    Aside hub (Bus.register template l hub).2 := by
  unfold Bus.register
  split
  · exact .of_history rfl rfl rfl
  · refine .of_record ?_ rfl rfl rfl
    unfold Bus.joiningEvent
    split <;> rfl

theorem aside_announce (source : String) (s : Selection) :
    Aside hub (Bus.announce source s hub) := by
  unfold Bus.announce
  dsimp only
  have pruned : Aside hub (if s.pruned = 0 then hub
      else hub.record (.listenersPruned s.topic s.pruned)) := by
    split
    · exact .of_history rfl rfl rfl
    · exact .of_record rfl rfl rfl rfl
  refine pruned.trans (.of_record ?_ rfl rfl rfl)
  split <;> rfl

theorem aside_lookup (host : Host ε ν κ) (source : String) :
    Aside hub (Bus.lookup host source hub).2 := by
  unfold Bus.lookup
  split
  · exact .of_record rfl rfl rfl rfl
  · rename_i topics _
    have selected : Aside hub (hub.withTopics topics) := .of_history rfl rfl rfl
    exact selected.trans (aside_announce ..)

theorem aside_push (location : String) : Aside hub (Router.push location hub) := by
  have pushed : Aside hub ((hub.withLocation (hub.router.location.push location)).record
      (.locationPushed hub.router.location.current
        (hub.router.location.push location).current)) :=
    .of_record rfl rfl rfl rfl
  unfold Router.push
  dsimp only
  split
  · exact pushed
  · exact pushed.trans (.of_record rfl rfl rfl rfl)

theorem aside_receive : Aside hub (Router.receive hub).2 := by
  unfold Router.receive
  split <;> exact .of_history rfl rfl rfl

theorem Deed.aside (h : Deed hub hub') : Aside hub hub' := by
  cases h with
  | stay | own | put | empty | drop | closeLocation | dropNavigations =>
    exact .of_history rfl rfl rfl
  | note note => exact ⟨rfl, rfl, [.note note], rfl, by simp [Entry.ofConnection]⟩
  | tell event he => exact .of_record he rfl rfl rfl
  | register template l => exact aside_register template l
  | receiver template hr =>
    have h : Aside hub (Bus.register template (.mailbox hub.bus.mailboxes.length) hub).2 :=
      aside_register ..
    rw [hr] at h
    exact h.trans (.of_history rfl rfl rfl)
  | lookup host source => exact aside_lookup host source
  | push location => exact aside_push location
  | receive => exact aside_receive
  | addRoute route => exact .of_record rfl rfl rfl rfl

end RouteBus
