import Mathlib
import RouteBus.Proofs.Bus.Connections
import RouteBus.Proofs.Bus.Errands
import RouteBus.Proofs.Rehearsal.Lawful

/-!
# One connect for each key

The claims in the table are those of the connects in flight, each held by one task. A
key that is claimed is not open, so a connection is stored whenever its connect succeeds.
-/

namespace RouteBus

open RouteBus.Task (Settles Deals Moves Reaches)

-- ---------------------------------------------------------------------------
-- Calls
-- ---------------------------------------------------------------------------

inductive Call where
  | openStream (template : String) (args : List String)
  | closeStreams (template : String) (args : List String)

inductive Call.Result where
  | opened (result : Except StreamError Bool)
  | closed (result : Except StreamError (List String))

def Call.task (host : Host ε ν κ) : Call → Task (Hub ε ν κ) Call.Result
  | .openStream template args => .opened <$> Bus.openStream host template args
  | .closeStreams template args => .closed <$> Bus.closeStreams host template args

theorem Call.client {host : Host ε ν κ} (lawful : host.Lawful) (call : Call) :
    Client (call.task host) := by
  cases call with
  | openStream template args => exact lawful.served.map _ (lawful.served.openStream template args)
  | closeStreams template args => exact lawful.served.map _ (lawful.served.closeStreams template args)

theorem Call.clients {host : Host ε ν κ} (lawful : host.Lawful) (calls : List Call) :
    ∀ t ∈ calls.map (Call.task host), Client t := by
  intro t ht
  obtain ⟨call, -, rfl⟩ := List.mem_map.mp ht
  exact call.client lawful

-- ---------------------------------------------------------------------------
-- Storing
-- ---------------------------------------------------------------------------

theorem Bus.store_mint {hub : Hub ε ν κ} (h : key ∉ hub.bus.connections.keys) :
    Bus.store (Bus.mint key hub).1 (Bus.mint key hub).2 =
      (none, { hub with
        bus.connections := (hub.bus.connections.store (Bus.mint key hub).1).1
        bus.handlesMade := hub.bus.handlesMade + 1
        history :=
          .event (.opened (Bus.mint key hub).1 (hub.bus.connections.opened.length + 1)) ::
          .event (.connected (Bus.mint key hub).1) :: hub.history }) := by
  have hs := Connections.store_eq_none (h := (Bus.mint key hub).1) h
  unfold Bus.store
  split
  · rename_i hd
    cases hs.symm.trans hd
  · rename_i connections hd
    cases hs.symm.trans hd
    rw [hs, Connections.length_insertSorted]
    rfl

/-- What was connected to a key that is open already is given back. -/
theorem Bus.store_mint_back {hub : Hub ε ν κ} (h : key ∈ hub.bus.connections.keys) :
    Bus.store (Bus.mint key hub).1 (Bus.mint key hub).2 =
      (some (Bus.mint key hub).1,
        (Bus.mint key hub).2.withConnections (hub.bus.connections.release key)) := by
  have back : (Bus.mint key hub).2.bus.connections.store (Bus.mint key hub).1 =
      (hub.bus.connections.release key, some (Bus.mint key hub).1) := if_pos h
  rw [Bus.store, back]

-- ---------------------------------------------------------------------------
-- Connects in flight
-- ---------------------------------------------------------------------------

/-- The keys whose connects were started and have not ended, by what the history says. -/
def inFlight : List (Entry ν) → List String
  | .event (.openStarted key) :: older => key :: inFlight older
  | .event (.connected handle) :: older => (inFlight older).erase handle.key
  | .event (.openFailed key _) :: older => (inFlight older).erase key
  | _ :: older => inFlight older
  | [] => []

def claimed (held : Multiset Duty) : Multiset String :=
  held.filterMap fun
    | .connect key => some key
    | .disconnect _ => none

theorem claimed_add (held extra : Multiset Duty) :
    claimed (held + extra) = claimed held + claimed extra :=
  Multiset.filterMap_add ..

@[simp] theorem claimed_zero : claimed 0 = 0 := rfl
@[simp] theorem claimed_connect (key : String) : claimed {.connect key} = {key} := rfl
@[simp] theorem claimed_disconnect (handle : Handle) : claimed {.disconnect handle} = 0 := rfl

@[simp] theorem claimed_withdrawn (handles : List Handle) :
    claimed (handles.map Duty.disconnect) = 0 := by
  induction handles with
  | nil => rfl
  | cons handle handles ih => exact ih

theorem inFlight_aside {entries older : List (Entry ν)}
    (h : ∀ entry ∈ entries, entry.ofConnection = false) :
    inFlight (entries ++ older) = inFlight older := by
  induction entries with
  | nil => rfl
  | cons entry entries ih =>
    rw [← ih fun x hx => h x (List.mem_cons_of_mem _ hx), List.cons_append]
    have he := h entry List.mem_cons_self
    match entry with
    | .note _ => rfl
    | .event e => cases e <;> first | rfl | cases he

structure Accounted (hub : Hub ε ν κ) (held : Multiset Duty) : Prop where
  claims : claimed held = hub.bus.connections.pending
  started : (inFlight hub.history).Perm hub.bus.connections.pending
  once : hub.bus.connections.pending.Nodup
  apart : ∀ key ∈ hub.bus.connections.pending, key ∉ hub.bus.connections.keys

variable {ε ν κ α : Type} {hub hub' : Hub ε ν κ} {host : Host ε ν κ}

namespace Accounted

theorem mem_pending (ha : Accounted hub ({.connect key} + rest)) :
    key ∈ hub.bus.connections.pending := by
  have : key ∈ claimed ({.connect key} + rest) := by
    rw [claimed_add, claimed_connect]
    exact Multiset.mem_add.mpr (.inl (Multiset.mem_singleton_self key))
  rwa [ha.claims] at this

/-- Giving up a claim that a task holds leaves the claims of the others. -/
theorem release (ha : Accounted hub ({.connect key} + rest)) :
    claimed rest = (hub.bus.connections.release key).pending ∧
      ((inFlight hub.history).erase key).Perm (hub.bus.connections.release key).pending ∧
      (hub.bus.connections.release key).pending.Nodup := by
  rw [Connections.pending_release ha.once]
  refine ⟨?_, ha.started.erase key, ha.once.erase key⟩
  rw [← Multiset.coe_erase, ← ha.claims, claimed_add, claimed_connect, Multiset.singleton_add,
    Multiset.erase_cons_head]

theorem aside (ha : Accounted hub held) (h : Aside hub hub') : Accounted hub' held := by
  obtain ⟨entries, he, hc⟩ := h.history
  refine ⟨?_, ?_, ?_, ?_⟩
  · rw [h.connections]; exact ha.claims
  · rw [h.connections, he, inFlight_aside hc]; exact ha.started
  · rw [h.connections]; exact ha.once
  · rw [h.connections]; exact ha.apart

theorem claim (ha : Accounted hub held)
    (h : hub.bus.connections.reserve key = some connections) :
    Accounted ((hub.withConnections connections).record (.openStarted key))
      ({.connect key} + held) := by
  obtain ⟨hk, hp, rfl⟩ := Connections.reserve_eq_some_iff.mp h
  refine ⟨?_, ha.started.cons key, ha.once.cons hp, ?_⟩
  · rw [claimed_add, ha.claims]; rfl
  · intro x hx
    rcases List.mem_cons.mp hx with rfl | hx
    · exact hk
    · exact ha.apart x hx

theorem abandon (ha : Accounted hub ({.connect key} + rest)) :
    Accounted (Bus.abandon key refusal hub) rest := by
  obtain ⟨hc, hs, ho⟩ := ha.release
  exact ⟨hc, hs, ho, fun x hx => ha.apart x (List.mem_filter.mp hx).1⟩

theorem not_mem_keys (ha : Accounted hub ({.connect key} + rest)) :
    key ∉ hub.bus.connections.keys :=
  ha.apart key ha.mem_pending

theorem store (ha : Accounted hub ({.connect key} + rest)) :
    Accounted (Bus.store (Bus.mint key hub).1 (Bus.mint key hub).2).2 rest := by
  obtain ⟨hc, hs, ho⟩ := ha.release
  have hk := ha.not_mem_keys
  have hp : (hub.bus.connections.store (Bus.mint key hub).1).1.pending =
      (hub.bus.connections.release key).pending := by
    rw [Connections.store_eq_none (h := (Bus.mint key hub).1) hk]
    rfl
  rw [Bus.store_mint hk]
  refine ⟨hc.trans (by rw [hp]), hs.trans (by rw [hp]), by rw [hp]; exact ho, ?_⟩
  intro x hx hmem
  rw [hp] at hx
  obtain ⟨hx, hne⟩ := List.mem_filter.mp hx
  rcases (Connections.mem_keys_store (h := (Bus.mint key hub).1) hk).mp hmem with rfl | hmem
  · simp at hne
  · exact ha.apart x hx hmem

theorem withdraw (ha : Accounted hub held)
    (h : hub.bus.connections.takeMatching template = (handles, connections)) :
    Accounted ((hub.withConnections connections).record (.withdrawn handles))
      (handles.map Duty.disconnect + held) := by
  cases h
  refine ⟨?_, ha.started, ha.once, ?_⟩
  · rw [claimed_add, claimed_withdrawn, zero_add]; exact ha.claims
  · exact fun x hx hmem => ha.apart x hx (Connections.mem_keys_takeMatching.mp hmem).1

theorem unclaimed (ha : Accounted hub (taken + rest)) (ht : claimed taken = 0)
    (hc : hub'.bus.connections = hub.bus.connections)
    (hh : inFlight hub'.history = inFlight hub.history) : Accounted hub' rest := by
  have claims := ha.claims
  rw [claimed_add, ht, zero_add] at claims
  refine ⟨?_, ?_, ?_, ?_⟩
  · rw [hc]; exact claims
  · rw [hc, hh]; exact ha.started
  · rw [hc]; exact ha.once
  · rw [hc]; exact ha.apart

/-- Every deal of one task leaves all that is held by any accounted for. -/
theorem deals (ha : Accounted hub held) (h : Deals Deal hub hub' held held') :
    Accounted hub' held' := by
  obtain ⟨taken, given, rest, rfl, rfl, hd⟩ := h
  cases hd with
  | aside h => exact ha.aside h
  | claim h => rw [zero_add] at ha; exact ha.claim h
  | store => rw [zero_add]; exact ha.store
  | giveBack h =>
    -- The key is claimed, so it is not open and nothing is given back.
    rw [Bus.store_mint ha.not_mem_keys] at h
    cases h
  | abandon => rw [zero_add]; exact ha.abandon
  | withdraw h => rw [zero_add] at ha; exact ha.withdraw h
  | disconnect => rw [zero_add]; exact ha.unclaimed (claimed_disconnect _) rfl rfl
  | closed => rw [zero_add]; exact ha.unclaimed claimed_zero rfl rfl

/-- A connect is started for a key that is neither open nor claimed, and what it makes was not
open and is stored. -/
theorem news (ha : Accounted hub held) (h : Deals Deal hub hub' held held' ∨ hub' = hub)
    (he : hub'.history = entries ++ hub.history) :
    (∀ key, .event (.openStarted key) ∈ entries →
      key ∉ hub.bus.connections.keys ∧ key ∉ hub.bus.connections.pending) ∧
    ∀ handle, .event (.connected handle) ∈ entries →
      handle.key ∉ hub.bus.connections.keys ∧ handle ∈ hub'.bus.connections.opened := by
  obtain ⟨taken, given, rest, rfl, rfl, hd⟩ | rfl := h
  case inr => simp [List.self_eq_append_left.mp he]
  have entries_eq : ∀ {news}, hub'.history = news ++ hub.history → entries = news :=
    fun hn => List.append_cancel_right (he.symm.trans hn)
  cases hd with
  | aside h =>
    obtain ⟨news, hn, hc⟩ := h.history
    obtain rfl := entries_eq hn
    exact ⟨fun key hm => (nomatch hc _ hm), fun handle hm => (nomatch hc _ hm)⟩
  | claim h =>
    obtain ⟨hk, hp, -⟩ := Connections.reserve_eq_some_iff.mp h
    obtain rfl := entries_eq (List.singleton_append ..).symm
    refine ⟨fun key hm => ?_, fun handle hm => ?_⟩
    · cases List.mem_singleton.mp hm; exact ⟨hk, hp⟩
    · cases List.mem_singleton.mp hm
  | @store key hub =>
    have hk := ha.not_mem_keys
    rw [Bus.store_mint hk] at entries_eq ⊢
    obtain rfl := entries_eq (List.append_assoc [_] [_] hub.history).symm
    refine ⟨fun key hm => ?_, fun handle hm => ?_⟩
    · simp at hm
    · have hh : handle = (Bus.mint key hub).1 := by simpa using hm
      have hs := Connections.store_eq_none (h := (Bus.mint key hub).1) hk
      rw [hh, hs]
      exact ⟨hk, Connections.mem_insertSorted.mpr (.inl rfl)⟩
  | giveBack h =>
    rw [Bus.store_mint ha.not_mem_keys] at h
    cases h
  | abandon | withdraw | disconnect | closed =>
    obtain rfl := entries_eq (List.singleton_append ..).symm
    exact ⟨fun key hm => (nomatch List.mem_singleton.mp hm),
      fun handle hm => (nomatch List.mem_singleton.mp hm)⟩

end Accounted

-- ---------------------------------------------------------------------------
-- Calls among each other
-- ---------------------------------------------------------------------------

structure Idle (hub : Hub ε ν κ) : Prop where
  pending : hub.bus.connections.pending = []
  history : inFlight hub.history = []

theorem Idle.accounted (idle : Idle hub) : Accounted hub 0 := by
  obtain ⟨hp, hh⟩ := idle
  refine ⟨?_, ?_, ?_, ?_⟩
  · rw [hp]; rfl
  · rw [hp, hh]
  · rw [hp]; exact List.nodup_nil
  · simp [hp]

theorem idle_new (name location : String) (state : ε) :
    Idle (Hub.new name location state : Hub ε ν κ) := ⟨rfl, rfl⟩

/-- Where calls have got to: the claims in the table are those of the connects in flight,
each key is claimed once, by one of the calls, and a key that is open is not connected to. -/
structure SingleFlight (tasks : List (Task (Hub ε ν κ) α)) (hub : Hub ε ν κ) : Prop where
  apart : ∀ key ∈ hub.bus.connections.pending, key ∉ hub.bus.connections.keys
  flights : (inFlight hub.history).Perm hub.bus.connections.pending
  once : (inFlight hub.history).Nodup
  owners : ∃ shares : List (Multiset Duty), List.Forall₂ (Settles Deal) shares tasks ∧
    (shares.map claimed).sum = hub.bus.connections.pending
  starts : ∀ {tasks' hub' entries}, Moves tasks hub tasks' hub' →
    hub'.history = entries ++ hub.history → ∀ key, .event (.openStarted key) ∈ entries →
      key ∉ hub.bus.connections.keys ∧ key ∉ hub.bus.connections.pending
  stores : ∀ {tasks' hub' entries}, Moves tasks hub tasks' hub' →
    hub'.history = entries ++ hub.history → ∀ handle, .event (.connected handle) ∈ entries →
      handle ∈ hub'.bus.connections.opened
  keeps : ∀ handle : Handle, handle.key ∈ hub.bus.connections.pending →
    (hub.bus.connections.store handle).2 = none
  ended : (∀ t ∈ tasks, ∃ value, t = .done value) → hub.bus.connections.pending = []

theorem Accounted.singleFlight {tasks : List (Task (Hub ε ν κ) α)}
    {shares : List (Multiset Duty)} (ha : Accounted hub shares.sum)
    (hs : List.Forall₂ (Settles Deal) shares tasks) : SingleFlight tasks hub where
  apart := ha.apart
  flights := ha.started
  once := ha.started.nodup_iff.mpr ha.once
  owners := ⟨shares, hs, (Task.sum_map_of_add claimed_zero claimed_add shares).trans ha.claims⟩
  starts hm he key hk := by
    obtain ⟨shares', -, hd⟩ := hm.settles hs
    exact (ha.news (hd.imp_right And.left) he).1 key hk
  stores hm he handle hh := by
    obtain ⟨shares', -, hd⟩ := hm.settles hs
    exact ((ha.news (hd.imp_right And.left) he).2 handle hh).2
  keeps handle hp := by rw [Connections.store_eq_none (ha.apart _ hp)]
  ended hd := by
    have hz := ha.claims
    rw [Task.sum_eq_zero_of_done (fun _ _ h => h) hs hd] at hz
    exact (Multiset.coe_eq_zero _).mp hz.symm

/-- Clients of the hub that go on in any order hold what the table and the history tell of. -/
theorem accounted_of_reaches {tasks tasks' : List (Task (Hub ε ν κ) α)}
    (clients : ∀ t ∈ tasks, Client t) (idle : Idle hub) (h : Reaches tasks hub tasks' hub') :
    ∃ shares, List.Forall₂ (Settles Deal) shares tasks' ∧ Accounted hub' shares.sum := by
  have none_held : List.Forall₂ (Settles Deal) (tasks.map fun _ => 0) tasks := by
    rw [List.forall₂_map_left_iff, List.forall₂_same]
    exact fun t ht => (clients t ht).settles
  exact h.settles (fun hd ha => Accounted.deals ha hd) none_held (by simpa using idle.accounted)

/-- Clients of the hub that go on in any order never connect to one key twice at a time. -/
theorem singleFlight_of_reaches {tasks tasks' : List (Task (Hub ε ν κ) α)}
    (clients : ∀ t ∈ tasks, Client t) (idle : Idle hub) (h : Reaches tasks hub tasks' hub') :
    SingleFlight tasks' hub' := by
  obtain ⟨shares, hs, ha⟩ := accounted_of_reaches clients idle h
  exact ha.singleFlight hs

/-- Whatever calls open and close connections, in whatever order they go on, and whatever
transport and listeners do as clients of the hub. -/
theorem single_flight (lawful : host.Lawful) (calls : List Call) (idle : Idle hub)
    {tasks : List (Task (Hub ε ν κ) Call.Result)}
    (h : Reaches (calls.map (Call.task host)) hub tasks hub') : SingleFlight tasks hub' :=
  singleFlight_of_reaches (Call.clients lawful calls) idle h

def overlapping : Call := .openStream "stream/*" []

def slow : Rehearsal.Staging := .new "bus" "/" { Rehearsal.Scene.new with connectYields := 1 }

def midway : Rehearsal.Staging := ((overlapping.task Rehearsal.host).turn slow).2

theorem single_flight_overlapping :
    ∃ first hub, Reaches ([overlapping, overlapping].map (Call.task Rehearsal.host)) slow
        [first, .done (.opened (.ok false))] hub ∧
      inFlight hub.history = ["stream/*"] ∧ hub.bus.connections.pending = ["stream/*"] := by
  have begun := Reaches.turn (overlapping.task Rehearsal.host)
    [overlapping.task Rehearsal.host] slow
  have ended := begun.trans (Reaches.run (overlapping.task Rehearsal.host) [] midway).later
  have refused : ((overlapping.task Rehearsal.host).run midway).1 = .opened (.ok false) := by cbv
  have flying : inFlight ((overlapping.task Rehearsal.host).run midway).2.history =
    ["stream/*"] := by cbv
  have flights := (single_flight Rehearsal.host_lawful [overlapping, overlapping]
    (idle_new ..) ended).flights
  rw [flying] at flights
  rw [refused] at ended
  exact ⟨_, _, ended, flying, List.perm_singleton.mp flights.symm⟩

end RouteBus
