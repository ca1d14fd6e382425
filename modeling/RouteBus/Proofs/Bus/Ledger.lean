import RouteBus.Proofs.Bus.SingleFlight

/-!
# Where a connection is

A connection that was made is in the table, in the hands of one task that took it out, or
closed. The table, what all tasks have in hand and the history account for each of them
exactly once, so none is lost and none is closed twice.
-/

namespace RouteBus

open RouteBus.Task (Settles Deals Reaches)

-- ---------------------------------------------------------------------------
-- What the history says
-- ---------------------------------------------------------------------------

def Entry.made? : Entry ν → Option Handle
  | .event (.connected handle) => some handle
  | _ => none

def Entry.closing? : Entry ν → Option Handle
  | .event (.closing handle) => some handle
  | _ => none

def Entry.closed? : Entry ν → Option Handle
  | .event (.closed _ handle) => some handle
  | _ => none

def made (history : List (Entry ν)) : List Handle := history.filterMap Entry.made?

def closings (history : List (Entry ν)) : List Handle := history.filterMap Entry.closing?

def closeds (history : List (Entry ν)) : List Handle := history.filterMap Entry.closed?

def Entry.withdrawals : Entry ν → List Handle
  | .event (.withdrawn handles) => handles
  | _ => []

def withdrawals (history : List (Entry ν)) : List Handle := history.flatMap Entry.withdrawals

inductive Turn where
  | stored | taken
  deriving DecidableEq

def Entry.turns (key : String) : Entry ν → List Turn
  | .event (.opened handle _) => if handle.key = key then [.stored] else []
  | .event (.withdrawn handles) => (handles.filter (·.key = key)).map fun _ => .taken
  | _ => []

/-- How connections of a key came into the table and went out of it, the latest first. -/
def turns (key : String) (history : List (Entry ν)) : List Turn := history.flatMap (Entry.turns key)

/-- By turns stored and taken, and stored at the first. The latest comes first. -/
structure Alternating (ts : List Turn) : Prop where
  chain : ts.IsChain (· ≠ ·)
  first : ts.getLast? ≠ some .taken

theorem Alternating.cons_stored (h : Alternating ts) (hs : ts.head? ≠ some .stored) :
    Alternating (.stored :: ts) := by
  obtain ⟨hc, hl⟩ := h
  cases ts with
  | nil => exact ⟨.singleton _, by simp⟩
  | cons t ts =>
    refine ⟨hc.cons_cons fun he => hs (by simp [← he]), ?_⟩
    simpa using hl

theorem Alternating.cons_taken (h : Alternating ts) (hs : ts.head? = some .stored) :
    Alternating (.taken :: ts) := by
  obtain ⟨hc, hl⟩ := h
  cases ts with
  | nil => cases hs
  | cons t ts =>
    obtain rfl : t = .stored := by simpa using hs
    exact ⟨hc.cons_cons (by simp), by simpa using hl⟩

section
variable {entries older : List (Entry ν)}

theorem filterMap_aside {f : Entry ν → Option Handle}
    (hf : ∀ entry, entry.ofConnection = false → f entry = none)
    (h : ∀ entry ∈ entries, entry.ofConnection = false) :
    (entries ++ older).filterMap f = older.filterMap f := by
  rw [List.filterMap_append, List.filterMap_eq_nil_iff.mpr fun entry he => hf entry (h entry he)]
  rfl

theorem made_aside (h : ∀ entry ∈ entries, entry.ofConnection = false) :
    made (entries ++ older) = made older := by
  refine filterMap_aside (fun entry he => ?_) h
  unfold Entry.made?
  split <;> first | rfl | cases he

theorem closings_aside (h : ∀ entry ∈ entries, entry.ofConnection = false) :
    closings (entries ++ older) = closings older := by
  refine filterMap_aside (fun entry he => ?_) h
  unfold Entry.closing?
  split <;> first | rfl | cases he

theorem closeds_aside (h : ∀ entry ∈ entries, entry.ofConnection = false) :
    closeds (entries ++ older) = closeds older := by
  refine filterMap_aside (fun entry he => ?_) h
  unfold Entry.closed?
  split <;> first | rfl | cases he

theorem flatMap_aside {f : Entry ν → List β}
    (hf : ∀ entry, entry.ofConnection = false → f entry = [])
    (h : ∀ entry ∈ entries, entry.ofConnection = false) :
    (entries ++ older).flatMap f = older.flatMap f := by
  rw [List.flatMap_append, List.flatMap_eq_nil_iff.mpr fun entry he => hf entry (h entry he)]
  rfl

theorem withdrawals_aside (h : ∀ entry ∈ entries, entry.ofConnection = false) :
    withdrawals (entries ++ older) = withdrawals older := by
  refine flatMap_aside (fun entry he => ?_) h
  unfold Entry.withdrawals
  split <;> first | rfl | cases he

theorem turns_aside (h : ∀ entry ∈ entries, entry.ofConnection = false) :
    turns key (entries ++ older) = turns key older := by
  refine flatMap_aside (fun entry he => ?_) h
  unfold Entry.turns
  split <;> first | rfl | cases he

end

-- ---------------------------------------------------------------------------
-- What tasks have in hand
-- ---------------------------------------------------------------------------

def Errand.handle? (stage : Stage) : Errand → Option Handle
  | .connect _ => none
  | .part s handle => if s = stage then some handle else none

def inHand (stage : Stage) (held : Multiset Errand) : Multiset Handle :=
  held.filterMap (Errand.handle? stage)

theorem inHand_add (stage : Stage) (held extra : Multiset Errand) :
    inHand stage (held + extra) = inHand stage held + inHand stage extra :=
  Multiset.filterMap_add ..

@[simp] theorem inHand_zero (stage : Stage) : inHand stage 0 = 0 := rfl

@[simp] theorem inHand_connect (stage : Stage) (key : String) :
    inHand stage {.connect key} = 0 := rfl

@[simp] theorem inHand_part (stage s : Stage) (handle : Handle) :
    inHand stage {.part s handle} = if s = stage then {handle} else 0 := by
  cases stage <;> cases s <;> rfl

@[simp] theorem inHand_map_part (stage s : Stage) (handles : List Handle) :
    inHand stage (handles.map (Errand.part s)) = if s = stage then ↑handles else 0 := by
  rw [inHand, Multiset.filterMap_coe, List.filterMap_map]
  by_cases hs : s = stage
  · simp [hs, Errand.handle?]
  · simp [hs, Errand.handle?]

theorem inHand_sum (stage : Stage) (shares : List (Multiset Errand)) :
    (shares.map (inHand stage)).sum = inHand stage shares.sum :=
  Task.sum_map_of_add (inHand_zero stage) (inHand_add stage) shares

theorem claims_sum (shares : List (Multiset Errand)) :
    (shares.map fun share => claimed (duties share)).sum = claimed (duties shares.sum) := by
  refine Task.sum_map_of_add rfl (fun held extra => ?_) shares
  rw [duties_add, claimed_add]

-- ---------------------------------------------------------------------------
-- The account
-- ---------------------------------------------------------------------------

/-- The table, what the tasks have in hand and the history agree on where each connection is. -/
structure Balanced (hub : Hub ε ν κ) (held : Multiset Errand) : Prop where
  accounted : Accounted hub (duties held)
  places : (made hub.history : Multiset Handle) =
    hub.bus.connections.opened + inHand .waiting held + closings hub.history
  underway : (closings hub.history : Multiset Handle) = inHand .leaving held + closeds hub.history
  taken : inHand .refused held = 0
  serials : ∀ handle ∈ made hub.history, handle.serial < hub.bus.handlesMade
  once : (made hub.history).Nodup
  single : hub.bus.connections.keys.Nodup
  alternate : ∀ key, Alternating (turns key hub.history)
  present : ∀ key, (turns key hub.history).head? = some .stored ↔ key ∈ hub.bus.connections.keys

variable {ε ν κ α : Type} {hub hub' : Hub ε ν κ} {host : Host ε ν κ}

namespace Balanced

theorem still (hb : Balanced hub held) (accounted : Accounted hub' (duties held'))
    (opened : hub'.bus.connections.opened = hub.bus.connections.opened)
    (handlesMade : hub'.bus.handlesMade = hub.bus.handlesMade)
    (made_eq : made hub'.history = made hub.history)
    (closings_eq : closings hub'.history = closings hub.history)
    (closeds_eq : closeds hub'.history = closeds hub.history)
    (turns_eq : ∀ key, turns key hub'.history = turns key hub.history)
    (hands : ∀ stage, inHand stage held' = inHand stage held) : Balanced hub' held' := by
  have keys : hub'.bus.connections.keys = hub.bus.connections.keys := by
    rw [Connections.keys, opened, Connections.keys]
  refine ⟨accounted, ?_, ?_, ?_, ?_, ?_, ?_, ?_, ?_⟩
  · rw [made_eq, closings_eq, opened, hands]
    exact hb.places
  · rw [closings_eq, closeds_eq, hands]
    exact hb.underway
  · rw [hands]
    exact hb.taken
  · rw [made_eq, handlesMade]
    exact hb.serials
  · rw [made_eq]
    exact hb.once
  · rw [keys]
    exact hb.single
  · intro key
    rw [turns_eq]
    exact hb.alternate key
  · intro key
    rw [turns_eq, keys]
    exact hb.present key

theorem aside (hb : Balanced hub held) (h : Aside hub hub') : Balanced hub' held := by
  obtain ⟨entries, he, hc⟩ := h.history
  refine hb.still (hb.accounted.aside h) (by rw [h.connections]) h.handlesMade ?_ ?_ ?_
    (fun key => ?_) fun _ => rfl
  · rw [he, made_aside hc]
  · rw [he, closings_aside hc]
  · rw [he, closeds_aside hc]
  · rw [he, turns_aside hc]

theorem claim (hb : Balanced hub held)
    (h : hub.bus.connections.reserve key = some connections) :
    Balanced ((hub.withConnections connections).record (.openStarted key))
      ({.connect key} + held) := by
  have accounted := hb.accounted.claim h
  obtain ⟨-, -, rfl⟩ := Connections.reserve_eq_some_iff.mp h
  refine hb.still ?_ rfl rfl rfl rfl rfl (fun _ => rfl) fun stage => ?_
  · rw [duties_add]
    exact accounted
  · rw [inHand_add, inHand_connect, zero_add]

theorem accounted_connect (hb : Balanced hub ({.connect key} + rest)) :
    Accounted hub ({.connect key} + duties rest) := by
  have := hb.accounted
  rwa [duties_add] at this

theorem abandon (hb : Balanced hub ({.connect key} + rest)) :
    Balanced (Bus.abandon key refusal hub) rest := by
  refine hb.still hb.accounted_connect.abandon rfl rfl rfl rfl rfl (fun _ => rfl) fun stage => ?_
  rw [inHand_add, inHand_connect, zero_add]

theorem store (hb : Balanced hub ({.connect key} + rest)) :
    Balanced (Bus.store (Bus.mint key hub).1 (Bus.mint key hub).2).2 rest := by
  -- The key was claimed, so no connection of it is in the table and nothing is given back.
  have hk := hb.accounted_connect.not_mem_keys
  have accounted := hb.accounted_connect.store
  have places := hb.places
  have underway := hb.underway
  have taken := hb.taken
  rw [inHand_add, inHand_connect, zero_add] at places underway taken
  rw [Bus.store_mint hk] at accounted ⊢
  have hs := Connections.store_eq_none (h := (Bus.mint key hub).1) hk
  have hp := Connections.insertSorted_perm (Bus.mint key hub).1 hub.bus.connections.opened
  have fresh : (Bus.mint key hub).1 ∉ made hub.history :=
    fun hm => Nat.lt_irrefl _ (hb.serials _ hm)
  rw [hs] at accounted ⊢
  refine ⟨accounted, ?_, underway, taken, ?_, hb.once.cons fresh, ?_, ?_, ?_⟩
  · change ((_ :: made hub.history : List Handle) : Multiset Handle) =
      ↑(Connections.insertSorted _ _) + _ + _
    rw [Multiset.coe_eq_coe.mpr hp, ← Multiset.cons_coe, ← Multiset.cons_coe, places]
    simp only [Multiset.cons_add]
    rfl
  · intro handle hm
    rcases List.mem_cons.mp hm with rfl | hm
    · exact Nat.lt_succ_self _
    · exact Nat.lt_succ_of_lt (hb.serials handle hm)
  · exact ((hp.map Handle.key).nodup_iff).mpr (hb.single.cons hk)
  · intro k
    by_cases he : key = k
    · subst he
      have := (hb.alternate key).cons_stored (mt (hb.present key).mp hk)
      simpa [turns, Entry.turns, Bus.mint] using this
    · simpa [turns, Entry.turns, Bus.mint, he] using hb.alternate k
  · intro k
    have hm : k ∈ (Connections.insertSorted (Bus.mint key hub).1 hub.bus.connections.opened).map Handle.key ↔
        k = key ∨ k ∈ hub.bus.connections.keys := (hp.map Handle.key).mem_iff.trans List.mem_cons
    refine Iff.trans ?_ hm.symm
    by_cases he : key = k
    · subst he
      simp [turns, Entry.turns, Bus.mint]
    · have := hb.present k
      simpa [turns, Entry.turns, Bus.mint, he, Ne.symm he] using this

theorem withdraw (hb : Balanced hub held)
    (h : hub.bus.connections.takeMatching template = (handles, connections)) :
    Balanced ((hub.withConnections connections).record (.withdrawn handles))
      (handles.map (Errand.part .waiting) + held) := by
  have accounted := hb.accounted.withdraw h
  have hp := hub.bus.connections.takeMatching_perm template
  have taken : ∀ key, _ := fun key => @Connections.mem_keys_taken key hub.bus.connections template
  have left : ∀ key, _ :=
    fun key => @Connections.mem_keys_takeMatching key hub.bus.connections template
  rw [h] at hp taken left
  dsimp only at hp taken left
  have single : ((handles ++ connections.opened).map Handle.key).Nodup :=
    ((hp.map Handle.key).nodup_iff).mpr hb.single
  rw [List.map_append] at single
  have cases_key := Connections.filter_key single.of_append_left
  have history : ∀ key, turns key ((hub.withConnections connections).record
      (.withdrawn handles)).history =
        ((handles.filter (·.key = key)).map fun _ => .taken) ++ turns key hub.history :=
    fun _ => rfl
  refine ⟨?_, ?_, ?_, ?_, hb.serials, hb.once, single.of_append_right, ?_, ?_⟩
  · rw [duties_add, duties_waiting]
    exact accounted
  · rw [inHand_add, inHand_map_part, if_pos rfl]
    change (made hub.history : Multiset Handle) = _
    rw [hb.places, ← Multiset.coe_eq_coe.mpr hp, ← Multiset.coe_add]
    change _ = (connections.opened : Multiset Handle) + (↑handles + inHand .waiting held) +
      ↑(closings hub.history)
    ac_rfl
  · rw [inHand_add, inHand_map_part, if_neg (by simp), zero_add]
    exact hb.underway
  · rw [inHand_add, inHand_map_part, if_neg (by simp), zero_add]
    exact hb.taken
  · intro key
    rw [history]
    rcases cases_key key with ⟨-, he⟩ | ⟨hk, handle, he⟩
    · rw [he]
      exact hb.alternate key
    · rw [he]
      exact (hb.alternate key).cons_taken ((hb.present key).mpr ((taken key).mp hk).1)
  · intro key
    change _ ↔ key ∈ connections.keys
    rw [history, left key]
    rcases cases_key key with ⟨hk, he⟩ | ⟨hk, handle, he⟩
    · have hn : key ∈ hub.bus.connections.keys → template.test key = false :=
        fun hm => Bool.eq_false_iff.mpr fun ht => hk ((taken key).mpr ⟨hm, ht⟩)
      rw [he]
      exact (hb.present key).trans ⟨fun hm => ⟨hm, hn hm⟩, And.left⟩
    · have ht := ((taken key).mp hk).2
      simp [he, ht]

theorem closing (hb : Balanced hub ({.part .waiting handle} + rest)) :
    Balanced (hub.record (.closing handle)) ({.part .leaving handle} + rest) := by
  obtain ⟨accounted, places, underway, taken, serials, once, single, alternate, present⟩ := hb
  rw [inHand_add, inHand_part] at places underway taken
  simp only [if_true, reduceCtorEq, if_false, zero_add] at places underway taken
  refine ⟨?_, ?_, ?_, ?_, serials, once, single, alternate, present⟩
  · rw [duties_add] at accounted
    have free : Accounted (hub.record (.closing handle)) (duties rest) :=
      accounted.unclaimed (claimed_disconnect _) rfl rfl
    rw [duties_add]
    rwa [← zero_add (duties rest)] at free
  · rw [inHand_add, inHand_part, if_neg (by simp), zero_add]
    change (made hub.history : Multiset Handle) = _ + _ + ↑(handle :: closings hub.history)
    rw [places, ← Multiset.cons_coe, ← Multiset.singleton_add]
    ac_rfl
  · rw [inHand_add, inHand_part, if_pos rfl]
    change ((handle :: closings hub.history : List Handle) : Multiset Handle) =
      _ + ↑(closeds hub.history)
    rw [← Multiset.cons_coe, underway, ← Multiset.singleton_add, add_assoc]
  · rw [inHand_add, inHand_part, if_neg (by simp), zero_add]
    exact taken

theorem closed (hb : Balanced hub ({.part .leaving handle} + rest)) :
    Balanced (hub.record (.closed template handle)) rest := by
  obtain ⟨accounted, places, underway, taken, serials, once, single, alternate, present⟩ := hb
  rw [inHand_add, inHand_part] at places underway taken
  simp only [if_true, reduceCtorEq, if_false, zero_add] at places underway taken
  refine ⟨?_, places, ?_, taken, serials, once, single, alternate, present⟩
  · rw [duties_add] at accounted
    exact accounted.unclaimed rfl rfl rfl
  · change (closings hub.history : Multiset Handle) = _ + ↑(handle :: closeds hub.history)
    rw [underway, ← Multiset.cons_coe, ← Multiset.singleton_add, add_left_comm, add_assoc]

/-- Every step of one task leaves the account balanced, whatever the others have in hand. -/
theorem deals (hb : Balanced hub held) (h : Deals Handling hub hub' held held') :
    Balanced hub' held' := by
  obtain ⟨taken, given, rest, rfl, rfl, hd⟩ := h
  cases hd with
  | deed h => exact hb.aside h.aside
  | claim h => rw [zero_add] at hb; exact hb.claim h
  | store => rw [zero_add]; exact hb.store
  | giveBack h =>
    -- The key is claimed, so it is not open and nothing is given back.
    rw [Bus.store_mint hb.accounted_connect.not_mem_keys] at h
    cases h
  | abandon => rw [zero_add]; exact hb.abandon
  | withdraw h => rw [zero_add] at hb; exact hb.withdraw h
  | closing => exact hb.closing
  | closed => rw [zero_add]; exact hb.closed
  | discard =>
    have := hb.taken
    rw [inHand_add, inHand_part, if_pos rfl, Multiset.singleton_add] at this
    exact absurd this (Multiset.cons_ne_zero)

theorem at_rest (hb : Balanced hub 0) :
    (made hub.history).Perm (hub.bus.connections.opened ++ closings hub.history) ∧
      (closings hub.history).Perm (closeds hub.history) := by
  have places := hb.places
  have underway := hb.underway
  rw [inHand_zero, add_zero, Multiset.coe_add] at places
  rw [inHand_zero, zero_add] at underway
  exact ⟨Multiset.coe_eq_coe.mp places, Multiset.coe_eq_coe.mp underway⟩

/-- With nothing in hand, what was made and not closed is what the table has. -/
theorem settled (hb : Balanced hub 0) (key : String) :
    ((made hub.history).map Handle.key).count key =
      ((closeds hub.history).map Handle.key).count key +
        if key ∈ hub.bus.connections.keys then 1 else 0 := by
  obtain ⟨places, underway⟩ := hb.at_rest
  rw [((places.trans (underway.append_left _)).map Handle.key).count_eq, List.map_append,
    List.count_append, add_comm]
  exact congrArg _ (hb.single.count)

/-- With nothing in hand, what was made and is not in the table was closed exactly once. -/
theorem closed_once (hb : Balanced hub 0) (hm : handle ∈ made hub.history)
    (hn : handle ∉ hub.bus.connections.opened) :
    (closings hub.history).count handle = 1 ∧ (closeds hub.history).count handle = 1 := by
  obtain ⟨places, underway⟩ := hb.at_rest
  have once := List.count_eq_one_of_mem hb.once hm
  rw [places.count_eq, List.count_append, List.count_eq_zero.mpr hn, zero_add] at once
  exact ⟨once, by rw [← underway.count_eq, once]⟩

end Balanced

structure Unconnected (hub : Hub ε ν κ) : Prop where
  connections : hub.bus.connections = .empty
  history : ∀ entry ∈ hub.history, entry.ofConnection = false

theorem unconnected_new (name location : String) (state : ε) :
    Unconnected (Hub.new name location state : Hub ε ν κ) :=
  ⟨rfl, by simp [Hub.new, Entry.ofConnection, Event.ofConnection]⟩

theorem Unconnected.idle (start : Unconnected hub) : Idle hub := by
  obtain ⟨hc, hh⟩ := start
  have nothing : hub.history = hub.history ++ [] := (List.append_nil _).symm
  exact ⟨by rw [hc]; rfl, by rw [nothing, inFlight_aside hh]; rfl⟩

theorem Unconnected.balanced (start : Unconnected hub) : Balanced hub 0 := by
  have idle := start.idle
  obtain ⟨hc, hh⟩ := start
  have nothing : hub.history = hub.history ++ [] := (List.append_nil _).symm
  have made_eq : made hub.history = [] := by rw [nothing, made_aside hh]; rfl
  have closings_eq : closings hub.history = [] := by rw [nothing, closings_aside hh]; rfl
  have closeds_eq : closeds hub.history = [] := by rw [nothing, closeds_aside hh]; rfl
  have turns_eq : ∀ key, turns key hub.history = [] := by
    intro key
    rw [nothing, turns_aside hh]
    rfl
  have alternating : Alternating [] := ⟨.nil, by simp⟩
  refine ⟨idle.accounted, ?_, ?_, rfl, ?_, ?_, ?_, ?_, ?_⟩
  · rw [made_eq, closings_eq, hc]
    rfl
  · rw [closings_eq, closeds_eq]
    rfl
  · simp [made_eq]
  · simp [made_eq]
  · simp [hc, Connections.keys, Connections.empty]
  · intro key
    rw [turns_eq]
    exact alternating
  · intro key
    simp [turns_eq, hc, Connections.keys, Connections.empty]

theorem Unconnected.balanced_of_reaches {tasks tasks' : List (Task (Hub ε ν κ) α)}
    (start : Unconnected hub) (clients : ∀ t ∈ tasks, Client t) (h : Reaches tasks hub tasks' hub') :
    ∃ shares, List.Forall₂ (Settles Handling) shares tasks' ∧ Balanced hub' shares.sum := by
  have none_held : List.Forall₂ (Settles Handling) (tasks.map fun _ => 0) tasks := by
    rw [List.forall₂_map_left_iff, List.forall₂_same]
    exact fun t ht => (clients t ht).errands
  exact h.settles (fun hd hb => Balanced.deals hb hd) none_held (by simpa using start.balanced)

theorem Unconnected.balanced_of_calls (start : Unconnected hub) (lawful : host.Lawful)
    (calls : List Call) {tasks : List (Task (Hub ε ν κ) Call.Result)}
    (h : Reaches (calls.map (Call.task host)) hub tasks hub') :
    ∃ shares, List.Forall₂ (Settles Handling) shares tasks ∧ Balanced hub' shares.sum :=
  start.balanced_of_reaches (Call.clients lawful calls) h

end RouteBus
