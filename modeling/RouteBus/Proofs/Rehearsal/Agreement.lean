import Mathlib
import RouteBus.Proofs.Bus.Ledger
import RouteBus.Proofs.Rehearsal.Patrons
import RouteBus.Proofs.Task.Upkeep

/-!
# Bus and wire agree

The wire has a live connection on each key that is open, and on those claimed keys whose connect
has got to the wire. A close takes keys out of the table before it takes them off the wire, so
nothing may come between; everything else may go on in any order.
-/

namespace RouteBus.Rehearsal

open RouteBus.Task (Trace Undisturbed Upkeep Restores Clears Upholds)

-- ---------------------------------------------------------------------------
-- What is kept up
-- ---------------------------------------------------------------------------

inductive Leg where
  | asking (key : String)
  | linked (key : String)
  deriving DecidableEq

def Leg.duty : Leg → Duty
  | .asking key | .linked key => .connect key

/-- A close has taken connections out of the table that it has not disconnected yet. -/
def Closing (hub : Staging) : Prop :=
  (withdrawals hub.history).length ≠ (closeds hub.history).length

def connected (key : String) (hub : Staging) : Nat := ((made hub.history).map Handle.key).count key

/-- Bus and wire while `leaving` is what a close has still to disconnect. -/
structure Level (leaving : List Handle) (hub : Staging) (held : Multiset Leg) : Prop where
  accounted : Accounted hub (held.map Leg.duty)
  live : ∀ key, key ∈ hub.host.wire.live ↔ key ∈ hub.bus.connections.keys ∨
    Leg.linked key ∈ held ∨ key ∈ leaving.map Handle.key
  apart : ∀ key ∈ leaving.map Handle.key, key ∉ hub.bus.connections.keys ∧ Leg.linked key ∉ held
  once : (leaving.map Handle.key).Nodup
  connects : ∀ key, hub.host.wire.connects.count key = connected key hub + held.count (.linked key)
  wire : hub.host.wire.live.Pairwise (· < ·)
  table : hub.bus.connections.keys.Pairwise (· < ·)
  closes : (withdrawals hub.history).length = (closeds hub.history).length + leaving.length

def upkeep : Upkeep Staging Leg := ⟨Level [], Closing⟩

variable {hub hub' : Staging} {host : Host Scene Note Device} {key : String}
  {leaving : List Handle} {held extra : Multiset Leg}

-- ---------------------------------------------------------------------------
-- The order on the wire
-- ---------------------------------------------------------------------------

theorem mem_insertUri {uris : List String} : x ∈ Wire.insertUri key uris ↔ x = key ∨ x ∈ uris := by
  induction uris with
  | nil => simp [Wire.insertUri]
  | cons y ys ih =>
    unfold Wire.insertUri
    split
    · rename_i he
      subst he
      simp
    · split
      · exact List.mem_cons
      · rw [List.mem_cons, ih, List.mem_cons]
        exact or_left_comm

theorem pairwise_insertUri {uris : List String} (h : uris.Pairwise (· < ·)) :
    (Wire.insertUri key uris).Pairwise (· < ·) := by
  induction uris with
  | nil => exact .cons (by simp) .nil
  | cons y ys ih =>
    obtain ⟨hy, hys⟩ := List.pairwise_cons.mp h
    unfold Wire.insertUri
    split
    · exact h
    · rename_i hne
      split
      · rename_i hlt
        refine .cons (fun x hx => ?_) h
        rcases List.mem_cons.mp hx with rfl | hx
        · exact hlt
        · exact hlt.trans (hy x hx)
      · rename_i hlt
        refine .cons (fun x hx => ?_) (ih hys)
        rcases mem_insertUri.mp hx with rfl | hx
        · exact lt_of_le_of_ne (not_lt.mp hlt) (Ne.symm hne)
        · exact hy x hx

-- ---------------------------------------------------------------------------
-- Steps
-- ---------------------------------------------------------------------------

theorem linked_mem_asking : Leg.linked x ∈ {.asking key} + held ↔ Leg.linked x ∈ held := by
  simp

theorem linked_mem_linked :
    Leg.linked x ∈ {.linked key} + held ↔ x = key ∨ Leg.linked x ∈ held := by
  simp

theorem count_asking : ({.asking key} + held).count (.linked x) = held.count (.linked x) := by
  rw [Multiset.count_add, Multiset.count_singleton, if_neg (by simp), zero_add]

theorem count_linked : ({.linked key} + held).count (.linked x) =
    (if x = key then 1 else 0) + held.count (.linked x) := by
  rw [Multiset.count_add, Multiset.count_singleton]
  simp

theorem count_key (x key : String) (xs : List String) :
    (key :: xs).count x = (if x = key then 1 else 0) + xs.count x := by
  rw [List.count_cons, Nat.add_comm]
  by_cases h : x = key
  · simp [h]
  · simp [h, Ne.symm h]

namespace Level

theorem gentle (hl : Level leaving hub held) (h : Gentle hub hub') : Level leaving hub' held := by
  obtain ⟨accounted, live, apart, once, connects, wire, table, closes⟩ := hl
  obtain ⟨entries, he, hc⟩ := h.history
  refine ⟨accounted.aside h.toAside, ?_, ?_, once, ?_, ?_, ?_, ?_⟩
  · rw [h.live, h.connections]
    exact live
  · rw [h.connections]
    exact apart
  · intro key
    rw [h.connects, connects, connected, connected, he, made_aside hc]
  · rw [h.live]
    exact wire
  · rw [h.connections]
    exact table
  · rw [he, withdrawals_aside hc, closeds_aside hc]
    exact closes

theorem claim (hl : Level [] hub held) (h : hub.bus.connections.reserve key = some connections) :
    Level [] ((hub.withConnections connections).record (.openStarted key))
      ({.asking key} + held) := by
  have accounted := hl.accounted.claim h
  obtain ⟨-, -, rfl⟩ := Connections.reserve_eq_some_iff.mp h
  refine ⟨?_, fun x => ?_, by simp, .nil, fun x => ?_, hl.wire, hl.table, hl.closes⟩
  · rw [Multiset.map_add]
    exact accounted
  · rw [linked_mem_asking]
    exact hl.live x
  · rw [count_asking]
    exact hl.connects x

theorem link (hl : Level [] hub ({.asking key} + held)) (h : key ∉ hub.host.wire.refused) :
    Level [] (useWire (Wire.connect key) hub).2 ({.linked key} + held) := by
  have linked : (useWire (Wire.connect key) hub).2.host.wire = { hub.host.wire with
      connects := hub.host.wire.connects ++ [key]
      live := Wire.insertUri key hub.host.wire.live } := by
    simp [useWire, Wire.connect, h]
  refine ⟨?_, fun x => ?_, by simp, .nil, fun x => ?_, ?_, hl.table, hl.closes⟩
  · have accounted := hl.accounted
    rw [Multiset.map_add] at accounted ⊢
    exact accounted.aside (.of_history rfl rfl rfl)
  · rw [linked, mem_insertUri, hl.live, linked_mem_asking, linked_mem_linked]
    rw [or_left_comm, or_assoc]
    rfl
  · have connects := hl.connects x
    rw [count_asking] at connects
    rw [linked, List.count_append, connects, count_linked, count_key, List.count_nil, Nat.add_assoc,
      Nat.add_zero, Nat.add_comm (if x = key then 1 else 0)]
    rfl
  · rw [linked]
    exact pairwise_insertUri hl.wire

theorem abandon (hl : Level [] hub ({.asking key} + held)) :
    Level [] (Bus.abandon key refusal hub) held := by
  have accounted := hl.accounted
  rw [Multiset.map_add] at accounted
  refine ⟨accounted.abandon, fun x => ?_, by simp, .nil, fun x => ?_, hl.wire, hl.table, hl.closes⟩
  · have live := hl.live x
    rw [linked_mem_asking] at live
    exact live
  · have connects := hl.connects x
    rw [count_asking] at connects
    exact connects

theorem not_mem_keys (hl : Level [] hub ({.linked key} + held)) :
    key ∉ hub.bus.connections.keys := by
  have accounted := hl.accounted
  rw [Multiset.map_add] at accounted
  exact accounted.not_mem_keys

theorem store (hl : Level [] hub ({.linked key} + held)) :
    Level [] (Bus.store (Bus.mint key hub).1 (Bus.mint key hub).2).2 held := by
  have accounted := hl.accounted
  rw [Multiset.map_add] at accounted
  have stored := accounted.store
  have hk := hl.not_mem_keys
  rw [Bus.store_mint hk] at stored ⊢
  refine ⟨stored, fun x => ?_, by simp, .nil, fun x => ?_, hl.wire, ?_, hl.closes⟩
  · have live := hl.live x
    rw [linked_mem_linked] at live
    change x ∈ hub.host.wire.live ↔ x ∈ (hub.bus.connections.store _).1.keys ∨ _
    rw [Connections.mem_keys_store (h := (Bus.mint key hub).1) hk, live, or_assoc, or_assoc]
    exact or_left_comm
  · have connects := hl.connects x
    rw [count_linked] at connects
    change hub.host.wire.connects.count x =
      ((key :: (made hub.history).map Handle.key).count x) + held.count (.linked x)
    rw [connects, count_key, Nat.add_left_comm, Nat.add_assoc]
    rfl
  · change (hub.bus.connections.store _).1.keys.Pairwise _
    rw [Connections.store_eq_none (h := (Bus.mint key hub).1) hk]
    exact Connections.pairwise_insertSorted hk hl.table

theorem pending (hl : Level leaving hub held) (h : Leg.linked key ∈ held) :
    key ∈ hub.bus.connections.pending := by
  rw [← Multiset.mem_coe, ← hl.accounted.claims, claimed, Multiset.mem_filterMap]
  exact ⟨.connect key, Multiset.mem_map.mpr ⟨_, h, rfl⟩, rfl⟩

theorem keys_nodup (hl : Level leaving hub held) : hub.bus.connections.keys.Nodup :=
  hl.table.imp fun h => h.ne

theorem withdraw (hl : Level [] hub held)
    (h : hub.bus.connections.takeMatching template = (handles, connections)) :
    Level handles ((hub.withConnections connections).record (.withdrawn handles)) held := by
  have accounted := (hl.accounted.withdraw h).unclaimed (claimed_withdrawn handles) rfl rfl
  cases h
  have taken : ∀ x, x ∈ (hub.bus.connections.takeMatching template).1.map Handle.key ↔
      x ∈ hub.bus.connections.keys ∧ template.test x = true := fun x => Connections.mem_keys_taken
  have left : ∀ x, x ∈ (hub.bus.connections.takeMatching template).2.keys ↔
      x ∈ hub.bus.connections.keys ∧ template.test x = false :=
    fun x => Connections.mem_keys_takeMatching
  refine ⟨accounted, fun x => ?_, fun x hx => ⟨fun hm => ?_, fun hm => ?_⟩, ?_, hl.connects, hl.wire,
    ?_, ?_⟩
  · change x ∈ hub.host.wire.live ↔ x ∈ (hub.bus.connections.takeMatching template).2.keys ∨
      Leg.linked x ∈ held ∨ x ∈ (hub.bus.connections.takeMatching template).1.map Handle.key
    rw [hl.live x, left x, taken x]
    cases template.test x <;> simp [or_comm]
  · have yes := ((taken x).mp hx).2
    rw [((left x).mp hm).2] at yes
    cases yes
  · exact hl.accounted.apart x (hl.pending hm) ((taken x).mp hx).1
  · exact (List.filter_sublist.map Handle.key).nodup hl.keys_nodup
  · exact hl.table.sublist (List.filter_sublist.map Handle.key)
  · change ((hub.bus.connections.takeMatching template).1 ++ withdrawals hub.history).length = _
    rw [List.length_append, hl.closes]
    exact Nat.add_comm ..

/-- A connection that a close has in hand is disconnected. -/
theorem disconnect (hl : Level (handle :: leaving) hub held) :
    Level leaving ((useWire (fun wire => ((), wire.disconnect handle.key))
      ((hub.record (.closing handle)).note (.disconnecting handle.key))).2.record
        (.closed template handle)) held := by
  obtain ⟨hne, once⟩ := List.nodup_cons.mp hl.once
  refine ⟨?_, fun x => ?_, fun x hx => hl.apart x (List.mem_cons_of_mem _ hx), once, hl.connects, ?_,
    hl.table, ?_⟩
  · have accounted := hl.accounted
    rw [← zero_add (held.map Leg.duty)] at accounted
    exact accounted.unclaimed claimed_zero rfl rfl
  · change x ∈ hub.host.wire.live.filter _ ↔ x ∈ hub.bus.connections.keys ∨ _
    have apart := hl.apart handle.key List.mem_cons_self
    rw [List.mem_filter, hl.live x, List.map_cons, List.mem_cons]
    by_cases he : x = handle.key
    · subst he
      simp [apart, hne]
    · simp [he]
  · exact hl.wire.sublist List.filter_sublist
  · have closes := hl.closes
    change (withdrawals hub.history).length = ((handle :: closeds hub.history).length + _)
    rw [closes, List.length_cons, List.length_cons]
    omega

theorem closing (hl : Level (handle :: leaving) hub held) : Closing hub := by
  have closes := hl.closes
  rw [List.length_cons] at closes
  unfold Closing
  omega

end Level

-- ---------------------------------------------------------------------------
-- Opens and closes
-- ---------------------------------------------------------------------------

theorem restores_leaving {effect : Staging → Staging} {next : Staging → Task Staging α}
    {after : α → Multiset Leg} (hl : Level leaving (effect hub) extra)
    (hn : ∀ hub' others, Level leaving hub' others → Restores upkeep after (next hub) hub' others) :
    Restores upkeep after (.act effect next) hub extra := by
  cases leaving with
  | nil =>
    refine .inr ⟨0, by rwa [zero_add], fun hub' others h => hn hub' others ?_⟩
    rwa [zero_add] at h
  | cons handle leaving => exact .inl ⟨hl.closing, hn _ _ hl⟩

theorem restores_disconnectAll (hd : ∀ handle, host.disconnect handle = unlink handle.key)
    (value : α) (hl : Level leaving hub extra) :
    Restores upkeep (fun _ => 0) (do
      Bus.disconnectAll host template leaving
      return value) hub extra := by
  induction leaving generalizing hub extra with
  | nil =>
    change Level [] hub (0 + extra)
    rwa [zero_add]
  | cons handle leaving ih =>
    unfold Bus.disconnectAll Bus.disconnect
    rw [hd]
    have closing := hl.closing
    refine .inl ⟨closing, .inl ⟨closing, .inl ⟨closing, ?_⟩⟩⟩
    exact restores_leaving hl.disconnect fun hub' others h => ih h

theorem clears_closeTarget (hd : ∀ handle, host.disconnect handle = unlink handle.key)
    (template : Template) (target : Target) :
    Clears upkeep 0 (Bus.closeTarget host template target) := by
  intro hub extra hl
  rw [zero_add] at hl
  have taken : Level (Bus.withdraw template target hub).1 (Bus.withdraw template target hub).2 extra := by
    unfold Bus.withdraw
    split
    · exact hl.gentle (gentle_record (.closeSkipped ..) rfl)
    · exact hl.withdraw rfl
  exact restores_leaving taken fun hub' others h => restores_disconnectAll hd _ h

def Leg.begun (key : String) : Bool → Multiset Leg
  | true => {.asking key}
  | false => 0

def Leg.answered (key : String) : Except TransportFailure Unit → Multiset Leg
  | .error _ => {.asking key}
  | .ok () => {.linked key}

theorem upholds_claim (key : String) :
    Upholds upkeep 0 (Leg.begun key) (Task.atomically (Bus.claim key)) := by
  refine Task.upholds_atomically fun hub extra hl => ?_
  unfold Bus.claim
  split
  · exact Level.gentle hl (gentle_record (.openSkipped key) rfl)
  · split
    · exact Level.gentle hl (gentle_record (.openSkipped key) rfl)
    · rw [zero_add] at hl
      exact Level.claim hl ‹_›

theorem upholds_useWire (key : String) : Upholds upkeep {.asking key} (Leg.answered key)
    (Task.atomically (useWire (Wire.connect key))) := by
  refine Task.upholds_atomically fun hub extra hl => ?_
  by_cases h : key ∈ hub.host.wire.refused
  · have refused : (useWire (Wire.connect key) hub).1 = .error ⟨key, "connection refused"⟩ := by
      simp [useWire, Wire.connect, h]
    rw [refused]
    refine Level.gentle hl ⟨.of_history rfl rfl rfl, ?_, ?_⟩ <;> simp [useWire, Wire.connect, h]
  · have linked : (useWire (Wire.connect key) hub).1 = .ok () := by
      simp [useWire, Wire.connect, h]
    rw [linked]
    exact Level.link hl h

theorem upholds_link {before after : Task Staging Unit} (hb : Clears upkeep 0 before)
    (ha : Clears upkeep 0 after) (key : String) :
    Upholds upkeep {.asking key} (Leg.answered key) (link before key after) := by
  have asking := Task.upholds_frame hb {Leg.asking key}
  have linked := Task.upholds_frame ha {Leg.linked key}
  rw [zero_add] at asking linked
  refine Task.upholds_bind asking fun _ => Task.upholds_bind (upholds_useWire key) fun answer => ?_
  cases answer with
  | error refusal => exact Task.upholds_done _ (Leg.answered key)
  | ok =>
    rw [map_eq_pure_bind]
    exact Task.upholds_bind linked fun _ => Task.upholds_done (.ok ()) (Leg.answered key)

theorem clears_openTarget {before after : Task Staging Unit}
    (hc : host.connect key (Bus.receiveChunk host key) = link before key after)
    (hb : Clears upkeep 0 before) (ha : Clears upkeep 0 after) :
    Clears upkeep 0 (Bus.openTarget host key) := by
  refine Task.upholds_bind (upholds_claim key) fun claimed => ?_
  cases claimed with
  | false => exact Task.upholds_done _ fun _ => 0
  | true =>
    rw [hc]
    refine Task.upholds_bind (upholds_link hb ha key) fun answer => ?_
    cases answer with
    | error refusal =>
      refine Task.upholds_bind (Task.upholds_modify fun hub extra hl => ?_) fun _ =>
        Task.upholds_done _ fun _ => 0
      rw [zero_add]
      exact Level.abandon hl
    | ok =>
      -- The key was claimed, so it is not open and the table takes the connection.
      intro hub extra hl
      have taken : (Bus.store (Bus.mint key hub).1 (Bus.mint key hub).2).1 = none := by
        rw [Bus.store_mint (Level.not_mem_keys hl)]
      refine .inr ⟨0, ?_, fun hub' others h => ?_⟩
      · rw [zero_add]
        exact Level.store hl
      · simp only [taken]
        exact h

theorem Patron.clears {t : Task Staging α} (h : Patron t) : Clears upkeep 0 t := by
  induction h with
  | done value => exact Task.upholds_done value fun _ => 0
  | act hg _ ih =>
    refine Task.upholds_act (fun _ => 0) (fun hub extra hl => ?_) ih
    exact hl.gentle (hg hub)
  | yield _ ih => exact Task.upholds_yield.mpr ih
  | bind _ _ ht hk => exact Task.upholds_bind ht hk
  | both _ _ ht hu => exact Task.clears_both ht hu
  | alternate _ _ ht hu => exact Task.clears_alternate ht hu
  | opening host key hc _ _ hb ha => exact clears_openTarget hc hb ha
  | closing host template target hd => exact clears_closeTarget hd template target

-- ---------------------------------------------------------------------------
-- Agreement
-- ---------------------------------------------------------------------------

/-- A connect to the key has succeeded on the wire, and the bus has still to make its connection. -/
def arrived (hub : Staging) (key : String) : Bool :=
  connected key hub < hub.host.wire.connects.count key

/-- The wire has a live connection on the keys that are open, and on those in flight whose
connect has succeeded already. -/
structure Agreement (hub : Staging) : Prop where
  wire : hub.host.wire.live.Pairwise (· < ·)
  table : hub.bus.connections.keys.Pairwise (· < ·)
  flights : (inFlight hub.history).Perm hub.bus.connections.pending
  live : hub.host.wire.live.Perm
    (hub.bus.connections.keys ++ hub.bus.connections.pending.filter (arrived hub))
  landed : inFlight hub.history = [] → hub.host.wire.live = hub.bus.connections.keys
  finds : ∀ (host : Host Scene Note Device) uri data,
    ((performStep host (.push uri data)).run hub).1 = .flag (decide
      (uri ∈ hub.bus.connections.keys ∨
        uri ∈ hub.bus.connections.pending ∧ arrived hub uri = true))

theorem run_push (host : Host Scene Note Device) (uri data : String) (hub : Staging) :
    ((performStep host (.push uri data)).run hub).1 = .flag (decide (uri ∈ hub.host.wire.live)) := by
  rw [performStep, readScene, Task.run_bind]
  change ((if decide (uri ∈ hub.host.wire.live) then _ else _ : Task Staging Reply).run hub).1 = _
  split
  · rename_i h
    rw [Task.run_bind, h]
    rfl
  · rename_i h
    rw [Bool.not_eq_true] at h
    rw [h]
    rfl

theorem Level.arrived_iff (hl : Level leaving hub held) :
    arrived hub key = true ↔ Leg.linked key ∈ held := by
  rw [arrived, decide_eq_true_iff, hl.connects, Nat.lt_add_right_iff_pos, Multiset.count_pos]

theorem Level.mem_live (hl : Level [] hub held) : key ∈ hub.host.wire.live ↔
    key ∈ hub.bus.connections.keys ∨ key ∈ hub.bus.connections.pending ∧ arrived hub key = true := by
  rw [hl.live, hl.arrived_iff, List.map_nil, and_iff_right_of_imp hl.pending]
  simp

theorem Level.agreement (hl : Level [] hub held) : Agreement hub := by
  have nodup : (hub.bus.connections.keys ++
      hub.bus.connections.pending.filter (arrived hub)).Nodup := by
    refine List.nodup_append.mpr ⟨hl.keys_nodup, hl.accounted.once.filter _, fun x hx y hy he => ?_⟩
    subst he
    exact hl.accounted.apart x (List.mem_of_mem_filter hy) hx
  have live : hub.host.wire.live.Perm
      (hub.bus.connections.keys ++ hub.bus.connections.pending.filter (arrived hub)) := by
    refine (List.perm_ext_iff_of_nodup (hl.wire.imp fun h => h.ne) nodup).mpr fun x => ?_
    rw [hl.mem_live, List.mem_append, List.mem_filter]
  refine ⟨hl.wire, hl.table, hl.accounted.started, live, fun none => ?_, fun host uri data => ?_⟩
  · have pending := hl.accounted.started
    rw [none, List.nil_perm] at pending
    rw [pending, List.filter_nil, List.append_nil] at live
    exact live.eq_of_pairwise (fun _ _ _ _ h h' => absurd h' h.asymm) hl.wire hl.table
  · rw [run_push]
    congr 2
    exact propext hl.mem_live

theorem level_start (start : Unconnected hub) (live : hub.host.wire.live = [])
    (connects : hub.host.wire.connects = []) : Level [] hub 0 := by
  have accounted := start.balanced.accounted
  obtain ⟨hc, hh⟩ := start
  have nothing : hub.history = hub.history ++ [] := (List.append_nil _).symm
  have made_eq : made hub.history = [] := by rw [nothing, made_aside hh]; rfl
  have closeds_eq : closeds hub.history = [] := by rw [nothing, closeds_aside hh]; rfl
  have withdrawals_eq : withdrawals hub.history = [] := by
    rw [nothing, withdrawals_aside hh]
    rfl
  refine ⟨accounted, fun key => ?_, by simp, .nil, fun key => ?_, ?_, ?_, ?_⟩
  · simp [live, hc, Connections.keys, Connections.empty]
  · simp [connects, connected, made_eq]
  · rw [live]
    exact .nil
  · rw [hc]
    exact .nil
  · rw [withdrawals_eq, closeds_eq]
    rfl

/-- Bus and wire agree whenever nothing has been taken out of the table that is not disconnected
yet: between turns, and between any two steps if nobody comes between a close and what it took. -/
theorem bus_and_wire_agree {tasks : List (Task Staging α)} (patrons : ∀ t ∈ tasks, Patron t)
    (start : Unconnected hub) (live : hub.host.wire.live = [])
    (connects : hub.host.wire.connects = []) :
    (∀ tasks' hub', Task.Turns tasks hub tasks' hub' → Agreement hub') ∧
    ∀ trace tasks' hub', Trace tasks hub trace tasks' hub' → Undisturbed Closing trace →
      ¬ Closing hub' → Agreement hub' := by
  have rest : Task.AtRest upkeep tasks hub := by
    refine ⟨fun _ => 0, fun k t hk => (patrons t (List.mem_of_getElem? hk)).clears, ?_⟩
    rw [Finset.sum_const_zero]
    exact level_start start live connects
  constructor
  · intro tasks' hub' h
    obtain ⟨shares, -, hl⟩ := h.upkeep rest
    exact Level.agreement hl
  · intro trace tasks' hub' h undisturbed idle
    obtain ⟨shares, -, hl⟩ := h.upkeep undisturbed (.inl rest) idle
    exact Level.agreement hl

def nesting : Task Staging Unit :=
  performAll (hostOfDepth 1) "main" [.connectYields 1, .eager "s/a" ["\x7b\"src\":\"a\"\x7d"],
    .subscribe "a" "l" .scripted [.openStream "s/b" []], .openStream "s/a" []]

def clearing : Task Staging Unit :=
  (Request.closeStreams "s/:x" []).task (hostOfDepth 1)

def firstConnect : Staging := (nesting.turn (.new "bus" "/" .new)).2

def nestedOpens : Staging :=
  ((nesting.turn (.new "bus" "/" .new)).1.turn (clearing.turn firstConnect).2).2

/-- Two opens are in flight, and the wire has the one that has succeeded on it. -/
theorem bus_and_wire_agree_nesting :
    nestedOpens.host.wire.live = ["s/a"] ∧ nestedOpens.bus.connections.keys = [] ∧
      nestedOpens.bus.connections.pending = ["s/b", "s/a"] ∧ Agreement nestedOpens := by
  have patrons : ∀ t ∈ [nesting, clearing], Patron t := by
    intro t ht
    have served := (hostOfDepth_prompt 1).served
    rcases List.mem_pair.mp ht with rfl | rfl
    · exact within_performAll served Scenic.gentle Service.gentle ..
    · exact Request.within served Service.gentle _ nofun
  have turns : Task.Turns [nesting, clearing] (.new "bus" "/" .new) _ nestedOpens :=
    .turn (i := 0) (.turn (i := 1) (.turn (i := 0) .refl rfl) rfl) rfl
  refine ⟨by cbv, by cbv, by cbv, ?_⟩
  exact (bus_and_wire_agree patrons (unconnected_new ..) rfl rfl).1 _ _ turns

end RouteBus.Rehearsal
