import RouteBus.Proofs.Bus.Sparing
import RouteBus.Proofs.Text.ByteOrder

/-!
# What a close does

A close in which nobody else opens or closes: whether it takes anything, what it takes, in which
order it disconnects that and what it leaves in the table.
-/

namespace RouteBus

open Connections (Covers)
open RouteBus.Task (Reaches Runs)

def dealings (history : List (Entry ν)) : List (Entry ν) := history.filter Entry.ofConnection

def parting (t : Template) (handle : Handle) : List (Entry ν) :=
  [.event (.closed t.raw handle), .event (.closing handle)]

/-- The keys are in ascending order, as those of an ordered map are. -/
def Connections.Ordered (c : Connections) : Prop := c.keys.Pairwise (· < ·)

def Connections.matched (c : Connections) (t : Template) : List Handle :=
  c.opened.filter (t.test ·.key)

/-- The target is fully resolved, and a key that is open or claimed is covered by it. -/
def StillWanted (target : Target) (c : Connections) : Prop :=
  target.complete = true ∧ ∃ key ∈ c.keys ++ c.pending, Covers target.uri key

def Hub.swept (t : Template) (hub : Hub ε ν κ) : Hub ε ν κ :=
  (hub.withConnections ⟨hub.bus.connections.opened.filter (!t.test ·.key),
    hub.bus.connections.pending⟩).record (.withdrawn (hub.bus.connections.matched t))

/-- The host disconnects the connections, each of them once and one after another. -/
inductive Parts (host : Host ε ν κ) (t : Template) : List Handle → Hub ε ν κ → Hub ε ν κ → Prop
  | nil {hub} : Parts host t [] hub hub
  | cons {handle handles hub left hub'} :
      Runs Aside (host.disconnect handle) (hub.record (.closing handle)) () left →
      Parts host t handles (left.record (.closed t.raw handle)) hub' →
      Parts host t (handle :: handles) hub hub'

/-- All that the template matches was closed, and nothing else. -/
structure Swept (host : Host ε ν κ) (t : Template) (hub hub' : Hub ε ν κ)
    (result : Except StreamError (List String)) : Prop where
  listed : result = .ok (hub.bus.connections.keys.filter t.test)
  ascending : ((hub.bus.connections.keys.filter t.test).map Text.bytes).Pairwise (· < ·)
  parts : Parts host t (hub.bus.connections.matched t) (hub.swept t) hub'
  parted : dealings hub'.history =
    (hub.bus.connections.matched t).reverse.flatMap (parting t) ++
      .event (.withdrawn (hub.bus.connections.matched t)) :: dealings hub.history
  once : ∀ handle ∈ hub.bus.connections.matched t,
    (closings hub'.history).count handle = (closings hub.history).count handle + 1
  left : hub'.bus.connections =
    ⟨hub.bus.connections.opened.filter (!t.test ·.key), hub.bus.connections.pending⟩

structure Unmoved (hub hub' : Hub ε ν κ) (result : Except StreamError (List String)) : Prop where
  listed : result = .ok []
  connections : hub'.bus.connections = hub.bus.connections
  closings : closings hub'.history = closings hub.history

variable {ε ν κ α : Type} {hub hub' : Hub ε ν κ} {host : Host ε ν κ} {c : Connections}
  {t : Template} {target : Target}

-- ---------------------------------------------------------------------------
-- The order of the table
-- ---------------------------------------------------------------------------

theorem ordered_store (ordered : hub.bus.connections.Ordered) (key : String) :
    (Bus.store (Bus.mint key hub).1 (Bus.mint key hub).2).2.bus.connections.Ordered := by
  by_cases hk : key ∈ hub.bus.connections.keys
  · rw [Bus.store_mint_back hk]
    exact ordered
  · rw [Bus.store_mint hk]
    change (hub.bus.connections.store (Bus.mint key hub).1).1.Ordered
    rw [Connections.store_eq_none (h := (Bus.mint key hub).1) hk]
    exact Connections.pairwise_insertSorted hk ordered

theorem Connections.Ordered.takeMatching (ordered : c.Ordered) (t : Template) :
    (c.takeMatching t).2.Ordered :=
  List.Pairwise.sublist (List.filter_sublist.map Handle.key) ordered

/-- What is done to the table keeps its keys in order. -/
theorem Handling.ordered (h : Handling hub hub' taken given)
    (ordered : hub.bus.connections.Ordered) : hub'.bus.connections.Ordered := by
  cases h with
  | deed h =>
    rw [h.aside.connections]
    exact ordered
  | claim h =>
    obtain ⟨-, -, rfl⟩ := Connections.reserve_eq_some_iff.mp h
    exact ordered
  | store | giveBack => exact ordered_store ordered _
  | withdraw h =>
    cases h
    exact ordered.takeMatching _
  | abandon | closing | closed | discard => exact ordered

theorem ordered_of_reaches {ts ts' : List (Task (Hub ε ν κ) α)} (clients : ∀ t ∈ ts, Client t)
    (reaches : Reaches ts hub ts' hub') (ordered : hub.bus.connections.Ordered) :
    hub'.bus.connections.Ordered := by
  have handles : ∀ t ∈ ts, t.Keeps fun s s' => ∃ taken given, Handling s s' taken given := by
    intro t ht
    exact (clients t ht).errands.keeps fun _ _ _ _ hd => ⟨_, _, hd⟩
  obtain ⟨-, kept⟩ := reaches.keeps handles (fun _ _ ⟨_, _, hd⟩ => hd.ordered) ordered
  exact kept

theorem Connections.Ordered.bytes (ordered : c.Ordered) (p : String → Bool) :
    ((c.keys.filter p).map Text.bytes).Pairwise (· < ·) := by
  apply List.Pairwise.map
  · exact fun _ _ => Text.bytes_lt
  · exact ordered.filter p

theorem Connections.Ordered.nodup (ordered : c.Ordered) : c.opened.Nodup := by
  refine List.Nodup.of_map Handle.key ?_
  exact ordered.imp fun h => h.ne

-- ---------------------------------------------------------------------------
-- Runs of a close
-- ---------------------------------------------------------------------------

theorem Aside.dealings (h : Aside hub hub') : dealings hub'.history = dealings hub.history := by
  obtain ⟨entries, he, aside⟩ := h.history
  have none : entries.filter Entry.ofConnection = [] := by
    simpa [List.filter_eq_nil_iff] using aside
  simp [RouteBus.dealings, he, none]

theorem closings_dealings (history : List (Entry ν)) :
    closings (dealings history) = closings history := by
  unfold closings dealings
  rw [List.filterMap_filter]
  refine List.filterMap_congr fun entry _ => ?_
  cases he : entry.ofConnection with
  | true => rfl
  | false =>
    symm
    unfold Entry.closing?
    split
    · cases he
    · rfl

theorem closings_parting (t : Template) (handles : List Handle) :
    closings (handles.flatMap (parting (ν := ν) t)) = handles := by
  induction handles with
  | nil => rfl
  | cons handle handles ih => exact congrArg (handle :: ·) ih

theorem closings_of_parted {since : List (Entry ν)} {handles : List Handle}
    (parted : dealings since = handles.reverse.flatMap (parting t) ++
      .event (.withdrawn handles) :: dealings older) :
    closings since = handles.reverse ++ closings older := by
  rw [← closings_dealings since, parted]
  change List.filterMap _ _ = _
  rw [List.filterMap_append]
  exact congr (congrArg _ (closings_parting t _)) (closings_dealings older)

theorem Parts.dealings (aloof : ∀ handle, Aloof (host.disconnect handle)) {handles : List Handle}
    (parts : Parts host t handles hub hub') :
    hub'.bus.connections = hub.bus.connections ∧
      dealings hub'.history = handles.reverse.flatMap (parting t) ++ dealings hub.history := by
  induction parts with
  | nil => exact ⟨rfl, rfl⟩
  | @cons handle handles hub left hub' disconnects _ ih =>
    -- All that is said of connections meanwhile is that this one leaves and has left.
    have aside := (aloof handle).ensures (stable_aside _) _ _ _ (aside_refl _) disconnects
    obtain ⟨connections, parted⟩ := ih
    have first : RouteBus.dealings (left.record (.closed t.raw handle)).history =
        parting t handle ++ RouteBus.dealings hub.history := by
      change Entry.event (.closed t.raw handle) :: RouteBus.dealings left.history = _
      rw [aside.dealings]
      rfl
    constructor
    · exact connections.trans aside.connections
    · simp [parted, first]

namespace Bus

theorem parts_of_runs {handles : List Handle}
    (h : Runs Aside (disconnectAll host t handles) hub () hub') :
    Parts host t handles hub hub' := by
  induction handles generalizing hub with
  | nil =>
    obtain ⟨-, rfl⟩ := Task.runs_done.mp h
    exact .nil
  | cons handle handles ih =>
    obtain ⟨_, left, disconnects, h⟩ := Task.runs_bind.mp h
    rw [disconnect, Hub.tell, Task.runs_modify_bind] at disconnects
    rw [Hub.tell, Task.runs_modify_bind] at h
    exact .cons disconnects (ih h)

theorem parts_of_closeTarget (h : Runs Aside (closeTarget host t target) hub keys hub') :
    keys = (withdraw t target hub).1.map Handle.key ∧
      Parts host t (withdraw t target hub).1 (withdraw t target hub).2 hub' := by
  rw [closeTarget, Task.runs_atomically_bind] at h
  obtain ⟨_, last, disconnects, hd⟩ := Task.runs_bind.mp h
  obtain ⟨rfl, rfl⟩ := Task.runs_done.mp hd
  exact ⟨rfl, parts_of_runs disconnects⟩

theorem stillWanted_iff :
    StillWanted target c ↔ (target.complete && c.isConnected target.uri) = true := by
  simp only [StillWanted, Bool.and_eq_true, Connections.isConnected_iff]

theorem withdraw_wanted (wanted : StillWanted target hub.bus.connections) :
    withdraw t target hub = ([], hub.record (.closeSkipped t.raw target.uri)) :=
  if_pos (stillWanted_iff.mp wanted)

theorem withdraw_unwanted (unwanted : ¬ StillWanted target hub.bus.connections) :
    withdraw t target hub = (hub.bus.connections.matched t, hub.swept t) :=
  if_neg (mt stillWanted_iff.mpr unwanted)

theorem spared_of_wanted (wanted : StillWanted target hub.bus.connections)
    (h : Runs Aside (closeTarget host t target) hub keys hub') : Spared hub hub' (.ok keys) := by
  obtain ⟨listed, -⟩ := parts_of_closeTarget h
  obtain ⟨complete, covered⟩ := wanted
  constructor
  · rw [listed, withdraw_wanted ⟨complete, covered⟩]
    rfl
  · exact ensures_closeTarget_wanted complete (Connections.isConnected_iff.mpr covered) _ _ _
      (aside_refl hub) h

theorem swept_of_unwanted (aloof : ∀ handle, Aloof (host.disconnect handle))
    (ordered : hub.bus.connections.Ordered) (unwanted : ¬ StillWanted target hub.bus.connections)
    (h : Runs Aside (closeTarget host t target) hub keys hub') :
    Swept host t hub hub' (.ok keys) := by
  obtain ⟨listed, parts⟩ := parts_of_closeTarget h
  rw [withdraw_unwanted unwanted] at listed parts
  obtain ⟨left, dealt⟩ := parts.dealings aloof
  have parted : dealings hub'.history =
      (hub.bus.connections.matched t).reverse.flatMap (parting t) ++
        .event (.withdrawn (hub.bus.connections.matched t)) :: dealings hub.history := dealt
  constructor
  · exact congrArg _ (listed.trans (withdraw_keys _ t))
  · exact ordered.bytes t.test
  · exact parts
  · exact parted
  · intro handle hm
    have single : (hub.bus.connections.matched t).count handle = 1 :=
      List.count_eq_one_of_mem (ordered.nodup.filter _) hm
    rw [closings_of_parted parted, List.count_append, List.count_reverse, single, Nat.add_comm]
  · exact left

theorem spared_or_swept (aloof : ∀ handle, Aloof (host.disconnect handle))
    (ordered : hub.bus.connections.Ordered) (parsed : Template.parse text = .ok t)
    (h : Runs Aside (closeStreams host text args) hub result hub') :
    (StillWanted (t.resolve args) hub.bus.connections → Spared hub hub' result) ∧
      (¬ StillWanted (t.resolve args) hub.bus.connections → Swept host t hub hub' result) := by
  simp only [closeStreams, parsed, map_eq_pure_bind] at h
  obtain ⟨keys, mid, closes, hd⟩ := Task.runs_bind.mp h
  obtain ⟨rfl, rfl⟩ := Task.runs_done.mp hd
  constructor
  · exact fun wanted => spared_of_wanted wanted closes
  · exact fun unwanted => swept_of_unwanted aloof ordered unwanted closes

end Bus

-- ---------------------------------------------------------------------------
-- What is left to do
-- ---------------------------------------------------------------------------

theorem Unmoved.of_spared (spared : Spared hub hub' result) : Unmoved hub hub' result := by
  obtain ⟨listed, aside⟩ := spared
  refine ⟨listed, aside.connections, ?_⟩
  rw [← closings_dealings, aside.dealings, closings_dealings]

theorem Unmoved.of_swept (none : hub.bus.connections.matched t = [])
    (swept : Swept host t hub hub' result) : Unmoved hub hub' result := by
  obtain ⟨listed, -, -, parted, -, left⟩ := swept
  have unmatched : ∀ handle ∈ hub.bus.connections.opened, t.test handle.key = false := by
    simpa [Connections.matched, List.filter_eq_nil_iff] using none
  constructor
  · rw [listed, ← Bus.withdraw_keys]
    exact congrArg (Except.ok ∘ List.map Handle.key) none
  · rw [left, List.filter_eq_self.mpr fun handle hm => by simp [unmatched handle hm]]
  · rw [closings_of_parted parted, none]
    rfl

/-- Once a close has ended, the target is still wanted or nothing is left that the template
matches. -/
theorem wanted_or_unmatched
    (spares : StillWanted target hub.bus.connections → Spared hub hub' result)
    (sweeps : ¬ StillWanted target hub.bus.connections → Swept host t hub hub' result) :
    StillWanted target hub'.bus.connections ∨ hub'.bus.connections.matched t = [] := by
  by_cases wanted : StillWanted target hub.bus.connections
  · left
    rwa [(spares wanted).aside.connections]
  · right
    rw [(sweeps wanted).left]
    simp [Connections.matched, List.filter_filter]

theorem Spared.ordered (spared : Spared hub hub' result) (ordered : hub.bus.connections.Ordered) :
    hub'.bus.connections.Ordered := by
  rw [spared.aside.connections]
  exact ordered

theorem Swept.ordered (swept : Swept host t hub hub' result)
    (ordered : hub.bus.connections.Ordered) : hub'.bus.connections.Ordered := by
  rw [swept.left]
  exact ordered.takeMatching t

/-- A close that no open or close of others comes between does nothing where its target is still
wanted, and takes just what its template matches where it is not. Done again at once it finds
nothing to close. -/
theorem close_exactly (aloof : ∀ handle, Aloof (host.disconnect handle))
    (ordered : hub.bus.connections.Ordered) (parsed : Template.parse text = .ok t) :
    (∃ result hub', Runs Aside (Bus.closeStreams host text args) hub result hub') ∧
      ∀ result hub', Runs Aside (Bus.closeStreams host text args) hub result hub' →
        (StillWanted (t.resolve args) hub.bus.connections → Spared hub hub' result) ∧
        (¬ StillWanted (t.resolve args) hub.bus.connections → Swept host t hub hub' result) ∧
        ∀ again last, Runs Aside (Bus.closeStreams host text args) hub' again last →
          Unmoved hub' last again := by
  refine ⟨⟨_, _, Task.runs_run aside_refl _ hub⟩, fun result hub' h => ?_⟩
  obtain ⟨spares, sweeps⟩ := Bus.spared_or_swept aloof ordered parsed h
  refine ⟨spares, sweeps, fun again last repeated => ?_⟩
  have ordered' : hub'.bus.connections.Ordered := by
    by_cases wanted : StillWanted (t.resolve args) hub.bus.connections
    · exact (spares wanted).ordered ordered
    · exact (sweeps wanted).ordered ordered
  obtain ⟨spares', sweeps'⟩ := Bus.spared_or_swept aloof ordered' parsed repeated
  -- If the target is still wanted it is spared again, and else nothing is left to sweep.
  by_cases wanted : StillWanted (t.resolve args) hub'.bus.connections
  · exact .of_spared (spares' wanted)
  · rcases wanted_or_unmatched spares sweeps with still | none
    · exact absurd still wanted
    · exact .of_swept none (sweeps' wanted)

def busy : Rehearsal.Staging :=
  fresh.withConnections ⟨[⟨"s/a", 2⟩, ⟨"s/é", 0⟩, ⟨"t/b", 1⟩], ["s/p"]⟩

theorem close_exactly_busy :
    (∀ result hub', Runs Aside (Bus.closeStreams Rehearsal.host "s/:x" ["z"]) busy result hub' →
      result = .ok ["s/a", "s/é"] ∧
        closings hub'.history = [⟨"s/é", 0⟩, ⟨"s/a", 2⟩] ∧
        hub'.bus.connections = ⟨[⟨"t/b", 1⟩], ["s/p"]⟩) ∧
    ∀ result hub', Runs Aside (Bus.closeStreams Rehearsal.host "s/:x" ["p"]) busy result hub' →
      result = .ok [] ∧ hub'.bus.connections = busy.bus.connections := by
  have parsed : Template.parse "s/:x" = .ok oneSegment := by cbv
  have ordered : busy.bus.connections.Ordered := by
    have keys : ["s/a", "s/é", "t/b"].Pairwise (· < ·) := by decide
    exact keys
  have matched : busy.bus.connections.matched oneSegment = [⟨"s/a", 2⟩, ⟨"s/é", 0⟩] := by cbv
  refine ⟨fun result hub' h => ?_, fun result hub' h => ?_⟩
  · obtain ⟨-, closes⟩ := close_exactly Rehearsal.aloof_disconnect ordered parsed
    obtain ⟨-, sweeps, -⟩ := closes result hub' h
    have unwanted : ¬ StillWanted (oneSegment.resolve ["z"]) busy.bus.connections := by
      have nobody : busy.bus.connections.isConnected "s/z" = false := by cbv
      rintro ⟨-, covered⟩
      cases nobody.symm.trans (Connections.isConnected_iff.mpr covered)
    obtain ⟨listed, -, -, parted, -, left⟩ := sweeps unwanted
    have keys : busy.bus.connections.keys.filter oneSegment.test = ["s/a", "s/é"] := by cbv
    have rest : busy.bus.connections.opened.filter (!oneSegment.test ·.key) = [⟨"t/b", 1⟩] := by cbv
    rw [keys] at listed
    rw [rest] at left
    refine ⟨listed, ?_, left⟩
    rw [closings_of_parted parted, matched]
    rfl
  · obtain ⟨-, closes⟩ := close_exactly Rehearsal.aloof_disconnect ordered parsed
    obtain ⟨spares, -, -⟩ := closes result hub' h
    have wanted : StillWanted (oneSegment.resolve ["p"]) busy.bus.connections :=
      ⟨by decide, "s/p", by decide, Connections.covers_self _⟩
    obtain ⟨listed, aside⟩ := spares wanted
    exact ⟨listed, aside.connections⟩

end RouteBus
