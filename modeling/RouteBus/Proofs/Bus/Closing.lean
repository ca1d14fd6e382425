import RouteBus.Proofs.Bus.Custody
import RouteBus.Proofs.Bus.Replacing

/-!
# Closing what was opened

An open stores its connection under the target of its arguments; a close takes what its template
matches. The two agree where each marker admits its argument. Where one does not, it may be that
no close of the template takes the connection.
-/

namespace RouteBus

open RouteBus.Task (Runs)

-- ---------------------------------------------------------------------------
-- Runs of opens and closes
-- ---------------------------------------------------------------------------

/-- The connection was disconnected after `hub`, and its disconnect has ended. -/
def Disconnected (t : Template) (handle : Handle) (hub hub' : Hub ε ν κ) : Prop :=
  ∃ before during after, hub'.history = after ++ .event (.closed t.raw handle) ::
    (during ++ .event (.closing handle) :: (before ++ hub.history))

variable {ε ν κ α : Type} {hub hub' opened now : Hub ε ν κ} {host : Host ε ν κ}
  {rely : Hub ε ν κ → Hub ε ν κ → Prop} {t : Template} {target : Target} {handle : Handle}

theorem grown_refl (hub : Hub ε ν κ) : Grown hub hub := ⟨[], rfl⟩

theorem grown_store (key : String) (hub : Hub ε ν κ) :
    Grown hub (Bus.store (Bus.mint key hub).1 (Bus.mint key hub).2).2 := by
  have minted : Grown hub (Bus.mint key hub).2 := ⟨[_], rfl⟩
  refine minted.trans ?_
  unfold Bus.store
  split
  · exact ⟨[], rfl⟩
  · exact ⟨[_], rfl⟩

theorem Handling.grown (h : Handling hub hub' taken given) : Grown hub hub' := by
  cases h with
  | deed h => exact h.aside.grown
  | store | giveBack => exact grown_store _ _
  | claim | abandon | withdraw | closing | closed | discard => exact ⟨[_], rfl⟩

theorem Client.grown {t : Task (Hub ε ν κ) α} (client : Client t)
    (h : Runs Grown t hub a hub') : Grown hub hub' := by
  have adds : t.Keeps Grown := client.errands.keeps fun _ _ _ _ hd => hd.grown
  have later : ∀ s s', Grown s s' → Grown hub s → Grown hub s' := fun _ _ hs hg => hg.trans hs
  exact adds.ensures later later hub a hub' (grown_refl hub) h

theorem Disconnected.later (h : Disconnected t handle hub hub') (hg : Grown hub' now) :
    Disconnected t handle hub now := by
  obtain ⟨before, during, after, he⟩ := h
  obtain ⟨entries, hn⟩ := hg
  exact ⟨before, during, entries ++ after, by rw [hn, he, List.append_assoc]⟩

theorem Disconnected.earlier (h : Disconnected t handle hub' now) (hg : Grown hub hub') :
    Disconnected t handle hub now := by
  obtain ⟨before, during, after, he⟩ := h
  obtain ⟨entries, hn⟩ := hg
  exact ⟨before ++ entries, during, after, by rw [he, hn, List.append_assoc before]⟩

namespace Bus

/-- An open that is true has just stored its connection. -/
theorem runs_openTarget_stored (h : Runs rely (openTarget host key) hub (.ok true) opened) :
    key ∈ opened.bus.connections.keys := by
  rw [openTarget, Task.runs_atomically_bind] at h
  cases hc : (claim key hub).1 with
  | false => simp [hc] at h
  | true =>
    rw [hc] at h
    obtain ⟨answer, mid, -, hk⟩ := Task.runs_bind.mp h
    cases answer with
    | error refusal => simp at hk
    | ok =>
      rw [Task.runs_atomically_bind] at hk
      cases hs : (store (mint key mid).1 (mint key mid).2).1 with
      | none =>
        rw [hs] at hk
        obtain ⟨-, rfl⟩ := Task.runs_done.mp hk
        obtain ⟨handle, -, rfl, inserted, -⟩ := inserts_store hs
        rw [Connections.keys, inserted]
        exact List.mem_map_of_mem (Connections.mem_insertSorted.mpr (.inl rfl))
      | some duplicate =>
        rw [hs] at hk
        obtain ⟨_, _, -, hd⟩ := Task.runs_bind.mp hk
        simp [Hub.tell] at hd

theorem disconnected_of_runs (lawful : host.Lawful) (handles : List Handle)
    (h : Runs Grown (disconnectAll host t handles) hub () hub') :
    Grown hub hub' ∧ ∀ handle ∈ handles, Disconnected t handle hub hub' := by
  induction handles generalizing hub with
  | nil =>
    obtain ⟨-, rfl⟩ := Task.runs_done.mp h
    exact ⟨grown_refl _, nofun⟩
  | cons handle handles ih =>
    obtain ⟨_, left, disconnects, h⟩ := Task.runs_bind.mp h
    rw [disconnect, Hub.tell, Task.runs_modify_bind] at disconnects
    rw [Hub.tell, Task.runs_modify_bind] at h
    obtain ⟨entries, he⟩ := (lawful.disconnect handle).grown disconnects
    obtain ⟨grown, others⟩ := ih h
    have first : Disconnected t handle hub (left.record (.closed t.raw handle)) :=
      ⟨[], entries, [], congrArg _ he⟩
    have since : Grown hub (left.record (.closed t.raw handle)) :=
      ⟨_ :: (entries ++ [_]), by rw [List.cons_append, List.append_assoc]; exact congrArg _ he⟩
    refine ⟨since.trans grown, List.forall_mem_cons.mpr ⟨first.later grown, ?_⟩⟩
    exact fun other ho => (others other ho).earlier since

theorem runs_closeTarget (lawful : host.Lawful)
    (h : Runs Grown (closeTarget host t target) hub keys hub') :
    keys = (withdraw t target hub).1.map Handle.key ∧
      ∀ handle ∈ (withdraw t target hub).1, Disconnected t handle hub hub' := by
  rw [closeTarget, Task.runs_atomically_bind] at h
  obtain ⟨_, last, disconnects, hd⟩ := Task.runs_bind.mp h
  obtain ⟨rfl, rfl⟩ := Task.runs_done.mp hd
  obtain ⟨-, disconnected⟩ := disconnected_of_runs lawful _ disconnects
  have withdrawn : Grown hub (withdraw t target hub).2 := by
    obtain ⟨_, _, _, _, _, hd⟩ := handles_withdraw t target hub
    exact hd.grown
  exact ⟨rfl, fun handle hm => (disconnected handle hm).earlier withdrawn⟩

theorem runs_openStream_stored (parsed : Template.parse text = .ok t)
    (h : Runs rely (openStream host text args) hub (.ok true) opened) :
    (t.resolve args).uri ∈ opened.bus.connections.keys := by
  rw [openStream, resolve, parsed, map_eq_pure_bind] at h
  obtain ⟨outcome, mid, ho, hd⟩ := Task.runs_bind.mp h
  obtain ⟨he, rfl⟩ := Task.runs_done.mp hd
  cases outcome with
  | error refusal => cases he
  | ok made =>
    obtain rfl : true = made := Except.ok.inj he
    exact runs_openTarget_stored ho

theorem withdraw_keys (c : Connections) (t : Template) :
    (c.takeMatching t).1.map Handle.key = c.keys.filter t.test := by
  rw [Connections.takeMatching, Connections.keys, List.filter_map]
  rfl

/-- A close takes all that its template matches, or nothing where the target is wanted. -/
theorem runs_closeStreams (lawful : host.Lawful) (parsed : Template.parse text = .ok t)
    (h : Runs Grown (closeStreams host text args) hub result hub') :
    ∃ taken ⊆ hub.bus.connections.opened.filter (t.test ·.key),
      result = .ok (taken.map Handle.key) ∧ (∀ handle ∈ taken, Disconnected t handle hub hub') ∧
      ((t.resolve args).complete = false →
        taken = hub.bus.connections.opened.filter (t.test ·.key)) := by
  simp only [closeStreams, parsed, map_eq_pure_bind] at h
  obtain ⟨keys, mid, hc, hd⟩ := Task.runs_bind.mp h
  obtain ⟨rfl, rfl⟩ := Task.runs_done.mp hd
  obtain ⟨rfl, disconnected⟩ := runs_closeTarget lawful hc
  refine ⟨_, ?_, rfl, disconnected, fun incomplete => ?_⟩
  · unfold withdraw
    split
    · exact List.nil_subset _
    · exact List.Subset.refl _
  · rw [withdraw, incomplete]
    rfl

end Bus

/-- A key that an open has stored under a template is closed by the next close of that template
without arguments, and listed by it, if the template matches the key; it does where the markers
admit the arguments. A key that it does not match is listed by no close of the template. -/
theorem close_takes_matching (lawful : host.Lawful) (parsed : Template.parse text = .ok t)
    (marked : 0 < t.markerCount)
    (opens : Runs rely (Bus.openStream host text args) hub (.ok true) opened)
    (since : now.bus.connections = opened.bus.connections) :
    ∃ handle ∈ now.bus.connections.opened, handle.key = (t.resolve args).uri ∧
      (t.Suits args → t.test handle.key = true) ∧
      (∃ result hub', Runs Grown (Bus.closeStreams host text []) now result hub') ∧
      (∀ result hub', Runs Grown (Bus.closeStreams host text []) now result hub' →
        result = .ok (now.bus.connections.keys.filter t.test) ∧
        (t.test handle.key = true → Disconnected t handle now hub')) ∧
      ∀ others keys hub', Runs Grown (Bus.closeStreams host text others) now (.ok keys) hub' →
        handle.key ∈ keys → t.test handle.key = true := by
  have stored := Bus.runs_openStream_stored parsed opens
  rw [← since] at stored
  obtain ⟨handle, hm, hk⟩ := List.mem_map.mp stored
  have incomplete : (t.resolve []).complete = false :=
    decide_eq_false (Nat.not_le.mpr marked)
  refine ⟨handle, hm, hk, fun suits => hk ▸ suits.test_target parsed,
    ⟨_, _, Task.runs_run grown_refl _ now⟩, fun result hub' h => ?_, fun others keys hub' h => ?_⟩
  · obtain ⟨taken, -, rfl, disconnected, all⟩ := Bus.runs_closeStreams lawful parsed h
    obtain rfl := all incomplete
    refine ⟨congrArg _ (Bus.withdraw_keys now.bus.connections t), fun matched => ?_⟩
    exact disconnected handle (List.mem_filter.mpr ⟨hm, matched⟩)
  · obtain ⟨taken, matched, he, -, -⟩ := Bus.runs_closeStreams lawful parsed h
    intro hl
    rw [Except.ok.inj he] at hl
    obtain ⟨other, ho, hkey⟩ := List.mem_map.mp hl
    rw [← hkey]
    exact (List.mem_filter.mp (matched ho)).2

def oneSegment : Template := ⟨"s/:x", [.literal ['s', '/'], .named ['x']]⟩

theorem close_takes_matching_segment :
    ∃ opened, Runs Grown (Bus.openStream Rehearsal.host "s/:x" ["a", "b"]) fresh (.ok true) opened ∧
      ∀ result hub', Runs Grown (Bus.closeStreams Rehearsal.host "s/:x" []) opened result hub' →
        result = .ok ["s/a"] ∧ Disconnected oneSegment ⟨"s/a", 0⟩ opened hub' := by
  have parsed : Template.parse "s/:x" = .ok oneSegment := by cbv
  have answer : ((Bus.openStream Rehearsal.host "s/:x" ["a", "b"]).run fresh).1 = .ok true := by cbv
  have table : ((Bus.openStream Rehearsal.host "s/:x" ["a", "b"]).run fresh).2.bus.connections.opened =
      [⟨"s/a", 0⟩] := by cbv
  have suits : oneSegment.Suits ["a", "b"] := by unfold Template.Suits; decide
  have opens := Task.runs_run grown_refl (Bus.openStream Rehearsal.host "s/:x" ["a", "b"]) fresh
  rw [answer] at opens
  obtain ⟨handle, hm, -, matched, -, closes, -⟩ :=
    close_takes_matching Rehearsal.host_lawful parsed (by decide) opens rfl
  rw [table, List.mem_singleton] at hm
  subst hm
  refine ⟨_, opens, fun result hub' h => ?_⟩
  obtain ⟨he, disconnected⟩ := closes result hub' h
  refine ⟨?_, disconnected (matched suits)⟩
  rw [he, Connections.keys, table]
  decide

/-- An empty segment is opened and never closed. -/
theorem opened_for_good :
    ¬ ∀ (text : String) (t : Template) (args : List String) (hub opened hub' : Rehearsal.Staging)
        (keys : List String),
      Template.parse text = .ok t → 0 < t.markerCount →
      Runs Eq (Bus.openStream Rehearsal.host text args) hub (.ok true) opened →
      Runs Eq (Bus.closeStreams Rehearsal.host text []) opened (.ok keys) hub' →
        (t.resolve args).uri ∈ keys := by
  intro claim
  have parsed : Template.parse "s/:x" = .ok oneSegment := by cbv
  have opens : ((Bus.openStream Rehearsal.host "s/:x" [""]).run fresh).1 = .ok true := by cbv
  have closes : ((Bus.closeStreams Rehearsal.host "s/:x" []).run
      ((Bus.openStream Rehearsal.host "s/:x" [""]).run fresh).2).1 = .ok [] := by cbv
  have taken := claim "s/:x" oneSegment [""] fresh _ _ [] parsed (by decide)
    (Task.runs_eq_iff.mpr (Prod.ext opens rfl)) (Task.runs_eq_iff.mpr (Prod.ext closes rfl))
  cases taken

end RouteBus
