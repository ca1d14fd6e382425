import RouteBus.Proofs.Bus.Closing

/-!
# What a close spares

A close whose target is wanted does nothing. Wanted is a target that is open or claimed; but the
target is read as a template in turn, so that one in which an argument leaves a marker is wanted
for every key that it happens to match.
-/

namespace RouteBus

open RouteBus.Task (Runs)

/-- The target is open or claimed, or has a marker and matches what is. -/
inductive Wanted (c : Connections) (target : String) : Prop
  | itself : target ∈ c.keys ++ c.pending → Wanted c target
  | marked (template : Template) (key : String) : Template.parse target = .ok template →
      0 < template.markerCount → key ∈ c.keys ++ c.pending → template.test key = true →
      Wanted c target

structure Spared (hub hub' : Hub ε ν κ) (result : Except StreamError (List String)) : Prop where
  listed : result = .ok []
  aside : Aside hub hub'

structure Cleared (t : Template) (hub hub' : Hub ε ν κ)
    (result : Except StreamError (List String)) : Prop where
  listed : result = .ok (hub.bus.connections.keys.filter t.test)
  disconnected : ∀ handle ∈ hub.bus.connections.opened, t.test handle.key = true →
    Disconnected t handle hub hub'
  unmatched : ∀ key, key ∈ hub'.bus.connections.keys ↔
    key ∈ hub.bus.connections.keys ∧ t.test key = false
  pending : hub'.bus.connections.pending = hub.bus.connections.pending

variable {ε ν κ α : Type} {hub hub' : Hub ε ν κ} {host : Host ε ν κ} {c : Connections}
  {t : Template} {target : Target}

theorem isConnected_iff_wanted {target : String} : c.isConnected target = true ↔ Wanted c target := by
  rw [Connections.isConnected_iff]
  constructor
  · rintro ⟨key, hk, covers⟩
    rcases covers.eq_or_marked with rfl | ⟨template, parsed, marked, matched⟩
    · exact .itself hk
    · exact .marked template key parsed marked hk matched
  · rintro (hk | ⟨template, key, parsed, -, hk, matched⟩)
    · exact ⟨target, hk, Connections.covers_self target⟩
    · refine ⟨key, hk, ?_⟩
      simpa only [Connections.Covers, parsed] using matched

namespace Bus

theorem spared_closeTarget (lawful : host.Lawful) (complete : target.complete = true)
    (wanted : Wanted hub.bus.connections target.uri)
    (h : Runs Aside (closeTarget host t target) hub keys hub') : Spared hub hub' (.ok keys) := by
  have covered := isConnected_iff_wanted.mpr wanted
  have aside := ensures_closeTarget_wanted complete covered hub keys hub' (aside_refl hub) h
  obtain ⟨rfl, -⟩ := runs_closeTarget lawful (h.mono fun _ _ => Aside.grown)
  refine ⟨?_, aside⟩
  simp [withdraw, complete, covered]

theorem cleared_closeTarget (lawful : host.Lawful)
    (aloof : ∀ handle, Aloof (host.disconnect handle))
    (unwanted : ¬ Wanted hub.bus.connections target.uri)
    (h : Runs Aside (closeTarget host t target) hub keys hub') : Cleared t hub hub' (.ok keys) := by
  have uncovered : hub.bus.connections.isConnected target.uri = false := by
    simpa using fun covered => unwanted (isConnected_iff_wanted.mp covered)
  have taken : (withdraw t target hub).1 = (hub.bus.connections.takeMatching t).1 := by
    simp [withdraw, uncovered]
  have since := ensures_closeTarget aloof uncovered hub keys hub' (aside_refl hub).since h
  obtain ⟨rfl, disconnected⟩ := runs_closeTarget lawful (h.mono fun _ _ => Aside.grown)
  rw [taken] at disconnected ⊢
  constructor
  · exact congrArg _ (withdraw_keys _ t)
  · exact fun handle hm matched => disconnected handle (List.mem_filter.mpr ⟨hm, matched⟩)
  · intro key
    rw [since.connections]
    exact Connections.mem_keys_takeMatching
  · rw [since.connections]
    rfl

end Bus

theorem Rehearsal.aloof_disconnect (handle : Handle) : Aloof (Rehearsal.host.disconnect handle) := by
  have noted : Aloof (Rehearsal.note (.disconnecting handle.key)) :=
    Aloof.closed.modify fun _ => .note _
  exact Aloof.closed.bind noted fun _ => Rehearsal.within_onWire Aloof.closed fun _ => .own _

/-- A close whose target is fully resolved closes nothing where the target is wanted, and all that
its template matches where it is not. -/
theorem close_clears_unless_wanted (lawful : host.Lawful)
    (aloof : ∀ handle, Aloof (host.disconnect handle)) (parsed : Template.parse text = .ok t)
    (complete : (t.resolve args).complete = true) :
    (∃ result hub', Runs Aside (Bus.closeStreams host text args) hub result hub') ∧
      ∀ result hub', Runs Aside (Bus.closeStreams host text args) hub result hub' →
        (Wanted hub.bus.connections (t.resolve args).uri → Spared hub hub' result) ∧
        (¬ Wanted hub.bus.connections (t.resolve args).uri → Cleared t hub hub' result) := by
  refine ⟨⟨_, _, Task.runs_run aside_refl _ hub⟩, fun result hub' h => ?_⟩
  simp only [Bus.closeStreams, parsed, map_eq_pure_bind] at h
  obtain ⟨keys, mid, closes, hd⟩ := Task.runs_bind.mp h
  obtain ⟨rfl, rfl⟩ := Task.runs_done.mp hd
  exact ⟨fun wanted => Bus.spared_closeTarget lawful complete wanted closes,
    fun unwanted => Bus.cleared_closeTarget lawful aloof unwanted closes⟩

theorem close_clears_unless_wanted_starred :
    ∃ opened, (Bus.openStream Rehearsal.host "s/:x" ["a"]).run fresh = (.ok true, opened) ∧
      (∀ result hub', Runs Aside (Bus.closeStreams Rehearsal.host "s/:x" ["b"]) opened result hub' →
        Cleared oneSegment opened hub' result) ∧
      ∀ result hub', Runs Aside (Bus.closeStreams Rehearsal.host "s/:x" ["*"]) opened result hub' →
        Spared opened hub' result := by
  have parsed : Template.parse "s/:x" = .ok oneSegment := by cbv
  have other : Template.parse "s/b" = .ok ⟨"s/b", [.literal ['s', '/', 'b']]⟩ := by cbv
  have starred : Template.parse "s/*" = .ok ⟨"s/*", [.literal ['s', '/'], .wildcard []]⟩ := by cbv
  have opens : ((Bus.openStream Rehearsal.host "s/:x" ["a"]).run fresh).1 = .ok true := by cbv
  have table : ((Bus.openStream Rehearsal.host "s/:x" ["a"]).run fresh).2.bus.connections =
      ⟨[⟨"s/a", 0⟩], []⟩ := by cbv
  have plain : (oneSegment.resolve ["b"]).complete = true := by decide
  have marked : (oneSegment.resolve ["*"]).complete = true := by decide
  refine ⟨_, Prod.ext opens rfl, fun result hub' h => ?_, fun result hub' h => ?_⟩
  · obtain ⟨-, clears⟩ := close_clears_unless_wanted Rehearsal.host_lawful
      Rehearsal.aloof_disconnect parsed plain
    apply (clears result hub' h).2
    rw [table]
    rintro (hm | ⟨template, key, hp, marker, -, -⟩)
    · exact absurd hm (by decide)
    · obtain rfl := Except.ok.inj (other.symm.trans hp)
      exact absurd marker (by decide)
  · obtain ⟨-, spares⟩ := close_clears_unless_wanted Rehearsal.host_lawful
      Rehearsal.aloof_disconnect parsed marked
    apply (spares result hub' h).1
    rw [table]
    exact .marked _ "s/a" starred (by decide) List.mem_cons_self (by cbv)

/-- An argument that reads as a marker spares every stream of the template. -/
theorem marked_argument_spares :
    ¬ ∀ (text : String) (t : Template) (args : List String) (hub hub' : Rehearsal.Staging)
        (result : Except StreamError (List String)),
      Template.parse text = .ok t → (t.resolve args).complete = true →
      (t.resolve args).uri ∉ hub.bus.connections.keys →
      (t.resolve args).uri ∉ hub.bus.connections.pending →
      Runs Eq (Bus.closeStreams Rehearsal.host text args) hub result hub' →
        ∀ key ∈ hub'.bus.connections.keys, t.test key = false := by
  intro claim
  have parsed : Template.parse "s/:x" = .ok oneSegment := by cbv
  have table : ((Bus.openStream Rehearsal.host "s/:x" ["a"]).run fresh).2.bus.connections =
      ⟨[⟨"s/a", 0⟩], []⟩ := by cbv
  have left : ((Bus.closeStreams Rehearsal.host "s/:x" ["*"]).run
      ((Bus.openStream Rehearsal.host "s/:x" ["a"]).run fresh).2).2.bus.connections.keys =
      ["s/a"] := by cbv
  have unmatched := claim "s/:x" oneSegment ["*"] _ _ _ parsed (by decide)
    (by rw [table]; decide) (by rw [table]; decide) (Task.runs_eq_iff.mpr rfl)
  have matched : oneSegment.test "s/a" = true := by cbv
  rw [unmatched "s/a" (by rw [left]; exact List.mem_cons_self)] at matched
  cases matched

end RouteBus
