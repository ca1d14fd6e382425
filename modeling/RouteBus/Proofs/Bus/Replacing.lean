import RouteBus.Proofs.Bus.Connections
import RouteBus.Proofs.Hub.Aloof
import RouteBus.Proofs.Template.Targets

/-!
# Replacing what is open

Closing all that a template matches and then opening one of its targets leaves that target
alone, or nothing if its connect is refused. A target that is open already is kept by both.
-/

namespace RouteBus

open RouteBus.Task (Ensures)

-- ---------------------------------------------------------------------------
-- Since a state
-- ---------------------------------------------------------------------------

def Grown (hub hub' : Hub ε ν κ) : Prop := ∃ entries, hub'.history = entries ++ hub.history

structure Since (hub : Hub ε ν κ) (connections : Connections) (hub' : Hub ε ν κ) : Prop where
  connections : hub'.bus.connections = connections
  grown : Grown hub hub'

def Refused (key : String) (hub hub' : Hub ε ν κ) : Prop :=
  ∃ entries failure, hub'.history = entries ++ hub.history ∧
    .event (.openFailed key failure) ∈ entries

/-- One key is open and no other, or its connect was refused and nothing is open. -/
structure Replaced (key : String) (hub hub' : Hub ε ν κ) : Prop where
  opened : hub'.bus.connections.keys = [key] ∨
    hub'.bus.connections.keys = [] ∧ Refused key hub hub'
  pending : hub'.bus.connections.pending = []

variable {ε ν κ : Type} {hub hub' last : Hub ε ν κ} {host : Host ε ν κ} {c : Connections}

theorem Grown.trans (h : Grown hub hub') (h' : Grown hub' last) : Grown hub last := by
  obtain ⟨before, hb⟩ := h
  obtain ⟨after, ha⟩ := h'
  exact ⟨after ++ before, by rw [ha, hb, List.append_assoc]⟩

theorem Aside.grown (h : Aside hub hub') : Grown hub hub' := by
  obtain ⟨entries, he, -⟩ := h.history
  exact ⟨entries, he⟩

theorem Since.step (h : Since hub c hub') (h' : Since hub' hub'.bus.connections last) :
    Since hub c last :=
  ⟨h'.connections.trans h.connections, h.grown.trans h'.grown⟩

theorem Aside.since (h : Aside hub hub') : Since hub hub.bus.connections hub' :=
  ⟨h.connections, h.grown⟩

theorem stable_since (hub : Hub ε ν κ) (c : Connections) : Stable (Since hub c) :=
  fun _ _ h hs => hs.step h.since

theorem Refused.grown (h : Refused key hub hub') (hg : Grown hub' last) : Refused key hub last := by
  obtain ⟨entries, failure, he, hm⟩ := h
  obtain ⟨more, hm'⟩ := hg
  exact ⟨more ++ entries, failure, by rw [hm', he, List.append_assoc], List.mem_append_right _ hm⟩

theorem stable_replaced (key : String) (hub : Hub ε ν κ) : Stable (Replaced key hub) := by
  rintro _ _ h ⟨opened, pending⟩
  rw [← h.connections] at opened pending
  exact ⟨opened.imp_right fun ⟨hn, hf⟩ => ⟨hn, hf.grown h.grown⟩, pending⟩

-- ---------------------------------------------------------------------------
-- Which key is open
-- ---------------------------------------------------------------------------

/-- A target of plain arguments is looked for as the key that it is. -/
theorem isConnected_target {t : Template} (hp : Template.parse text = .ok t) (hf : t.Fits args) :
    c.isConnected (t.resolve args).uri = true ↔
      (t.resolve args).uri ∈ c.keys ∨ (t.resolve args).uri ∈ c.pending := by
  obtain ⟨target, parsed, unmarked⟩ := hf.parse_target hp
  rw [Connections.isConnected_iff, ← List.mem_append]
  constructor
  · rintro ⟨key, hk, covers⟩
    rcases covers.eq_or_marked with rfl | ⟨other, ho, marked, -⟩
    · exact hk
    · obtain rfl := Except.ok.inj (ho.symm.trans parsed)
      omega
  · exact fun hk => ⟨_, hk, Connections.covers_self _⟩

theorem isConnected_empty (key : String) : Connections.empty.isConnected key = false := by
  unfold Connections.isConnected
  split <;> rfl

namespace Bus

-- ---------------------------------------------------------------------------
-- A target that is open
-- ---------------------------------------------------------------------------

theorem ensures_closeTarget_wanted {template : Template} {target : Target}
    (complete : target.complete = true)
    (wanted : hub.bus.connections.isConnected target.uri = true) :
    Ensures Aside (Aside hub) (closeTarget host template target) fun _ => Aside hub := by
  have withdraws : Ensures Aside (Aside hub) (Task.atomically (withdraw template target))
      fun handles s => handles = [] ∧ Aside hub s := by
    refine Task.ensures_atomically fun s hs => ?_
    rw [withdraw, hs.connections, complete, wanted]
    exact ⟨rfl, hs.trans (.of_record rfl rfl rfl rfl)⟩
  exact Task.ensures_then [] withdraws (Task.ensures_done fun _ => id)

theorem ensures_openTarget_wanted (wanted : hub.bus.connections.isConnected key = true) :
    Ensures Aside (Aside hub) (openTarget host key) fun _ => Aside hub := by
  have claims : Ensures Aside (Aside hub) (Task.atomically (claim key))
      fun claimed s => claimed = false ∧ Aside hub s := by
    refine Task.ensures_atomically fun s hs => ?_
    rw [claim, hs.connections, if_pos wanted]
    exact ⟨rfl, hs.trans (.of_record rfl rfl rfl rfl)⟩
  exact Task.ensures_then false claims (Task.ensures_done fun _ => id)

-- ---------------------------------------------------------------------------
-- A target that is not
-- ---------------------------------------------------------------------------

theorem keeps_disconnectAll (aloof : ∀ handle, Aloof (host.disconnect handle))
    (template : Template) (handles : List Handle) :
    (disconnectAll host template handles).Keeps fun s s' => Since s s.bus.connections s' := by
  induction handles with
  | nil => trivial
  | cons handle handles ih =>
    have recorded : ∀ (event : Event) (s : Hub ε ν κ),
        Since s s.bus.connections (s.record event) := fun event s => ⟨rfl, [.event event], rfl⟩
    have leaves := (aloof handle).mono fun _ _ hd => hd.aside.since
    refine Task.keeps_bind ?_ fun _ => Task.keeps_bind ?_ fun _ => ih
    · exact fun s => ⟨recorded _ s, leaves⟩
    · exact fun s => ⟨recorded _ s, trivial⟩

theorem ensures_closeTarget (aloof : ∀ handle, Aloof (host.disconnect handle))
    {template : Template} {target : Target} (unwanted : c.isConnected target.uri = false) :
    Ensures Aside (Since hub c) (closeTarget host template target)
      fun _ => Since hub (c.takeMatching template).2 := by
  have withdraws : Ensures Aside (Since hub c) (Task.atomically (withdraw template target))
      fun _ => Since hub (c.takeMatching template).2 := by
    refine Task.ensures_atomically fun s hs => ?_
    rw [withdraw, hs.connections, unwanted, Bool.and_false]
    exact hs.grown.elim fun entries he => ⟨rfl, _ :: entries, congrArg _ he⟩
  refine Task.ensures_bind withdraws fun handles => ?_
  refine Task.ensures_bind ?_ fun _ => Task.ensures_done fun _ => id
  exact (keeps_disconnectAll aloof template handles).ensures
    (fun s s' h hs => hs.step (hs.connections ▸ h)) (stable_since hub _)

theorem ensures_closeTarget_all (quiet : host.Quiet) {template : Template} {target : Target}
    (unwanted : c.isConnected target.uri = false) (settled : c.pending = [])
    (all : ∀ handle ∈ c.opened, template.test handle.key = true) :
    Ensures Aside (Since hub c) (closeTarget host template target) fun _ => Since hub .empty := by
  have left : (c.takeMatching template).2 = .empty := by
    simp only [Connections.takeMatching, settled, Connections.empty, Connections.mk.injEq, and_true]
    exact List.filter_eq_nil_iff.mpr fun handle hm => by simp [all handle hm]
  rw [← left]
  exact ensures_closeTarget quiet.aloof.disconnect unwanted

theorem replaced_abandon {failure : TransportFailure} (hs : Since hub ⟨[], [key]⟩ hub') :
    Replaced key hub (abandon key failure hub') := by
  obtain ⟨hc, entries, he⟩ := hs
  have left : (abandon key failure hub').bus.connections = .empty := by
    simp [abandon, Hub.withConnections, Hub.record, Connections.release, hc, Connections.empty]
  have refused : Refused key hub (abandon key failure hub') :=
    ⟨.event (.openFailed key failure) :: entries, failure, congrArg _ he, List.mem_cons_self⟩
  constructor
  · exact .inr ⟨congrArg Connections.keys left, refused⟩
  · exact congrArg Connections.pending left

theorem replaced_store (hs : Since hub ⟨[], [key]⟩ hub') :
    (store (mint key hub').1 (mint key hub').2).1 = none ∧
      Replaced key hub (store (mint key hub').1 (mint key hub').2).2 := by
  have stored : (mint key hub').2.bus.connections.store (mint key hub').1 =
      (⟨[(mint key hub').1], []⟩, none) := by
    change hub'.bus.connections.store _ = _
    rw [hs.connections, Connections.store_eq_none (by simp [Connections.keys])]
    simp [Connections.release, Connections.insertSorted, mint]
  rw [store, stored]
  exact ⟨rfl, .inl rfl, rfl⟩

theorem ensures_openTarget (quiet : host.Quiet) (key : String) :
    Ensures Aside (Since hub .empty) (openTarget host key) fun _ => Replaced key hub := by
  have claims : Ensures Aside (Since hub .empty) (Task.atomically (claim key))
      fun claimed s => claimed = true ∧ Since hub ⟨[], [key]⟩ s := by
    refine Task.ensures_atomically fun s hs => ?_
    rw [claim, hs.connections, isConnected_empty]
    exact hs.grown.elim fun entries he => ⟨rfl, rfl, _ :: entries, congrArg _ he⟩
  have connects : Ensures Aside (Since hub ⟨[], [key]⟩)
      (host.connect key (receiveChunk host key)) fun _ => Since hub ⟨[], [key]⟩ :=
    (quiet.aloof.connect key _ (Aloof.closed.receiveChunk quiet.aloof.hear key)).ensures
      (stable_since hub ⟨[], [key]⟩)
  have stores : Ensures Aside (Since hub ⟨[], [key]⟩)
      (Task.atomically fun s => store (mint key s).1 (mint key s).2)
      fun kept s => kept = none ∧ Replaced key hub s :=
    Task.ensures_atomically fun s hs => replaced_store hs
  refine Task.ensures_then true claims (Task.ensures_bind connects fun outcome => ?_)
  cases outcome with
  | error failure =>
    exact Task.ensures_bind (Task.ensures_modify fun s hs => replaced_abandon hs) fun _ =>
      Task.ensures_done fun _ => id
  | ok => exact Task.ensures_then none stores (Task.ensures_done fun _ => id)

end Bus

end RouteBus
