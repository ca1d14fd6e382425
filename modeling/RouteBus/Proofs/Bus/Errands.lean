import RouteBus.Proofs.Bus.Deals

/-!
# What tasks have in hand

The duties of a task, told more closely: what it has in hand of the connections that it
took out of the table, up to the end of their disconnects.
-/

namespace RouteBus

open RouteBus.Task (Settles Deals)

inductive Stage where
  /-- Taken out of the table and still to be disconnected. -/
  | waiting
  /-- Being disconnected. -/
  | leaving
  /-- Not taken by the table and still to be disconnected. -/
  | refused
  deriving DecidableEq

inductive Errand where
  /-- The connect to a key is in flight. -/
  | connect (key : String)
  | part (stage : Stage) (handle : Handle)
  deriving DecidableEq

inductive Handling : Hub ε ν κ → Hub ε ν κ → Multiset Errand → Multiset Errand → Prop
  | deed : Deed hub hub' → Handling hub hub' 0 0
  | claim : hub.bus.connections.reserve key = some connections →
      Handling hub ((hub.withConnections connections).record (.openStarted key)) 0 {.connect key}
  | store : (Bus.store (Bus.mint key hub).1 (Bus.mint key hub).2).1 = none →
      Handling hub (Bus.store (Bus.mint key hub).1 (Bus.mint key hub).2).2 {.connect key} 0
  | giveBack : (Bus.store (Bus.mint key hub).1 (Bus.mint key hub).2).1 = some handle →
      Handling hub (Bus.store (Bus.mint key hub).1 (Bus.mint key hub).2).2
        {.connect key} {.part .refused handle}
  | abandon : Handling hub (Bus.abandon key refusal hub) {.connect key} 0
  | withdraw : hub.bus.connections.takeMatching template = (handles, connections) →
      Handling hub ((hub.withConnections connections).record (.withdrawn handles)) 0
        (handles.map (Errand.part .waiting))
  | closing : Handling hub (hub.record (.closing handle))
      {.part .waiting handle} {.part .leaving handle}
  | closed : Handling hub (hub.record (.closed template handle)) {.part .leaving handle} 0
  | discard : Handling hub (hub.record (.closing handle)) {.part .refused handle} 0

variable {ε ν κ α β : Type} {hub hub' : Hub ε ν κ} {host : Host ε ν κ}

-- ---------------------------------------------------------------------------
-- As duties
-- ---------------------------------------------------------------------------

def Errand.duty? : Errand → Option Duty
  | .connect key => some (.connect key)
  | .part .waiting handle | .part .refused handle => some (.disconnect handle)
  | .part .leaving _ => none

def duties (held : Multiset Errand) : Multiset Duty := held.filterMap Errand.duty?

theorem duties_add (held extra : Multiset Errand) :
    duties (held + extra) = duties held + duties extra :=
  Multiset.filterMap_add ..

@[simp] theorem duties_zero : duties 0 = 0 := rfl

theorem duties_waiting (handles : List Handle) :
    duties (handles.map (Errand.part .waiting)) = (handles.map Duty.disconnect : List Duty) := by
  rw [duties, Multiset.filterMap_coe, List.filterMap_map]
  exact congrArg _ (congrFun List.filterMap_eq_map handles)

theorem Handling.deal (h : Handling hub hub' taken given) :
    Deal hub hub' (duties taken) (duties given) := by
  cases h with
  | deed h => exact .aside h.aside
  | claim h => exact .claim h
  | store h => exact .store h
  | giveBack h => exact .giveBack h
  | abandon => exact .abandon
  | withdraw h =>
    rw [duties_waiting]
    exact .withdraw h
  | closing => exact .disconnect
  | closed => exact .closed
  | discard => exact .disconnect

-- ---------------------------------------------------------------------------
-- Tasks that bring their errands to an end
-- ---------------------------------------------------------------------------

theorem settles_tell {event : Event} (h : event.ofConnection = false) :
    Settles Handling 0 (Hub.tell event : Task (Hub ε ν κ) Unit) :=
  fun _ => ⟨0, .all (.deed (.tell event h)), rfl⟩

/-- A bind whose first task holds nothing leaves all errands to the second. -/
theorem settles_then {t : Task (Hub ε ν κ) α} {k : α → Task (Hub ε ν κ) β}
    (ht : Settles Handling 0 t) (hk : ∀ a, Settles Handling held (k a)) :
    Settles Handling held (t >>= k) := by
  rw [← zero_add held]
  exact Task.settles_bind ht hk

namespace Bus

theorem handles_claim (key : String) (hub : Hub ε ν κ) :
    Deals Handling hub (claim key hub).2 0
      (if (claim key hub).1 then {.connect key} else 0) := by
  unfold claim
  split
  · exact .all (.deed (.tell _ rfl))
  · split
    · exact .all (.deed (.tell _ rfl))
    · exact .all (.claim ‹_›)

theorem handles_store (key : String) (hub : Hub ε ν κ) :
    Deals Handling hub (store (mint key hub).1 (mint key hub).2).2 {.connect key}
      ((store (mint key hub).1 (mint key hub).2).1.map (Errand.part .refused)).toList := by
  cases h : (store (mint key hub).1 (mint key hub).2).1 with
  | none => exact .all (.store h)
  | some handle => exact .all (.giveBack h)

theorem handles_withdraw (template : Template) (target : Target) (hub : Hub ε ν κ) :
    Deals Handling hub (withdraw template target hub).2 0
      ((withdraw template target hub).1.map (Errand.part .waiting)) := by
  unfold withdraw
  split
  · exact .all (.deed (.tell _ rfl))
  · exact .all (.withdraw rfl)

theorem settles_disconnectAll (hd : ∀ handle, Settles Handling 0 (host.disconnect handle))
    (template : Template) (handles : List Handle) :
    Settles Handling (handles.map (Errand.part .waiting)) (disconnectAll host template handles) := by
  induction handles with
  | nil => rfl
  | cons handle handles ih =>
    rw [List.map_cons, ← Multiset.cons_coe, ← Multiset.singleton_add]
    intro hub
    refine ⟨_, (Deals.all Handling.closing).frame _, settles_then (hd handle) fun _ hub => ?_⟩
    refine ⟨_, (Deals.all Handling.closed).frame _, ?_⟩
    rw [zero_add]
    exact ih

theorem settles_closeTarget (hd : ∀ handle, Settles Handling 0 (host.disconnect handle))
    (template : Template) (target : Target) :
    Settles Handling 0 (closeTarget host template target) := by
  refine Task.settles_atomically (fun handles => handles.map (Errand.part .waiting))
    (handles_withdraw template target) fun handles => ?_
  rw [← add_zero (Multiset.ofList _)]
  exact Task.settles_bind (settles_disconnectAll hd template handles) fun _ => rfl

theorem settles_openTarget {key : String}
    (hc : Settles Handling 0 (host.connect key (receiveChunk host key)))
    (hd : ∀ handle, Settles Handling 0 (host.disconnect handle)) :
    Settles Handling 0 (openTarget host key) := by
  refine Task.settles_atomically (fun claimed => if claimed then {.connect key} else 0)
    (handles_claim key) fun claimed => ?_
  cases claimed with
  | false => rfl
  | true =>
    -- The claim is not the connect's: what runs meanwhile cannot give it up.
    refine settles_then hc fun result => ?_
    cases result with
    | error refusal => exact fun _ => ⟨0, .all .abandon, rfl⟩
    | ok =>
      refine Task.settles_atomically (fun back => (back.map (Errand.part .refused)).toList)
        (handles_store key) fun back => ?_
      cases back with
      | none => rfl
      | some handle =>
        intro hub
        refine ⟨0, .all .discard, settles_then (hd handle) fun _ => ?_⟩
        exact settles_then (settles_tell rfl) fun _ => rfl

end Bus

theorem Client.errands {t : Task (Hub ε ν κ) α} (h : Client t) : Settles Handling 0 t := by
  induction h with
  | done value => rfl
  | act hd _ ih => exact fun hub => ⟨0, .all (.deed (hd hub)), ih hub⟩
  | yield _ ih => exact ih
  | bind _ _ ht hk => exact settles_then ht hk
  | both _ _ ht hu => exact Task.settles_both ht hu
  | alternate _ _ ht hu => exact Task.settles_alternate ht hu
  | opening host key _ _ hc hd => exact Bus.settles_openTarget hc hd
  | closing host template target _ hd => exact Bus.settles_closeTarget hd template target

theorem Client.settles {t : Task (Hub ε ν κ) α} (h : Client t) : Settles Deal 0 t := by
  rw [← duties_zero]
  exact h.errands.translate rfl duties_add fun _ _ _ _ h => h.deal

end RouteBus
