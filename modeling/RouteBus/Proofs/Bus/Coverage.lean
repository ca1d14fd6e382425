import RouteBus.Proofs.Bus.Custody

/-!
# What covers a key

An open that finds its key covered makes no connection and says so. What covers the key may be
a claim only, whose connect is in flight and may yet be refused. So the answer holds for good,
as long as nothing is closed, unless each connect that it counted on has failed since.
-/

namespace RouteBus

open Connections (Covers covers_self)
open RouteBus.Task (Reaches Trace own)

/-- What was done from one state to another, if nothing was taken out meanwhile: what was open is
open, and what was claimed is open or claimed, or its connect was refused. -/
structure Onward (hub hub' : Hub ε ν κ) (entries : List (Entry ν)) : Prop where
  history : hub'.history = entries ++ hub.history
  opened : withdrawals entries = [] → ∀ key ∈ hub.bus.connections.keys,
    key ∈ hub'.bus.connections.keys
  claimed : withdrawals entries = [] → ∀ key ∈ hub.bus.connections.pending,
    key ∈ hub'.bus.connections.keys ∨ key ∈ hub'.bus.connections.pending ∨
      ∃ failure, .event (.openFailed key failure) ∈ entries

variable {ε ν κ : Type} {hub hub' last : Hub ε ν κ} {host : Host ε ν κ}

-- ---------------------------------------------------------------------------
-- One step
-- ---------------------------------------------------------------------------

theorem Onward.of_kept (history : hub'.history = entries ++ hub.history)
    (opened : ∀ key ∈ hub.bus.connections.keys, key ∈ hub'.bus.connections.keys)
    (claimed : ∀ key ∈ hub.bus.connections.pending,
      key ∈ hub'.bus.connections.keys ∨ key ∈ hub'.bus.connections.pending) :
    Onward hub hub' entries :=
  ⟨history, fun _ => opened, fun _ key hk => (claimed key hk).imp_right .inl⟩

theorem Onward.trans (h : Onward hub hub' before) (h' : Onward hub' last after) :
    Onward hub last (after ++ before) := by
  have split : withdrawals (after ++ before) = withdrawals after ++ withdrawals before :=
    List.flatMap_append
  constructor
  · rw [h'.history, h.history, List.append_assoc]
  · intro none key hk
    obtain ⟨later, earlier⟩ := List.append_eq_nil_iff.mp (split ▸ none)
    exact h'.opened later key (h.opened earlier key hk)
  · intro none key hk
    obtain ⟨later, earlier⟩ := List.append_eq_nil_iff.mp (split ▸ none)
    rcases h.claimed earlier key hk with hk | hk | ⟨failure, hf⟩
    · exact .inl (h'.opened later key hk)
    · rcases h'.claimed later key hk with hk | hk | ⟨failure, hf⟩
      · exact .inl hk
      · exact .inr (.inl hk)
      · exact .inr (.inr ⟨failure, List.mem_append_left _ hf⟩)
    · exact .inr (.inr ⟨failure, List.mem_append_right _ hf⟩)

theorem Connections.mem_release {c : Connections} (hk : key ∈ c.pending) (other : String) :
    key = other ∨ key ∈ (c.release other).pending := by
  by_cases he : key = other
  · exact .inl he
  · exact .inr (List.mem_filter.mpr ⟨hk, by simpa using he⟩)

theorem onward_store (key : String) (hub : Hub ε ν κ) :
    ∃ entries, Onward hub (Bus.store (Bus.mint key hub).1 (Bus.mint key hub).2).2 entries := by
  by_cases hk : key ∈ hub.bus.connections.keys
  · rw [Bus.store_mint_back hk]
    refine ⟨[_], .of_kept rfl (fun _ => id) fun other ho => ?_⟩
    rcases Connections.mem_release ho key with rfl | released
    · exact .inl hk
    · exact .inr released
  · have kept : ∀ other ∈ hub.bus.connections.keys,
        other ∈ (hub.bus.connections.store (Bus.mint key hub).1).1.keys := fun other ho =>
      (Connections.mem_keys_store (h := (Bus.mint key hub).1) hk).mpr (.inr ho)
    have stored : key ∈ (hub.bus.connections.store (Bus.mint key hub).1).1.keys :=
      (Connections.mem_keys_store (h := (Bus.mint key hub).1) hk).mpr (.inl rfl)
    have pending : (hub.bus.connections.store (Bus.mint key hub).1).1.pending =
        (hub.bus.connections.release key).pending := by
      rw [Connections.store_eq_none (h := (Bus.mint key hub).1) hk]
      rfl
    rw [Bus.store_mint hk]
    refine ⟨[_, _], .of_kept rfl kept fun other ho => ?_⟩
    rcases Connections.mem_release ho key with rfl | released
    · exact .inl stored
    · exact .inr (pending ▸ released)

theorem Handling.onward (h : Handling hub hub' taken given) : ∃ entries, Onward hub hub' entries := by
  cases h with
  | deed h =>
    obtain ⟨entries, he, -⟩ := h.aside.history
    exact ⟨entries, .of_kept he (by simp [h.aside.connections]) (by simp +contextual [h.aside.connections])⟩
  | claim h =>
    obtain ⟨-, -, rfl⟩ := Connections.reserve_eq_some_iff.mp h
    exact ⟨[_], .of_kept rfl (fun _ => id) fun _ hk => .inr (List.mem_cons_of_mem _ hk)⟩
  | @store key | @giveBack key => exact onward_store key hub
  | @abandon _ key refusal =>
    refine ⟨[_], rfl, fun _ _ => id, fun _ other ho => ?_⟩
    rcases Connections.mem_release ho key with rfl | released
    · exact .inr (.inr ⟨refusal, List.mem_cons_self⟩)
    · exact .inr (.inl released)
  | withdraw h =>
    cases h
    rename_i template
    refine ⟨[_], rfl, fun none key hk => ?_, fun _ _ hk => .inr (.inl hk)⟩
    -- Nothing was taken, so the template matches no key that is open.
    refine Connections.mem_keys_takeMatching.mpr ⟨hk, ?_⟩
    obtain ⟨handle, hm, rfl⟩ := List.mem_map.mp hk
    simp only [withdrawals, Entry.withdrawals, List.flatMap_singleton, List.filter_eq_nil_iff,
      Bool.not_eq_true] at none
    exact none handle hm
  | closing | closed | discard => exact ⟨[_], .of_kept rfl (fun _ => id) fun _ => .inr⟩

-- ---------------------------------------------------------------------------
-- The whole of a run
-- ---------------------------------------------------------------------------

def Handled (hub hub' : Hub ε ν κ) : Prop := ∃ taken given, Handling hub hub' taken given

theorem Client.handled {t : Task (Hub ε ν κ) α} (client : Client t) : t.Keeps Handled :=
  client.errands.keeps fun _ _ _ _ h => ⟨_, _, h⟩

theorem onward_reaches {tasks tasks' : List (Task (Hub ε ν κ) α)}
    (handled : ∀ t ∈ tasks, t.Keeps Handled) (h : Reaches tasks hub tasks' hub') :
    (∀ t ∈ tasks', t.Keeps Handled) ∧ ∃ entries, Onward hub hub' entries := by
  have step : ∀ s s' : Hub ε ν κ, Handled s s' →
      (∃ entries, Onward hub s entries) → ∃ entries, Onward hub s' entries := by
    rintro s s' ⟨taken, given, hd⟩ ⟨before, hb⟩
    obtain ⟨after, ha⟩ := hd.onward
    exact ⟨after ++ before, hb.trans ha⟩
  exact h.keeps handled step ⟨[], .of_kept rfl (fun _ => id) fun _ => .inr⟩

/-- An open is false only if it found its key covered, in the one step that it made. -/
theorem Call.Did.told {template : String} {args : List String}
    (h : (Call.openStream template args).Did host steps (some (.opened (.ok false)))) :
    ∃ target s, resolve template args = .ok target ∧
      steps = [(s, s.record (.openSkipped target.uri))] ∧
      ∃ other ∈ s.bus.connections.keys ++ s.bus.connections.pending, Covers target.uri other := by
  generalize he : some (Call.Result.opened (.ok false)) = answer at h
  cases h with
  | unresolved => cases he
  | opens resolved opens =>
    cases opens with
    | unbegun | connecting | refused | stored => cases he
    | covered covered => exact ⟨_, _, resolved, rfl, covered⟩

/-- Once nothing is in flight, what covered the key when an open was told so covers it still, or
was in flight and has failed. -/
theorem Onward.covered (h : Onward (hub.record (.openSkipped key)) hub' entries)
    (untaken : withdrawals entries = []) (ended : hub'.bus.connections.pending = [])
    (flights : (inFlight hub.history).Perm hub.bus.connections.pending)
    (covered : ∃ other ∈ hub.bus.connections.keys ++ hub.bus.connections.pending,
      Covers key other) :
    (∃ other ∈ hub'.bus.connections.keys, Covers key other) ∨
      (∃ other ∈ inFlight hub.history, Covers key other) ∧
        ∀ other ∈ inFlight hub.history, Covers key other →
          ∃ failure, .event (.openFailed other failure) ∈ entries := by
  by_cases kept : ∃ other ∈ hub'.bus.connections.keys, Covers key other
  · exact .inl kept
  · refine .inr ⟨?_, fun other hf covers => ?_⟩
    · obtain ⟨other, ho, covers⟩ := covered
      rcases List.mem_append.mp ho with opened | claimed
      · exact absurd ⟨other, h.opened untaken other opened, covers⟩ kept
      · exact ⟨other, flights.mem_iff.mpr claimed, covers⟩
    · rcases h.claimed untaken other (flights.mem_iff.mp hf) with opened | claimed | refused
      · exact absurd ⟨other, opened, covers⟩ kept
      · simp [ended] at claimed
      · exact refused

/-- What the answer of an open counts on comes to pass, or each connect that was in flight when it
was answered, and that it counted on, was refused after it. -/
theorem covered_or_refused (lawful : host.Lawful) (calls : List Call) (idle : Idle hub)
    {tasks : List (Task (Hub ε ν κ) Call.Result)} {trace : List (Nat × Hub ε ν κ × Hub ε ν κ)}
    (h : Trace (calls.map (Call.task host)) hub trace tasks hub')
    (ended : ∀ t ∈ tasks, ∃ result, t = .done result)
    (unclosed : withdrawals hub'.history = withdrawals hub.history) {i : Nat}
    {template : String} {args : List String} (call : calls[i]? = some (.openStream template args))
    (answer : tasks[i]? = some (.done (.opened (.ok false)))) :
    ∃ target s, resolve template args = .ok target ∧
      own i trace = [(s, s.record (.openSkipped target.uri))] ∧
      ((∃ key ∈ hub'.bus.connections.keys, Covers target.uri key) ∨
        ∃ after, hub'.history = after ++ .event (.openSkipped target.uri) :: s.history ∧
          (∃ key ∈ inFlight s.history, Covers target.uri key) ∧
          ∀ key ∈ inFlight s.history, Covers target.uri key →
            ∃ failure, .event (.openFailed key failure) ∈ after) := by
  have clients := Call.clients lawful calls
  obtain ⟨t, left, did⟩ := Call.did_of_trace lawful calls idle h call
  obtain rfl := Option.some.inj (left.symm.trans answer)
  obtain ⟨target, s, resolved, answered, covered⟩ := did.told
  -- The run is cut at the step that the answer comes from.
  obtain ⟨mid, mid', reaches, move, behind⟩ :=
    h.moves (Task.mem_of_mem_own (answered ▸ List.mem_singleton_self _))
  obtain ⟨handled, earlier, ahead⟩ :=
    onward_reaches (fun t ht => (clients t ht).handled) (reaches.trans (.move .refl move))
  obtain ⟨-, later, onward⟩ := onward_reaches handled behind
  have untaken : withdrawals later = [] := by
    have whole := congrArg withdrawals (onward.history.trans (congrArg _ ahead.history))
    simp only [withdrawals, List.flatMap_append] at whole unclosed ⊢
    have lengths := congrArg List.length (whole.symm.trans unclosed)
    simp only [List.length_append] at lengths
    exact List.eq_nil_of_length_eq_zero (by omega)
  have landed := (singleFlight_of_reaches clients idle h.reaches).ended ended
  have flights := (singleFlight_of_reaches clients idle reaches).flights
  refine ⟨target, s, resolved, answered, ?_⟩
  apply (onward.covered untaken landed flights covered).imp_right
  exact fun failed => ⟨later, onward.history, failed⟩

def refusing : Rehearsal.Staging :=
  .new "bus" "/" { Rehearsal.Scene.new with connectYields := 1, wire := Rehearsal.Wire.new.refuse "k" }

def wanting : Call := .openStream "k" []

def asked : Task Rehearsal.Staging Call.Result := wanting.task Rehearsal.host

def promised : Rehearsal.Staging := (asked.run (asked.turn refusing).2).2

theorem reaches_refused :
    Reaches ([wanting, wanting].map (Call.task Rehearsal.host)) refusing
      [.done (.opened (.error (.transport ⟨"k", "connection refused"⟩))), .done (.opened (.ok false))]
      ((asked.turn refusing).1.run promised).2 := by
  have begun := Reaches.turn asked [asked] refusing
  have promise := begun.trans (Reaches.run asked [] (asked.turn refusing).2).later
  have ended := promise.trans (Reaches.run (asked.turn refusing).1 [_] promised)
  have first : ((asked.turn refusing).1.run promised).1 =
      .opened (.error (.transport ⟨"k", "connection refused"⟩)) := by cbv
  have second : (asked.run (asked.turn refusing).2).1 = .opened (.ok false) := by cbv
  rwa [first, second] at ended

theorem covered_or_refused_promised :
    ∃ trace s after, Trace ([wanting, wanting].map (Call.task Rehearsal.host)) refusing trace
        [.done (.opened (.error (.transport ⟨"k", "connection refused"⟩))),
          .done (.opened (.ok false))] ((asked.turn refusing).1.run promised).2 ∧
      own 1 trace = [(s, s.record (.openSkipped "k"))] ∧
      ((asked.turn refusing).1.run promised).2.history =
        after ++ .event (.openSkipped "k") :: s.history ∧
      ∃ key ∈ inFlight s.history, Covers "k" key ∧
        ∃ failure, .event (.openFailed key failure) ∈ after := by
  have closed : ((asked.turn refusing).1.run promised).2.bus.connections.keys = [] := by cbv
  have untaken : withdrawals ((asked.turn refusing).1.run promised).2.history = [] := by cbv
  have resolved : resolve "k" [] = .ok ⟨"k", true⟩ := by cbv
  obtain ⟨trace, h⟩ := reaches_refused.exists_trace
  obtain ⟨target, s, ht, answered, covered | ⟨after, he, ⟨key, hk, covers⟩, failed⟩⟩ :=
    covered_or_refused Rehearsal.host_lawful [wanting, wanting] (idle_new ..) h
      (by simp) (untaken.trans rfl) (i := 1) rfl rfl
  · simp [closed] at covered
  · obtain rfl := Except.ok.inj (resolved.symm.trans ht)
    exact ⟨trace, s, after, h, answered, he, key, hk, covers, failed key hk covers⟩

/-- Told that its key is covered, a caller may find it covered by nothing. -/
theorem promise_broken :
    ¬ ∀ (opens : List (String × List String)) (hub hub' : Rehearsal.Staging)
        (tasks : List (Task Rehearsal.Staging Call.Result)) (i : Nat) (template : String)
        (args : List String) (target : Target), Idle hub →
      Reaches (opens.map fun call => (Call.openStream call.1 call.2).task Rehearsal.host) hub tasks hub' →
      (∀ t ∈ tasks, ∃ result, t = .done result) → opens[i]? = some (template, args) →
      tasks[i]? = some (.done (.opened (.ok false))) → resolve template args = .ok target →
        ∃ key ∈ hub'.bus.connections.keys, Covers target.uri key := by
  intro claim
  have closed : ((asked.turn refusing).1.run promised).2.bus.connections.keys = [] := by cbv
  have resolved : resolve "k" [] = .ok ⟨"k", true⟩ := by cbv
  obtain ⟨key, hk, -⟩ := claim [("k", []), ("k", [])] refusing _ _ 1 "k" [] _ (idle_new ..)
    reaches_refused (by simp) rfl rfl resolved
  simp [closed] at hk

end RouteBus
