import RouteBus.Proofs.Task.Labels

/-!
# Duties

A step may take duties on and may discharge some that its task holds; `deal` says
which steps do what. A task that keeps to the deals and ends without duties may run
among others of its kind, and what all of them hold together is accounted for.
-/

namespace RouteBus.Task

/-- Holding `held`, the task keeps to the deals and ends with nothing held. -/
def Settles (deal : σ → σ → Multiset δ → Multiset δ → Prop) (held : Multiset δ) :
    Task σ α → Prop
  | .done _ => held = 0
  | .act effect next =>
    ∀ s, ∃ held', Deals deal s (effect s) held held' ∧ Settles deal held' (next s)
  | .yield rest => Settles deal held rest

variable {deal : σ → σ → Multiset δ → Multiset δ → Prop}

-- ---------------------------------------------------------------------------
-- In other terms
-- ---------------------------------------------------------------------------

section
variable {γ : Type} {other : σ → σ → Multiset γ → Multiset γ → Prop} {f : Multiset δ → Multiset γ}

theorem Deals.translate (add : ∀ a b, f (a + b) = f a + f b)
    (hd : ∀ s s' taken given, deal s s' taken given → other s s' (f taken) (f given))
    (h : Deals deal s s' held held') : Deals other s s' (f held) (f held') := by
  obtain ⟨taken, given, rest, rfl, rfl, h⟩ := h
  exact ⟨f taken, f given, f rest, add .., add .., hd _ _ _ _ h⟩

/-- What is held may be told in other terms if the deals can. -/
theorem Settles.translate (zero : f 0 = 0) (add : ∀ a b, f (a + b) = f a + f b)
    (hd : ∀ s s' taken given, deal s s' taken given → other s s' (f taken) (f given))
    {t : Task σ α} (ht : Settles deal held t) : Settles other (f held) t := by
  induction t generalizing held with
  | done value =>
    obtain rfl : held = 0 := ht
    exact zero
  | act effect next ih =>
    intro s
    obtain ⟨held', h, hn⟩ := ht s
    exact ⟨f held', h.translate add hd, ih s hn⟩
  | yield rest ih => exact ih ht

theorem sum_map_of_add (zero : f 0 = 0) (add : ∀ a b, f (a + b) = f a + f b)
    (shares : List (Multiset δ)) : (shares.map f).sum = f shares.sum := by
  induction shares with
  | nil => exact zero.symm
  | cons share shares ih => rw [List.map_cons, List.sum_cons, List.sum_cons, add, ih]

end

theorem Settles.keeps (hd : ∀ s s' taken given, deal s s' taken given → R s s') {t : Task σ α}
    (ht : Settles deal held t) : t.Keeps R := by
  induction t generalizing held with
  | done value => trivial
  | act effect next ih =>
    intro s
    obtain ⟨held', ⟨taken, given, -, -, -, h⟩, hn⟩ := ht s
    exact ⟨hd _ _ taken given h, ih s hn⟩
  | yield rest ih => exact ih ht

-- ---------------------------------------------------------------------------
-- One after another
-- ---------------------------------------------------------------------------

theorem settles_iff {t : Task σ α} :
    Settles deal held t ↔ Owes (fun _ (_ : Unit) => True) (fun _ => deal) held t := by
  induction t generalizing held with
  | done value => exact Iff.rfl
  | act effect next ih => simp only [Settles, Owes, ih, true_and, exists_const]
  | yield rest ih => exact ih

theorem inherited_true : Inherited fun {α} (_ : Task σ α) (_ : Unit) => True :=
  ⟨fun _ _ => trivial⟩

/-- What the first task does not hold is kept for the second. -/
theorem settles_bind {t : Task σ α} {k : α → Task σ β} (ht : Settles deal held t)
    (hk : ∀ a, Settles deal extra (k a)) : Settles deal (held + extra) (t >>= k) := by
  rw [settles_iff] at ht ⊢
  exact owes_bind inherited_true ht fun a => settles_iff.mp (hk a)

/-- A step whose result tells what is held behind it. -/
theorem settles_atomically {f : σ → α × σ} {k : α → Task σ β} (after : α → Multiset δ)
    (hd : ∀ s, Deals deal s (f s).2 held (after (f s).1))
    (hk : ∀ a, Settles deal (after a) (k a)) : Settles deal held (atomically f >>= k) :=
  fun s => ⟨after (f s).1, hd s, hk (f s).1⟩

-- ---------------------------------------------------------------------------
-- Side by side
-- ---------------------------------------------------------------------------

theorem settles_both {t : Task σ α} {u : Task σ β} (ht : Settles deal held t)
    (hu : Settles deal extra u) : Settles deal (held + extra) (t.both u) := by
  rw [settles_iff] at ht hu ⊢
  exact owes_both inherited_true ht hu

theorem settles_alternate {t : Task σ α} {u : Task σ β} (ht : Settles deal held t)
    (hu : Settles deal extra u) : Settles deal (held + extra) (t.alternate u) := by
  rw [settles_iff] at ht hu ⊢
  exact (owes_alternate inherited_true ht hu).1

-- ---------------------------------------------------------------------------
-- Among each other
-- ---------------------------------------------------------------------------

/-- A move of one task is a deal with what they all hold, or changes nothing. -/
theorem Moves.settles {ts : List (Task σ α)} (h : Moves ts s ts' s')
    (hs : List.Forall₂ (Settles deal) shares ts) :
    ∃ shares', List.Forall₂ (Settles deal) shares' ts' ∧
      (Deals deal s s' shares.sum shares'.sum ∨ s' = s ∧ shares' = shares) := by
  induction h generalizing shares with
  | @act effect next ts s =>
    obtain _ | ⟨ht, hts⟩ := hs
    obtain ⟨held', hd, hn⟩ := ht s
    refine ⟨held' :: _, .cons hn hts, .inl ?_⟩
    simpa using hd.frame _
  | resume =>
    obtain _ | ⟨ht, hts⟩ := hs
    exact ⟨_, .cons ht hts, .inr ⟨rfl, rfl⟩⟩
  | later _ ih =>
    obtain _ | @⟨share, _, rest, _, ht, hts⟩ := hs
    obtain ⟨shares', hts', hd | ⟨rfl, rfl⟩⟩ := ih hts
    · refine ⟨share :: shares', .cons ht hts', .inl ?_⟩
      simpa [add_comm share] using hd.frame share
    · exact ⟨share :: shares', .cons ht hts', .inr ⟨rfl, rfl⟩⟩

/-- What every deal keeps of a state and of all that is held, holds throughout. -/
theorem Reaches.settles {ts : List (Task σ α)} (h : Reaches ts s ts' s')
    {Inv : σ → Multiset δ → Prop}
    (keep : ∀ {s s' held held'}, Deals deal s s' held held' → Inv s held → Inv s' held')
    (hs : List.Forall₂ (Settles deal) shares ts) (hi : Inv s shares.sum) :
    ∃ shares', List.Forall₂ (Settles deal) shares' ts' ∧ Inv s' shares'.sum := by
  induction h with
  | refl => exact ⟨shares, hs, hi⟩
  | move _ hm ih =>
    obtain ⟨mid, hmid, hinv⟩ := ih
    obtain ⟨shares', hs', hd | ⟨rfl, rfl⟩⟩ := hm.settles hmid
    · exact ⟨shares', hs', keep hd hinv⟩
    · exact ⟨_, hs', hinv⟩

/-- What deals and company keep of a state and of all that is held, a run keeps. -/
theorem Runs.settles {rely : σ → σ → Prop} {t : Task σ α} (h : Runs rely t s a s')
    {Inv : σ → Multiset δ → Prop}
    (keep : ∀ {s s' held held'}, Deals deal s s' held held' → Inv s held → Inv s' held')
    (company : ∀ {s s' held}, rely s s' → Inv s held → Inv s' held)
    (ht : Settles deal held t) (hi : Inv s held) : Inv s' 0 := by
  induction h generalizing held with
  | done =>
    obtain rfl : held = 0 := ht
    exact hi
  | act _ ih =>
    obtain ⟨held', hd, hn⟩ := ht _
    exact ih hn (keep hd hi)
  | yield hm _ ih => exact ih ht (company hm hi)

end RouteBus.Task
