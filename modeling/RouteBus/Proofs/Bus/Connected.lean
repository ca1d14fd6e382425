import RouteBus.Bus.Streams
import RouteBus.Proofs.Bus.Connections

/-!
# What counts as connected

A target is looked for among the keys that are open or claimed, and it may be read in three ways:
as a template with markers, as a template that stands for itself alone, or as no template at all.
Under each of them a key is found under its own name.
-/

namespace RouteBus

namespace Connections

variable {c : Connections} {key target text : String}

/-- A target without markers: it is no template, or one that stands for itself alone. -/
def Literal (target : String) : Prop :=
  ∀ t, Template.parse target = .ok t → t.markerCount = 0

theorem Literal.covers_iff (literal : Literal target) : Covers target key ↔ key = target := by
  constructor
  · intro h
    rcases h.eq_or_marked with same | ⟨t, parsed, marked, -⟩
    · exact same
    · exact absurd (literal t parsed) (Nat.ne_of_gt marked)
  · rintro rfl
    exact covers_self key

theorem covers_resolve_nil {t : Template} (parsed : Template.parse text = .ok t) :
    Covers (t.resolve []).uri key ↔ t.test key = true := by
  unfold Covers
  rw [Template.resolve_nil parsed, parsed]

theorem isConnected_of_mem (hm : key ∈ c.keys ++ c.pending) : c.isConnected key = true :=
  isConnected_iff.mpr ⟨key, hm, covers_self key⟩

/-- A key that is not connected can be claimed. -/
theorem reserve_of_unconnected (free : c.isConnected key = false) :
    c.reserve key = some { c with pending := key :: c.pending } := by
  have absent : key ∉ c.keys ++ c.pending := by
    intro hm
    simp [isConnected_of_mem hm] at free
  obtain ⟨closed, unclaimed⟩ := not_or.mp fun h => absent (List.mem_append.mpr h)
  exact reserve_eq_some_iff.mpr ⟨closed, unclaimed, rfl⟩

theorem Literal.isConnected_iff_mem (literal : Literal target) :
    c.isConnected target = true ↔ target ∈ c.keys ++ c.pending := by
  simp only [isConnected_iff, literal.covers_iff, exists_eq_right]

theorem isConnected_resolve_nil {t : Template} (parsed : Template.parse text = .ok t) :
    c.isConnected (t.resolve []).uri = true ↔
      ∃ key ∈ c.keys ++ c.pending, t.test key = true := by
  simp only [isConnected_iff, covers_resolve_nil parsed]

end Connections

namespace Bus

open Connections (Literal)

variable {ε ν κ : Type}

/-- What is looked at first decides whether a key is claimed: it can be claimed then. -/
theorem claim_eq (key : String) (hub : Hub ε ν κ) :
    claim key hub =
      if hub.bus.connections.isConnected key then (false, hub.record (.openSkipped key))
      else (true, (hub.withConnections { hub.bus.connections with
        pending := key :: hub.bus.connections.pending }).record (.openStarted key)) := by
  unfold claim
  cases connected : hub.bus.connections.isConnected key with
  | true => rfl
  | false => simp [Connections.reserve_of_unconnected connected]

/-- What is connected in a table of any keys, whether they can be read as templates or not. -/
theorem connected_by_key (hub : Hub ε ν κ) :
    (∀ text t, Template.parse text = .ok t → t.test text = true) ∧
    (∀ key ∈ hub.bus.connections.keys ++ hub.bus.connections.pending,
      hub.bus.connections.isConnected key = true) ∧
    (∀ key, hub.bus.connections.isConnected key = false →
      (hub.bus.connections.reserve key).isSome ∧
        claim key hub = (true, (hub.withConnections { hub.bus.connections with
          pending := key :: hub.bus.connections.pending }).record (.openStarted key))) ∧
    (∀ key, hub.bus.connections.isConnected key = true →
      claim key hub = (false, hub.record (.openSkipped key))) ∧
    (∀ target, Literal target → (hub.bus.connections.isConnected target = true ↔
      target ∈ hub.bus.connections.keys ++ hub.bus.connections.pending)) ∧
    ∀ text t, Template.parse text = .ok t →
      (hub.bus.connections.isConnected (t.resolve []).uri = true ↔
        ∃ key ∈ hub.bus.connections.keys ++ hub.bus.connections.pending, t.test key = true) := by
  refine ⟨?_, ?_, ?_, ?_, ?_, ?_⟩
  · intro text t parsed
    exact Template.test_self parsed
  · intro key hm
    exact Connections.isConnected_of_mem hm
  · intro key free
    simp [claim_eq, free, Connections.reserve_of_unconnected free]
  · intro key connected
    simp [claim_eq, connected]
  · intro target literal
    exact literal.isConnected_iff_mem
  · intro text t parsed
    exact Connections.isConnected_resolve_nil parsed

def mixed : Hub Unit Unit Unit :=
  (Hub.new "bus" "/" ()).withConnections ⟨[⟨"s/:-", 0⟩, ⟨"s/a", 1⟩], ["t/*"]⟩

theorem connected_by_key_mixed :
    (∀ key ∈ ["s/:-", "s/a", "t/*"], mixed.bus.connections.isConnected key = true) ∧
    mixed.bus.connections.isConnected "s/:x" = true ∧
    mixed.bus.connections.isConnected "t/b" = false ∧
    (claim "t/b" mixed).1 = true := by
  have named : Template.parse "s/:x" = .ok ⟨"s/:x", [.literal ['s', '/'], .named ['x']]⟩ := by cbv
  have plain : Template.parse "t/b" = .ok ⟨"t/b", [.literal ['t', '/', 'b']]⟩ := by cbv
  have literal : Literal "t/b" := by
    intro t parsed
    cases plain.symm.trans parsed
    rfl
  obtain ⟨-, keys, free, -, literally, marked⟩ := connected_by_key mixed
  have unconnected : mixed.bus.connections.isConnected "t/b" = false := by
    have absent : "t/b" ∉ mixed.bus.connections.keys ++ mixed.bus.connections.pending := by decide
    simpa using mt (literally "t/b" literal).mp absent
  refine ⟨keys, ?_, unconnected, ?_⟩
  · exact (marked "s/:x" _ named).mpr ⟨"s/a", by decide, by cbv⟩
  · obtain ⟨-, claimed⟩ := free "t/b" unconnected
    rw [claimed]

end Bus

end RouteBus
