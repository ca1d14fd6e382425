import RouteBus.Template.Matching

/-!
# The connection table

Open connections by key, in ascending order, each key once, and the keys that
are claimed by a connect still under way.
-/

namespace RouteBus

/-- A connection that was made: `serial` counts the connections made so far. -/
structure Handle where
  key : String
  serial : Nat
  deriving DecidableEq, Repr

structure Connections where
  /-- In ascending order of the keys. -/
  opened : List Handle
  pending : List String
  deriving DecidableEq, Repr

namespace Connections

def empty : Connections := ⟨[], []⟩

def keys (c : Connections) : List String := c.opened.map Handle.key

/-- Whether an open or claimed key is matched by `target`, read as a template. A
target that is no template stands for itself alone. -/
def isConnected (c : Connections) (target : String) : Bool :=
  match Template.parse target with
  | .ok template => (c.keys ++ c.pending).any template.test
  | .error _ => (c.keys ++ c.pending).any (· == target)

def reserve (c : Connections) (key : String) : Option Connections :=
  if key ∈ c.keys ∨ key ∈ c.pending then none else some { c with pending := key :: c.pending }

def release (c : Connections) (key : String) : Connections :=
  { c with pending := c.pending.filter (· ≠ key) }

def insertSorted (h : Handle) : List Handle → List Handle
  | [] => [h]
  | x :: xs => if h.key < x.key then h :: x :: xs else x :: insertSorted h xs

/-- Stores a handle in place of the claim on its key. A handle whose key is open
already is not stored but given back. -/
def store (c : Connections) (h : Handle) : Connections × Option Handle :=
  let c := c.release h.key
  if h.key ∈ c.keys then (c, some h) else ({ c with opened := insertSorted h c.opened }, none)

def takeMatching (c : Connections) (template : Template) : List Handle × Connections :=
  (c.opened.filter fun h => template.test h.key,
    { c with opened := c.opened.filter fun h => !template.test h.key })

end Connections

end RouteBus
