import RouteBus.Template.Matching

/-!
# Topic groups

Listeners register under templates. All listeners of one template form a group,
and groups stand in the order in which their templates first came up. A message
goes to the first group whose template matches its source.
-/

namespace RouteBus

/-- Who receives messages: a mailbox of the bus, or a listener of its surroundings. -/
inductive Listener where
  | mailbox (id : Nat)
  | external (id : Nat)
  deriving DecidableEq, Repr

structure Group where
  template : Template
  /-- In order of registration. -/
  listeners : List Listener
  deriving DecidableEq, Repr

inductive Joining where
  | created (groups : Nat)
  | joined (listeners : Nat)
  deriving DecidableEq, Repr

/-- The group a message goes to: its template, its listeners and how many closed
ones were taken out of it. -/
structure Selection where
  topic : String
  listeners : List Listener
  pruned : Nat
  deriving DecidableEq, Repr

namespace Topics

def join (text : String) (l : Listener) : List Group → Option (List Group × Nat)
  | [] => none
  | g :: gs =>
    if g.template.raw = text then
      some ({ g with listeners := g.listeners ++ [l] } :: gs, g.listeners.length + 1)
    else (join text l gs).map fun (groups, count) => (g :: groups, count)

/-- Registers a listener. A template that cannot be read changes nothing. -/
def subscribe (groups : List Group) (text : String) (l : Listener) :
    Except TemplateError (List Group × Joining) :=
  match join text l groups with
  | some (groups, count) => .ok (groups, .joined count)
  | none => do
    let template ← Template.parse text
    return (groups ++ [⟨template, [l]⟩], .created (groups.length + 1))

def select (closed : Listener → Bool) (source : String) :
    List Group → Option (Selection × List Group)
  | [] => none
  | g :: gs =>
    if g.template.test source then
      let live := g.listeners.filter fun l => !closed l
      some (⟨g.template.raw, live, g.listeners.length - live.length⟩,
        { g with listeners := live } :: gs)
    else (select closed source gs).map fun (selection, groups) => (selection, g :: groups)

end Topics

end RouteBus
