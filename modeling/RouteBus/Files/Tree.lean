import RouteBus.Files.Content
import RouteBus.Json.Basic

/-!
# Directory trees

A tree of files in memory, and how a path is walked in it.
-/

namespace RouteBus.Files

inductive Node where
  | file (bytes : Bytes)
  /-- In ascending order of the names. -/
  | directory (entries : List (String × Node))
  deriving Inhabited

namespace Node

def nameLimit : Nat := 255

def pathLimit : Nat := 4095

/-- Puts a node at a path, making directories on the way. A directory that is
there already stays. -/
def insert : Node → List String → Node → Node
  | .directory entries, [], .directory [] => .directory entries
  | _, [], node => node
  | tree, name :: path, node =>
    let entries := match tree with
      | .directory entries => entries
      | .file _ => []
    let child := (member? entries name).getD (.directory [])
    .directory (putMember name (child.insert path node) entries)

/-- Walks names from a directory on; `up` are the directories above it, the nearest first. -/
def walk (up : List Node) (node : Node) : List String → Except Fault Node
  | [] => .ok node
  | name :: names =>
    match node with
    | .file _ => .error .notDirectory
    | .directory entries =>
      if name = "." then walk up node names
      else if name = ".." then
        match up with
        | [] => .error .missing
        | parent :: up => walk up parent names
      else if nameLimit < name.utf8ByteSize then .error .nameTooLong
      else match member? entries name with
        | none => .error .missing
        | some child => walk (node :: up) child names

/-- The names in a path. A slash at the end asks for a directory. -/
def names (path : String) : List String :=
  let segments := segments path.toList
  let named := segments.filter (!·.isEmpty)
  (if segments.getLast? = some [] then named ++ [['.']] else named).map String.ofList

def read (root : Node) (path : String) : Except Fault Bytes :=
  if pathLimit < path.utf8ByteSize then .error .nameTooLong
  else if path.isEmpty || path.toList.head? = some '/' then .error .missing
  else do
    match ← walk [] root (names path) with
    | .file bytes => return bytes
    | .directory _ => throw .isDirectory

end Node

end RouteBus.Files
