import RouteBus.Bus.Failure

/-!
# Paths

Files are found under a root by the URI of a stream or request. The URI is a path
below the root; a segment that would lead upwards is refused.
-/

namespace RouteBus.Files

def segments : List Char → List (List Char)
  | [] => [[]]
  | c :: cs =>
    if c = '/' then [] :: segments cs
    else match segments cs with
      | [] => [[c]]
      | segment :: rest => (c :: segment) :: rest

def parentSegment : List Char := ['.', '.']

def isAbsolute (path : List Char) : Bool := path.head? == some '/'

/-- Goes on from `root` along `path`. An absolute path leads to the same place from everywhere. -/
def join (root path : List Char) : List Char :=
  if isAbsolute path then path
  else match root.getLast? with
    | none | some '/' => root ++ path
    | some _ => root ++ '/' :: path

/-- The path of the file for a URI. Slashes in front do not count. -/
def pathFor (root uri extension : String) : Except TransportFailure String :=
  if (segments uri.toList).contains parentSegment then .error ⟨uri, "parent segments are not allowed"⟩
  else
    let name := uri.toList.dropWhile (· == '/') ++ '.' :: extension.toList
    .ok (String.ofList (join root.toList name))

def requestExtension : String := "json"

def streamExtension : String := "jsonl"

end RouteBus.Files
