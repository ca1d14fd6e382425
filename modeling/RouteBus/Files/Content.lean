import RouteBus.Files.Path
import RouteBus.Unicode.Blank

/-!
# Contents of files

What is read from a file, or why it cannot be, and how contents become the body
of a request or the chunks of a stream.
-/

namespace RouteBus.Files

abbrev Bytes := List UInt8

inductive Fault where
  | missing
  | notDirectory
  | isDirectory
  | nameTooLong
  | nulByte
  | notText
  | other (message : String)
  deriving DecidableEq, Repr

def Fault.message : Fault → String
  | .missing => "No such file or directory (os error 2)"
  | .notDirectory => "Not a directory (os error 20)"
  | .isDirectory => "Is a directory (os error 21)"
  | .nameTooLong => "File name too long (os error 36)"
  | .nulByte => "file name contained an unexpected NUL byte"
  | .notText => "stream did not contain valid UTF-8"
  | .other message => message

abbrev Reader := String → Except Fault Bytes

/-- A path with a NUL in it is not even looked for. -/
def checkPath (path : String) : Except Fault Unit :=
  if '\x00' ∈ path.toList then .error .nulByte else .ok ()

def textOf (bytes : Bytes) : Except Fault String :=
  match String.fromUTF8? ⟨bytes.toArray⟩ with
  | some text => .ok text
  | none => .error .notText

-- ---------------------------------------------------------------------------
-- Lines
-- ---------------------------------------------------------------------------

/-- Cuts off a carriage return at the end, which is the head of a reversed line. -/
def finishLine : Bytes → Bytes
  | 13 :: line => line.reverse
  | line => line.reverse

/-- The lines of a text. A line feed ends a line; `line` is what there is of the
current one, the last byte first. -/
def cutLines (line : Bytes) : Bytes → List Bytes
  | [] => if line.isEmpty then [] else [line.reverse]
  | b :: rest => if b = 10 then finishLine line :: cutLines [] rest else cutLines (b :: line) rest

/-- Lines up to the first that is not text, and whether there is one that is not. -/
def readLines : List Bytes → List String × Bool
  | [] => ([], false)
  | line :: rest =>
    match textOf line with
    | .error _ => ([], true)
    | .ok text =>
      let (texts, broken) := readLines rest
      (text :: texts, broken)

def lines (bytes : Bytes) : List String × Bool := readLines (cutLines [] bytes)

def chunks (bytes : Bytes) : List String :=
  (lines bytes).1.filter fun line => !line.toList.all Unicode.isBlank

-- ---------------------------------------------------------------------------
-- Requests and streams
-- ---------------------------------------------------------------------------

def bodyOf (uri path : String) (content : Except Fault Bytes) : Except TransportFailure String :=
  match content >>= textOf with
  | .ok text => .ok text
  | .error fault => .error ⟨uri, s!"{path}: {fault.message}"⟩

/-- What was read from `path` as the chunks of a stream. A directory can be opened
as a stream, but there is nothing in it to read. -/
def chunksOf (uri path : String) (content : Except Fault Bytes) :
    Except TransportFailure (List String) :=
  match content with
  | .ok bytes => .ok (chunks bytes)
  | .error .isDirectory => .ok []
  | .error fault => .error ⟨uri, s!"{path}: {fault.message}"⟩

def read (reader : Reader) (path : String) : Except Fault Bytes := do
  checkPath path
  reader path

def request (reader : Reader) (root uri : String) : Except TransportFailure String := do
  let path ← pathFor root uri requestExtension
  bodyOf uri path (read reader path)

def connect (reader : Reader) (root uri : String) : Except TransportFailure (List String) := do
  let path ← pathFor root uri streamExtension
  chunksOf uri path (read reader path)

end RouteBus.Files
