/-!
# Arguments

The command line has one option with a value, the path of the configuration,
and one that asks for help.
-/

namespace RouteBus.CommandLine

inductive Request where
  | help
  | run (config : String)
  deriving DecidableEq, Repr

/-- What has been read so far: the path, and the value of an option that is not
settled yet, where `some none` stands for an option whose value is still to come. -/
structure Reading where
  config : Option String
  pending : Option (Option String)
  deriving DecidableEq, Repr

namespace Reading

/-- Settles the pending option. It needs a value that is not empty, and may be given once. -/
def settle? (r : Reading) : Option Reading :=
  match r.pending with
  | none => some r
  | some none => none
  | some (some value) =>
    if value.isEmpty || r.config.isSome then none else some ⟨some value, none⟩

def begin? (r : Reading) (value : Option String) : Option Reading :=
  r.settle?.map fun r => { r with pending := some value }

def finish? (r : Reading) : Option Request := do
  let path ← (← r.settle?).config
  return .run path

end Reading

/-- Reads arguments from left to right. Help is given as soon as it is asked for, if
nothing before it was wrong. -/
def read (r : Reading) : List String → Option Request
  | [] => r.finish?
  | arg :: args =>
    match arg.toList with
    | ['-', '-'] => if args.isEmpty then r.finish? else none
    | '-' :: '-' :: option =>
      let name := option.takeWhile (· ≠ '=')
      let value := (option.dropWhile (· ≠ '=')).tail? |>.map String.ofList
      match String.ofList name, value with
      | "help", none => r.settle?.map fun _ => .help
      | "config", value => do read (← r.begin? value) args
      | _, _ => none
    | '-' :: 'h' :: _ => r.settle?.map fun _ => .help
    | ['-', 'c'] => do read (← r.begin? none) args
    | '-' :: 'c' :: '=' :: value | '-' :: 'c' :: value => do
      read (← r.begin? (some (String.ofList value))) args
    | '-' :: _ :: _ => none
    | _ =>
      match r.pending with
      | some none => read { r with pending := some (some arg) } args
      | _ => none

def parse (args : List String) : Option Request := read ⟨none, none⟩ args

def usage : String := "Usage: configurable-streamer --config <FILE>"

end RouteBus.CommandLine
