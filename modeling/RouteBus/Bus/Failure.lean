import RouteBus.Template
import RouteBus.Json.Lexeme

/-!
# Failures of bus operations
-/

namespace RouteBus

structure TransportFailure where
  uri : String
  reason : String
  deriving DecidableEq, Repr

def TransportFailure.message (f : TransportFailure) : String :=
  s!"transport failure for '{f.uri}': {f.reason}"

inductive StreamError where
  | template (error : TemplateError)
  | transport (failure : TransportFailure)
  /-- What came from `uri` does not decode. -/
  | decode (uri : String) (reason : Undecodable)
  deriving DecidableEq, Repr

namespace StreamError

def message : StreamError → String
  | .template error => s!"invalid stream template: {error.message}"
  | .transport failure => failure.message
  | .decode uri _ => s!"unable to decode chunks from '{uri}'"

end StreamError

end RouteBus
