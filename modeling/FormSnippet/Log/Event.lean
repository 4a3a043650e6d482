/-!
# Event — what is worth a line in the log

An event has a level, a target that names the part of the program it comes from, and fields.  A
field is shown as it is, or quoted where its text comes from the command line.
-/

namespace FormSnippet
namespace Log

/-! ## Levels -/

/-- From the most severe to the most detailed. -/
inductive Level
  | error
  | warn
  | info
  | debug
  | trace
  deriving DecidableEq, Repr

namespace Level

def rank : Level → Nat
  | .error => 1
  | .warn => 2
  | .info => 3
  | .debug => 4
  | .trace => 5

/-- The name of a level in capitals, padded on the left to five columns. -/
def label : Level → String
  | .error => "ERROR"
  | .warn => " WARN"
  | .info => " INFO"
  | .debug => "DEBUG"
  | .trace => "TRACE"

end Level

/-! ## Events -/

inductive Event
  | repeatedField (form field : String)
  | loadedForms (path : String) (count : Nat)
  | createdSample (path : String)
  | ignoredUpdate (form field : String)
  | noSuchField (form field : String)
  deriving DecidableEq, Repr

end Log
end FormSnippet
