import RecordFilter.Command.Environment
import RecordFilter.Error

/-!
# Faults of commands

* `Command.Fault` — why a command fails.
* `Command.Fault.message` — the wording.
-/

namespace RecordFilter.Command

/-- Why a command fails. -/
inductive Fault where
  /-- The query, its options or the configuration is refused. -/
  | engine (error : Error)
  /-- The records are no JSON text. -/
  | invalidJson
  /-- The records are one value that is no array. -/
  | notArray (value : Json)
  | unknownFormat (format : String)
  /-- A named binding without an equals sign. -/
  | malformedNamed (entry : String)

/-- What kind of value it is, with its article. -/
def kindOf : Json → String
  | .null => "null"
  | .bool _ => "a boolean"
  | .number _ => "a number"
  | .string _ => "a string"
  | .array _ => "an array"
  | .object _ => "an object"

/-- **The wording of a fault.** -/
def Fault.message : Fault → String
  | .engine error => error.message
  | .invalidJson => "Invalid JSON: not a JSON text"
  | .notArray value => "Records must be a JSON array, got " ++ kindOf value
  | .unknownFormat format => "Unknown format '" ++ format ++ "'. Use json or pretty"
  | .malformedNamed entry => "Named binding '" ++ entry ++ "' must look like KEY=VALUE"

/-- A file that cannot be read. -/
def Fault.unreadable (fault : FileFault) : Fault := .engine (.io fault.message)

end RecordFilter.Command
