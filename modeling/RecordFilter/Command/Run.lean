import RecordFilter.Command.Request
import RecordFilter.Config.Document
import RecordFilter.Json.Reader
import RecordFilter.Predicate.Standard
import RecordFilter.Query.Session

/-!
# Running commands

* `Command.configuration` — the configuration in effect: from the file of the switch, of the
  environment, or of the user, and the defaults where there is no such file.
* `Command.records` — the records of a file or of the standard input.
* `Task.run` — what a task prints.
* `Command.run` — what a list of arguments prints.
-/

namespace RecordFilter.Command

/-! ## What commands read -/

/-- The configuration of a file; a file that is not there has the defaults. -/
def configurationAt (env : Environment) (path : String) : Except Fault Config :=
  match env.read path with
  | .ok text => ofEngine (Config.parse text)
  | .error fault => if fault.exists then .error (.unreadable fault) else .ok {}

/-- The place of the configuration file: that of the switch, of the environment, or the user's. -/
def configurationPath (env : Environment) (config : Option String) : Option String :=
  (config.or env.namedConfig).or env.userConfig

/-- **The configuration in effect.** -/
def configuration (env : Environment) (config : Option String) : Except Fault Config :=
  match configurationPath env config with
  | some path => configurationAt env path
  | none => .ok {}

/-- The file of the records; none and a single hyphen stand for the standard input. -/
def recordFile (file : Option String) : Option String := file.filter (· ≠ "-")

/-- **The records** of a file or of the standard input: a JSON array. -/
def records (env : Environment) (file : Option String) : Except Fault (List Json) := do
  let text ← match recordFile file with
    | some path => (env.read path).mapError .unreadable
    | none => env.input.mapError .unreadable
  match Json.ofText? text with
  | none => .error .invalidJson
  | some (.array items) => .ok items
  | some value => .error (.notArray value)

/-! ## Tasks -/

/-- What a command prints on success. -/
structure Report where
  text : String
  /-- Whether the time of evaluation is reported. -/
  timed : Bool := false

/-- How an answer is printed. -/
inductive Format where
  | compact | pretty
  deriving DecidableEq, Repr

/-- The format of a name. -/
def Format.ofName (name : String) : Except Fault Format :=
  if name = "json" then .ok .compact
  else if name = "pretty" then .ok .pretty
  else .error (.unknownFormat name)

/-- A value in a format. -/
def Format.print : Format → Json → String
  | .compact, value => value.compact
  | .pretty, value => value.pretty

/-- The session of query arguments on records. -/
def session (config : Config) (records : List Json) (a : QueryArguments) :
    Except Fault Session := do
  let request ← a.request
  ofEngine (Session.compile Standard.registry config records request)

/-- The answer of a query. -/
def filterReport (env : Environment) (config : Option String) (a : QueryArguments)
    (format : Format) : Except Fault Report := do
  let config ← configuration env config
  let records ← records env a.file
  let session ← session config records a
  let answer ← ofEngine session.results.2.outcome
  return { text := format.print answer.value ++ "\n", timed := session.request.options.debug }

/-- The normalized query and its tree. Records are read only from a file that is named, to find out
whether they are scalar. -/
def explainReport (env : Environment) (config : Option String) (a : QueryArguments) :
    Except Fault Report := do
  let config ← configuration env config
  let records ← if a.file.isSome then records env a.file else pure []
  let session ← session config records a
  return {
    text := session.normalized.text ++ "\n" ++ session.explain ++
      (if session.scalar then "(scalar records)\n" else "") }

/-- The names of the standard predicates, one on a line. -/
def predicatesReport : Report :=
  { text := "".intercalate (Standard.registry.names.map fun name => name.text ++ "\n") }

/-- **What a task prints.** The format is looked at before anything is read. -/
def Task.run (env : Environment) (config : Option String) : Task → Except Fault Report
  | .filter a format => (Format.ofName format).bind (filterReport env config a)
  | .explain a => explainReport env config a
  | .predicates => .ok predicatesReport

/-- Whether a task reads the standard input. -/
def Task.readsInput : Task → Bool
  | .filter a _ => (recordFile a.file).isNone
  | .explain a => a.file.isSome && (recordFile a.file).isNone
  | .predicates => false

/-- The file that a task reads its records from. -/
def Task.recordFile? : Task → Option String
  | .filter a _ | .explain a => recordFile a.file
  | .predicates => none

/-! ## Output -/

/-- What a process leaves behind. -/
structure Output where
  code : Nat
  stdout : String := ""
  stderr : String := ""

/-- The version. -/
def versionText : String := "siftq 0.1.0\n"

/-- How the commands are used. -/
def usageText : String :=
  "Filter JSON records with a small boolean query language\n\n" ++
  "Usage: siftq [--config FILE] COMMAND\n\n" ++
  "Commands:\n" ++
  "  filter QUERY [FILE]   Filter a JSON array of records and print the matches [alias: f]\n" ++
  "  explain QUERY [FILE]  Show the normalized query and its group tree\n" ++
  "  predicates            List registered predicates\n" ++
  "  help                  Print this text\n\n" ++
  "Options of filter and explain:\n" ++
  "  -b, --bind VALUE       Value for the next ? marker\n" ++
  "  -n, --named KEY=VALUE  Named binding, or a reserved option key\n" ++
  "      --first            Return only the first match\n" ++
  "      --pluck FIELD      Project matched records onto a field (repeat for several)\n" ++
  "      --default JSON     Value returned when nothing matches\n" ++
  "      --debug            Report evaluation time on stderr\n" ++
  "      --format FORMAT    Output format of filter: json or pretty\n"

/-- The output of a stop. -/
def Stop.output : Stop → Output
  | .usage => { code := 2, stderr := usageText }
  | .help => { code := 0, stdout := usageText }
  | .version => { code := 0, stdout := versionText }

/-- The output of a task that has run for some time. -/
def outputOf (elapsed : String) : Except Fault Report → Output
  | .ok report =>
    { code := 0, stdout := report.text
      stderr := if report.timed then "siftq: evaluated in " ++ elapsed ++ "\n" else "" }
  | .error fault => { code := 1, stderr := "Error: " ++ fault.message ++ "\n" }

/-- **What a list of arguments prints**, given the words for the elapsed time. -/
def run (env : Environment) (elapsed : String) (arguments : List String) : Output :=
  match Invocation.ofArguments arguments with
  | .error stop => stop.output
  | .ok invocation => outputOf elapsed (invocation.task.run env invocation.config)

end RecordFilter.Command
