import RecordFilter.Command.Run

/-!
# The program

Reads what the arguments need from the system, runs the command and prints its output.
-/

namespace RecordFilter.Command

/-- What a failed reading means. -/
def faultOf (e : IO.Error) : FileFault :=
  match e with
  | .noFileOrDirectory _ _ _ => .missing
  | .inappropriateType _ _ _ => .isDirectory
  | e => .other (toString e)

/-- Bytes as text. -/
def textOf (bytes : ByteArray) : Except FileFault String :=
  match String.fromUTF8? bytes with
  | some text => .ok text
  | none => .error .notText

/-- The text of a file. -/
def readPath (path : String) : IO (Except FileFault String) := do
  try return textOf (← IO.FS.readBinFile path)
  catch e => return .error (faultOf e)

/-- The text of the standard input. -/
def readInput : IO (Except FileFault String) := do
  try return textOf (← (← IO.getStdin).readBinToEnd)
  catch e => return .error (faultOf e)

/-- The place of the user's configuration file: below the directory for configurations, which has to
be an absolute path, or else below the home directory. -/
def userConfig : IO (Option String) := do
  let base := (← IO.getEnv "XDG_CONFIG_HOME").filter fun path => Text.startsWith path "/"
  let home := (← IO.getEnv "HOME").filter fun path => !path.isEmpty
  return (base.or (home.map (· ++ "/.config"))).map (· ++ "/sift/config.toml")

/-- The environment that an invocation can look at: only the files that it names are read. -/
def environmentOf (invocation : Invocation) : IO Environment := do
  let namedConfig ← IO.getEnv "SIFT_CONFIG"
  let userConfig ← userConfig
  let places : Environment := {
    read := fun _ => .error .missing, input := .ok "", namedConfig, userConfig }
  let paths := (configurationPath places invocation.config).toList ++
    invocation.task.recordFile?.toList
  let files ← paths.mapM fun path => return (path, ← readPath path)
  let input ← if invocation.task.readsInput then readInput else pure (.ok "")
  return { places with
    read := fun path => (Dict.find? path files).getD (.error .missing)
    input }

/-- Runs an invocation and measures the time that it takes. -/
def execute (invocation : Invocation) : IO Output := do
  let env ← environmentOf invocation
  let start ← IO.monoNanosNow
  let result ← (pure (invocation.task.run env invocation.config) : IO (Except Fault Report))
  let stop ← IO.monoNanosNow
  return outputOf (toString ((stop - start) / 1000) ++ "µs") result

end RecordFilter.Command

open RecordFilter.Command in
/-- The program: the arguments and the records go in, the lines of the reply come out. -/
def main (arguments : List String) : IO UInt32 := do
  let output ← match Invocation.ofArguments arguments with
    | .error stop => pure stop.output
    | .ok invocation => execute invocation
  (← IO.getStderr).putStr output.stderr
  (← IO.getStdout).putStr output.stdout
  return output.code.toUInt32
