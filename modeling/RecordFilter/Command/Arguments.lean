import RecordFilter.Text.Separated

/-!
# Arguments of the command line

The arguments name a command, with switches and operands around it.

* `Switch` — the named arguments; some take a value, and some of these may be repeated.
* `Word` — the shape of one argument: a switch by its name or by letters, an operand, or the mark
  after which everything is an operand.
* `Given` — the switches and operands that were read.
* `Invocation.ofArguments` — what a whole list of arguments asks for.

A value is attached to its switch (`--bind=dog`, `-bdog`) or is the next argument, which then must
not look like a switch.
-/

namespace RecordFilter.Command

/-! ## Switches -/

/-- The named arguments. -/
inductive Switch where
  | config | bind | named | first | pluck | default | debug | format | help | version
  deriving DecidableEq, Repr

namespace Switch

/-- The name after two hyphens. -/
def name : Switch → String
  | .config => "config"
  | .bind => "bind"
  | .named => "named"
  | .first => "first"
  | .pluck => "pluck"
  | .default => "default"
  | .debug => "debug"
  | .format => "format"
  | .help => "help"
  | .version => "version"

/-- The letter after one hyphen, for some. -/
def letter? : Switch → Option Char
  | .bind => some 'b'
  | .named => some 'n'
  | .help => some 'h'
  | .version => some 'V'
  | _ => none

/-- Whether a value belongs to it. -/
def takesValue : Switch → Bool
  | .config | .bind | .named | .pluck | .default | .format => true
  | _ => false

/-- Whether it may be given more than once. -/
def repeats : Switch → Bool
  | .bind | .named | .pluck => true
  | _ => false

end Switch

/-- Why no command runs. -/
inductive Stop where
  /-- The arguments do not fit. -/
  | usage
  /-- The usage text was asked for. -/
  | help
  /-- The version was asked for. -/
  | version
  deriving DecidableEq, Repr

/-! ## Words -/

/-- The shape of an argument. -/
inductive Word where
  | plain (text : String)
  /-- A switch by its name, perhaps with a value after an equals sign. -/
  | long (name : String) (value : Option String)
  /-- Switches by their letters, at least one. -/
  | short (letters : List Char)
  /-- The mark after which everything is an operand. -/
  | mark
  deriving DecidableEq

/-- **The shape of an argument.** A single hyphen is plain. -/
def Word.ofText (text : String) : Word :=
  match text.toList with
  | ['-', '-'] => .mark
  | '-' :: '-' :: rest =>
    match Text.splitFirst? '=' rest with
    | some (name, value) => .long (String.ofList name) (some (String.ofList value))
    | none => .long (String.ofList rest) none
  | '-' :: c :: rest => .short (c :: rest)
  | _ => .plain text

/-- Which switches and how many operands belong to a command. -/
structure Grammar where
  switches : List Switch
  operands : Nat

namespace Grammar

/-- The switch with a long name. -/
def byName? (g : Grammar) (name : String) : Option Switch := g.switches.find? (·.name == name)

/-- The switch with a short letter. -/
def byLetter? (g : Grammar) (letter : Char) : Option Switch :=
  g.switches.find? (·.letter? == some letter)

end Grammar

/-! ## What is given -/

/-- The switches with their values and the operands, each in order. A switch without a value has the
empty text. -/
structure Given where
  switches : List (Switch × String) := []
  operands : List String := []

namespace Given

/-- The values of a switch. -/
def values (given : Given) (s : Switch) : List String :=
  (given.switches.filter (·.1 == s)).map (·.2)

/-- Whether a switch is among the given ones. -/
def has (given : Given) (s : Switch) : Bool := given.switches.any (·.1 == s)

/-- Adds a switch, unless it stops the reading or is there already and must not be repeated. -/
def add (given : Given) (s : Switch) (value : String) : Except Stop Given :=
  if s = .help then .error .help
  else if s = .version then .error .version
  else if given.has s && !s.repeats then .error .usage
  else .ok { given with switches := given.switches ++ [(s, value)] }

/-- Adds operands, unless there are too many. -/
def addOperands (given : Given) (g : Grammar) (texts : List String) : Except Stop Given :=
  let operands := given.operands ++ texts
  if operands.length ≤ g.operands then .ok { given with operands } else .error .usage

/-- Adds the switches of a group of letters. The first that takes a value has the rest of the group
as its value, after an optional equals sign; if nothing is left, its value is still to come. -/
def addLetters (given : Given) (g : Grammar) : List Char → Except Stop (Given × Option Switch)
  | [] => .ok (given, none)
  | c :: rest =>
    match g.byLetter? c with
    | none => .error .usage
    | some s =>
      if s.takesValue then
        match rest with
        | [] => .ok (given, some s)
        | '=' :: value => (given.add s (String.ofList value)).map (·, none)
        | value => (given.add s (String.ofList value)).map (·, none)
      else
        match given.add s "" with
        | .ok given => given.addLetters g rest
        | .error stop => .error stop

/-- Adds a switch by its name, or says that its value is still to come. -/
def addLong (given : Given) (g : Grammar) (name : String) (value : Option String) :
    Except Stop (Given × Option Switch) :=
  match g.byName? name, value with
  | none, _ => .error .usage
  | some s, some value =>
    if s.takesValue then (given.add s value).map (·, none) else .error .usage
  | some s, none => if s.takesValue then .ok (given, some s) else (given.add s "").map (·, none)

/-- Adds what one word gives, or says which switch still waits for its value. -/
def addWord (given : Given) (g : Grammar) : Word → Except Stop (Given × Option Switch)
  | .plain text => (given.addOperands g [text]).map (·, none)
  | .long name value => given.addLong g name value
  | .short letters => given.addLetters g letters
  | .mark => .ok (given, none)

/-- **Reads the arguments of a command**, while a switch may wait for its value. -/
def read (g : Grammar) (given : Given) (waiting : Option Switch) :
    List String → Except Stop Given
  | [] => if waiting.isSome then .error .usage else .ok given
  | text :: rest =>
    match waiting, Word.ofText text with
    | some s, .plain value => (given.add s value).bind fun given => read g given none rest
    | some _, _ => .error .usage
    | none, .mark => given.addOperands g rest
    | none, word => (given.addWord g word).bind fun (given, waiting) => read g given waiting rest

end Given

/-! ## Commands -/

/-- The commands. -/
inductive Verb where
  | filter | explain | predicates
  deriving DecidableEq, Repr

namespace Verb

/-- The command of a name or a short name. -/
def ofName? (name : String) : Option Verb :=
  if name = "filter" ∨ name = "f" then some .filter
  else if name = "explain" then some .explain
  else if name = "predicates" then some .predicates
  else none

/-- Switches of the commands that take a query. -/
def querySwitches : List Switch :=
  [.config, .bind, .named, .first, .pluck, .default, .debug, .help]

/-- What belongs to a command: a query and perhaps a file, or nothing. -/
def grammar : Verb → Grammar
  | .filter => ⟨.format :: querySwitches, 2⟩
  | .explain => ⟨querySwitches, 2⟩
  | .predicates => ⟨[.config, .help], 0⟩

end Verb

/-- What may stand before the command. -/
def outerGrammar : Grammar := ⟨[.config, .help, .version], 0⟩

/-- What a request for help on commands asks for: at most one name, of a command or of help
itself. -/
def helpOn : List String → Stop
  | [] => .help
  | [name] => if (Verb.ofName? name).isSome || name == "help" then .help else .usage
  | _ => .usage

/-- Reads what stands before the command: the switches, the command and the arguments after it. -/
def readOuter (given : Given) (waiting : Option Switch) :
    List String → Except Stop (Given × Verb × List String)
  | [] => .error .usage
  | text :: rest =>
    match waiting, Word.ofText text with
    | some s, .plain value => (given.add s value).bind fun given => readOuter given none rest
    | some _, _ => .error .usage
    | none, .plain name =>
      match Verb.ofName? name with
      | some verb => .ok (given, verb, rest)
      | none => .error (if name = "help" then helpOn rest else .usage)
    | none, .mark => .error .usage
    | none, word =>
      (given.addWord outerGrammar word).bind fun (given, waiting) => readOuter given waiting rest

/-! ## Invocations -/

/-- What the arguments say about a query. -/
structure QueryArguments where
  query : String
  file : Option String := none
  /-- Values for the markers `?`. -/
  bind : List String := []
  /-- Entries `key=value` for named markers and options. -/
  named : List String := []
  first : Bool := false
  pluck : List String := []
  default : Option String := none
  debug : Bool := false

/-- The query arguments among what is given; a query there must be. -/
def QueryArguments.ofGiven (given : Given) : Except Stop QueryArguments :=
  match given.operands with
  | [] => .error .usage
  | query :: files =>
    .ok {
      query
      file := files.head?
      bind := given.values .bind
      named := given.values .named
      first := given.has .first
      pluck := given.values .pluck
      default := (given.values .default).head?
      debug := given.has .debug }

/-- What to do. -/
inductive Task where
  /-- Filter records and print the answer in a format. -/
  | filter (arguments : QueryArguments) (format : String)
  /-- Print the compiled query. -/
  | explain (arguments : QueryArguments)
  /-- Print the names of the predicates. -/
  | predicates

/-- What to do, and the configuration file to do it with. -/
structure Invocation where
  config : Option String
  task : Task

/-- **What a list of arguments asks for.** A configuration file named after the command counts
before one named in front of it. -/
def Invocation.ofArguments (arguments : List String) : Except Stop Invocation := do
  let (outer, verb, rest) ← readOuter {} none arguments
  let given ← Given.read verb.grammar {} none rest
  let config := (given.values .config ++ outer.values .config).head?
  let task ← match verb with
    | .filter => do
      let arguments ← QueryArguments.ofGiven given
      pure (Task.filter arguments ((given.values .format).head?.getD "json"))
    | .explain => do
      let arguments ← QueryArguments.ofGiven given
      pure (Task.explain arguments)
    | .predicates => pure Task.predicates
  return { config, task }

end RecordFilter.Command
