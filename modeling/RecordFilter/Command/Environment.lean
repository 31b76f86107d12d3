import RecordFilter.Dict
import RecordFilter.Text.Separated

/-!
# The surroundings of a command

* `FileFault` — why a file cannot be read as text.
* `Environment` — the files, the input and the places of configuration files.
* `FileTree` — files by their paths below the working directory; `FileTree.read` follows a path step
  by step.
-/

namespace RecordFilter.Command

/-- Why a file cannot be read as text. -/
inductive FileFault where
  | missing
  /-- Something on the way is a file and not a directory. -/
  | notDirectory
  | isDirectory
  | nameTooLong
  /-- Not text in UTF-8. -/
  | notText
  /-- Anything else, in the system's own words. -/
  | other (detail : String)
  deriving DecidableEq, Repr

/-- The system's words for a fault. -/
def FileFault.message : FileFault → String
  | .missing => "No such file or directory (os error 2)"
  | .notDirectory => "Not a directory (os error 20)"
  | .isDirectory => "Is a directory (os error 21)"
  | .nameTooLong => "File name too long (os error 36)"
  | .notText => "stream did not contain valid UTF-8"
  | .other detail => detail

/-- Whether there is anything at a path. -/
def FileFault.exists : FileFault → Bool
  | .isDirectory | .notText | .other _ => true
  | .missing | .notDirectory | .nameTooLong => false

/-- What a command can see. -/
structure Environment where
  /-- The text of a file. -/
  read : String → Except FileFault String
  /-- The text of the standard input. -/
  input : Except FileFault String
  /-- The configuration file that the environment names. -/
  namedConfig : Option String := none
  /-- The place of the user's own configuration file, if there is one. -/
  userConfig : Option String := none

/-! ## Files below the working directory -/

/-- Texts of files by the steps of their paths below the working directory. -/
abbrev FileTree := List (List String × String)

namespace FileTree

/-- Where a path has led so far. -/
inductive Place where
  | file (text : String)
  /-- A directory at or below the working directory. -/
  | inside (path : List String)
  /-- A directory above it, of which nothing else is known. -/
  | outside

/-- The files of a dictionary of relative paths. -/
def ofDict (files : Dict String) : FileTree :=
  files.map fun (path, text) =>
    ((Text.split '/' path).filter fun name => name ≠ "" ∧ name ≠ ".", text)

/-- The place of a name in a directory below the working directory. -/
def child (tree : FileTree) (path : List String) (name : String) : Except FileFault Place :=
  let inner := path ++ [name]
  match tree.find? (·.1 == inner) with
  | some (_, text) => .ok (.file text)
  | none =>
    if tree.any fun (path, _) => inner.isPrefixOf path then .ok (.inside inner)
    else .error .missing

/-- One step of a path. Only directories have steps; an empty step and a dot stay where they are,
and two dots lead up. -/
def step (tree : FileTree) (place : Place) (name : String) : Except FileFault Place :=
  match place with
  | .file _ => .error .notDirectory
  | .inside path =>
    if name = "" ∨ name = "." then .ok place
    else if name = ".." then .ok (if path.isEmpty then .outside else .inside path.dropLast)
    else if 255 < name.utf8ByteSize then .error .nameTooLong
    else tree.child path name
  | .outside =>
    if name = "" ∨ name = "." ∨ name = ".." then .ok .outside
    else if 255 < name.utf8ByteSize then .error .nameTooLong
    else .error .missing

/-- **The text of the file at a path.** The empty path leads nowhere. -/
def read (tree : FileTree) (path : String) : Except FileFault String :=
  if path.isEmpty then .error .missing
  else
    let start : Place := if Text.startsWith path "/" then .outside else .inside []
    match (Text.split '/' path).foldlM tree.step start with
    | .ok (.file text) => .ok text
    | .ok _ => .error .isDirectory
    | .error fault => .error fault

end FileTree

end RecordFilter.Command
