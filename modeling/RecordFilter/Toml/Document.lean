import RecordFilter.Toml.Basic

/-!
# Documents of TOML

A document is its entries before the first header, and then sections: a header and the entries below
it. Headers and dotted keys build one tree of tables.

* `Toml.Section` — a header and its entries.
* `Toml.Node` — the tree of tables while it is built. A table remembers how it came to be, since
  that decides what may still be added to it.
* `Toml.insertValue?` — one entry; no entry replaces another.
* `Toml.insertSection?` — one section: a table that has no header yet, or a further table of an
  array of tables.
* `Toml.assemble?` — the root table of a document.
-/

namespace RecordFilter.Toml

/-- A dotted key and its value. -/
abbrev Entry := List String × Toml

/-- A header and the entries up to the next one. -/
structure Section where
  /-- Whether the header opens a further table of an array, as `[[path]]` does. -/
  repeated : Bool
  path : List String
  entries : List Entry

/-- How a table came to be. -/
inductive Origin where
  /-- By its own header. -/
  | header
  /-- As a parent in the path of a header. -/
  | parent
  /-- As a parent in a dotted key. -/
  | dotted
  deriving DecidableEq

/-- The tree of tables while it is built. -/
inductive Node where
  /-- The value of an entry; nothing can be added to it, not even to a table. -/
  | value (value : Toml)
  | table (origin : Origin) (members : List (String × Node))
  /-- An array of tables, each with a header of its own. -/
  | tables (items : List (List (String × Node)))

/-- The members of a table while it is built. -/
abbrev Members := Dict Node

/-! ## Entries -/

/-- Changes the last item of a list. -/
def changeLast? {α : Type} (f : α → Option α) : List α → Option (List α)
  | [] => none
  | [item] => (f item).map ([·])
  | item :: rest => (changeLast? f rest).map (item :: ·)

/-- **One entry** set in a table. Dotted keys pass through tables without a header of their own and
add only to tables that dotted keys made; `direct` says whether this table takes entries. -/
def insertValue? (value : Toml) : (direct : Bool) → (key : List String) → Members → Option Members
  | _, [], _ => none
  | direct, [part], members =>
    if direct && !Dict.contains part members then some (Dict.insert part (.value value) members)
    else none
  | _, part :: key, members =>
    let child : Option Node := match Dict.find? part members with
      | none => (insertValue? value true key []).map (.table .dotted)
      | some (.table .header _) | some (.value _) => none
      | some (.table origin inner) =>
        (insertValue? value (origin == .dotted) key inner).map (.table origin)
      | some (.tables items) => (changeLast? (insertValue? value false key) items).map .tables
    child.map fun child => Dict.insert part child members

/-- Several entries set in a table that takes entries. -/
def insertEntries? (entries : List Entry) (members : Members) : Option Members :=
  entries.foldlM (fun members entry => insertValue? entry.2 true entry.1 members) members

/-! ## Sections -/

/-- What a section makes of the node at the end of its path. -/
def Section.open? (s : Section) (node : Option Node) : Option Node :=
  match s.repeated, node with
  | false, none => (insertEntries? s.entries []).map (.table .header)
  | false, some (.table .parent members) => (insertEntries? s.entries members).map (.table .header)
  | true, none => (insertEntries? s.entries []).map fun members => .tables [members]
  | true, some (.tables items) =>
    (insertEntries? s.entries []).map fun members => .tables (items ++ [members])
  | _, _ => none

/-- Changes the node at the end of the path of a header, and makes the parents that are not
there. -/
def changeAt? (change : Option Node → Option Node) : (path : List String) → Members → Option Members
  | [], _ => none
  | [part], members =>
    (change (Dict.find? part members)).map fun node => Dict.insert part node members
  | part :: path, members =>
    let child : Option Node := match Dict.find? part members with
      | none => (changeAt? change path []).map (.table .parent)
      | some (.value _) => none
      | some (.table origin inner) => (changeAt? change path inner).map (.table origin)
      | some (.tables items) => (changeLast? (changeAt? change path) items).map .tables
    child.map fun child => Dict.insert part child members

/-- **One section** added to the root table. -/
def insertSection? (s : Section) (root : Members) : Option Members :=
  changeAt? s.open? s.path root

/-! ## The whole -/

mutual

/-- The value that a finished node stands for. -/
def Node.toToml : Node → Toml
  | .value value => value
  | .table _ members => .table (membersToToml members)
  | .tables items => .array (tablesToToml items)

/-- The members of an open table, as entries. -/
def membersToToml : List (String × Node) → List (String × Toml)
  | [] => []
  | (key, node) :: rest => (key, node.toToml) :: membersToToml rest

/-- The tables of an array of tables, as values. -/
def tablesToToml : List (List (String × Node)) → List Toml
  | [] => []
  | members :: rest => .table (membersToToml members) :: tablesToToml rest

end

/-- **The root table of a document**, or none if its headers and keys contradict each other. -/
def assemble? (entries : List Entry) (sections : List Section) : Option (List (String × Toml)) := do
  let root ← insertEntries? entries []
  let root ← sections.foldlM (fun root s => insertSection? s root) root
  return membersToToml root

/-- The table of an inline table's entries. -/
def inlineTable? (entries : List Entry) : Option Toml :=
  (insertEntries? entries []).map fun members => .table (membersToToml members)

end RecordFilter.Toml
