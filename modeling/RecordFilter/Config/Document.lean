import RecordFilter.Config.Basic
import RecordFilter.Toml.Printer
import RecordFilter.Toml.Reader

/-!
# Configuration documents

A configuration is written as a TOML document with an entry for each setting.

* `Config.parse` — the configuration of a document: settings that are absent have their defaults,
  entries of other names do not matter, and the rules of a configuration are checked.
* `Config.render` — the document of a configuration, if TOML has all its values.
-/

namespace RecordFilter.Config

/-! ## Reading -/

/-- A setting of a document, or its default. -/
def setting {α : Type} (entries : List (String × Toml)) (key : String) (default : α)
    (read : Toml → Option α) : Except Error α :=
  match Dict.find? key entries with
  | none => .ok default
  | some value =>
    match read value with
    | some setting => .ok setting
    | none => .error (.config (.unreadable ("invalid type for " ++ key)))

/-- A table of strings. -/
def prefixes? (value : Toml) : Option (Dict String) := do
  let entries ← value.entries?
  let entries ← entries.mapM fun (key, value) => return (key, ← value.string?)
  return Dict.ofList entries

/-- A table of any values. -/
def bindings? (value : Toml) : Option (Dict Json) := do
  let entries ← value.entries?
  return Dict.ofList (entries.map fun (key, value) => (key, value.toJson))

/-- The configuration of a root table, not checked. -/
def ofEntries (entries : List (String × Toml)) : Except Error Config := do
  let base : Config := {}
  let andOps ← setting entries "and_ops" base.andOps Toml.strings?
  let orOps ← setting entries "or_ops" base.orOps Toml.strings?
  let defaultNamespace ←
    setting entries "default_namespace" base.defaultNamespace Toml.string?
  let prefixes ← setting entries "prefixes" base.prefixes prefixes?
  let defaultBindings ← setting entries "default_bindings" base.defaultBindings bindings?
  return ⟨andOps, orOps, defaultNamespace, prefixes, defaultBindings⟩

/-- **The configuration of a document.** -/
def parse (text : String) : Except Error Config :=
  match Toml.ofText? text with
  | none => .error (.config (.unreadable "not a TOML document"))
  | some entries => (ofEntries entries).bind validate

/-! ## Writing -/

/-- The root table of a configuration, if TOML has all its values. -/
def toEntries? (config : Config) : Option (List (String × Toml)) := do
  let bindings ← Toml.ofJsonMembers? config.defaultBindings
  return [
    ("and_ops", .array (config.andOps.map .string)),
    ("or_ops", .array (config.orOps.map .string)),
    ("default_namespace", .string config.defaultNamespace),
    ("prefixes", .table (config.prefixes.map fun (short, text) => (short, .string text))),
    ("default_bindings", .table bindings)]

/-- **The document of a configuration.** -/
def render (config : Config) : Except Error String :=
  match config.toEntries? with
  | none => .error (.config (.unwritable "a value that TOML does not have"))
  | some entries => .ok (Toml.document entries)

end RecordFilter.Config
