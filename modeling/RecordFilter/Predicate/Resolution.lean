import RecordFilter.Config.Basic

/-!
# Resolving predicate names

* `PredicateName.qualified` — a name that is written out: three non-empty parts.
* `PredicateName.resolve` — a name as written in a query: without a dot it belongs to the default
  namespace; a configured prefix before the first dot stands for its namespace.
-/

namespace RecordFilter.PredicateName

/-- **A qualified name**: three non-empty parts with dots between them. -/
def qualified (name : String) : Except Error PredicateName :=
  match Text.splitAll '.' name.toList with
  | [space, subspace, leaf] =>
    if space.isEmpty || subspace.isEmpty || leaf.isEmpty then .error (.invalidPredicateName name)
    else .ok ⟨String.ofList space, String.ofList subspace, String.ofList leaf⟩
  | _ => .error (.invalidPredicateName name)

/-- A name with its default namespace or its prefix written out. -/
def expand (config : Config) (name : String) : String :=
  match Text.splitOnce? '.' name with
  | none => config.defaultNamespace ++ "." ++ name
  | some (short, rest) =>
    match Dict.find? short config.prefixes with
    | some space => space ++ "." ++ rest
    | none => name

/-- **The predicate that a name means**; an error names it as written. -/
def resolve (config : Config) (name : String) : Except Error PredicateName :=
  match qualified (expand config name) with
  | .ok resolved => .ok resolved
  | .error _ => .error (.invalidPredicateName name)

end RecordFilter.PredicateName
