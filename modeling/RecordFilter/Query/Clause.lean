import RecordFilter.Predicate.Resolution
import RecordFilter.Query.Attribute
import RecordFilter.Query.Binding

/-!
# Clauses

A clause is one test: an attribute, a predicate, perhaps negated, and arguments. It is compiled from
the terms between two operators or parentheses.

* `Clause` — a compiled clause; `Clause.text` shows it.
* `Clause.ofTerms` — the clause of a run of terms. With scalar records there is no attribute.
-/

namespace RecordFilter

/-- One test of a record. -/
structure Clause where
  /-- Where the tested value is read. -/
  subject : Attribute
  predicate : PredicateName
  /-- Whether the answer is inverted. -/
  negate : Bool
  args : List Json
  kwargs : Dict Json

namespace Clause

/-! ## Compiling -/

/-- The arguments that a term passes, after those before it. -/
def addTerm (args : List Json × Dict Json) : Term → List Json × Dict Json
  | .word text => (args.1 ++ [Json.ofLiteral text], args.2)
  | .value value => (args.1 ++ [value], args.2)
  | .keywords entries =>
    entries.foldl
      (fun args entry =>
        match entry with
        | .named key value => (args.1, Dict.insert key value args.2)
        | .positional value => (args.1 ++ [value], args.2))
      args

/-- The arguments that the terms after the predicate name pass. -/
def arguments (terms : List Term) : List Json × Dict Json := terms.foldl addTerm ([], [])

/-- A clause whose attribute is known: an optional `not`, the predicate name, the arguments. `text`
shows the clause in messages. -/
def ofTest (config : Config) (text : String) (subject : Attribute) :
    List Term → Except Error Clause
  | [] => .error (.invalidClause (.noPredicate text))
  | .word "not" :: [] => .error (.invalidClause (.noPredicateAfterNot text))
  | .word "not" :: name :: rest => finish true name rest
  | name :: rest => finish false name rest
where
  /-- The clause of a predicate name and its arguments. -/
  finish (negate : Bool) (name : Term) (rest : List Term) : Except Error Clause :=
    match name.text? with
    | none => .error (.invalidPredicateName name.display)
    | some text =>
      match PredicateName.resolve config text with
      | .error e => .error e
      | .ok predicate =>
        let (args, kwargs) := arguments rest
        .ok ⟨subject, predicate, negate, args, kwargs⟩

/-- **The clause of a run of terms.** -/
def ofTerms (config : Config) (scalar : Bool) (terms : List Term) : Except Error Clause :=
  let text := Text.join " " (terms.map Term.display)
  if scalar then ofTest config text .whole terms
  else
    match terms with
    | [] => .error (.invalidClause (.empty text))
    | first :: rest =>
      match first.text? with
      | none => .error (.invalidClause (.attributeNotName text))
      | some path =>
        if path.isEmpty then .error (.invalidClause (.attributeNotName text))
        else ofTest config text (.ofPath path) rest

/-! ## Text -/

/-- How a clause shows: its attribute, `not`, the predicate and the arguments. -/
def text (c : Clause) : String :=
  c.subject.display ++ (if c.negate then " not" else "") ++ " " ++ c.predicate.text ++
    String.join (c.args.map fun arg => " " ++ arg.compact) ++
    (if c.kwargs.isEmpty then "" else " " ++ (Json.object c.kwargs).compact)

end Clause

end RecordFilter
