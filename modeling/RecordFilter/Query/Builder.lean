import RecordFilter.Query.Group

/-!
# Building groups

A list of resolved tokens becomes a tree. The builder goes through the tokens once and keeps a frame
for each open group.

* `Frame` — an open group: its items, and the terms of the clause that has begun.
* `Builder`, `Builder.step` — the open frames and the finished tree, and what a token does to them.
* `Group.build` — the tree of a token list, or the first reason why it has none.

Items may stand side by side without an operator between them as long as one operator occurs in
their group; the first one decides how the group combines.
-/

namespace RecordFilter

/-- A group that is not closed yet. -/
structure Frame where
  path : GroupPath
  /-- What the first operator decided. -/
  combinator : Option Combinator := none
  /-- The finished items. -/
  items : List Item := []
  /-- The terms of the clause that has begun. -/
  terms : List Term := []
  /-- The index of the next group inside this one. -/
  nextChild : Nat := 0
  /-- Nothing is written since the group opened or since its last operator. -/
  dangling : Bool := true

namespace Frame

/-- Compiles the clause that has begun, if one has. -/
def flush (config : Config) (scalar : Bool) (frame : Frame) : Except Error Frame :=
  match frame.terms with
  | [] => .ok frame
  | terms =>
    match Clause.ofTerms config scalar terms with
    | .ok clause => .ok { frame with items := frame.items ++ [.clause clause], terms := [] }
    | .error e => .error e

/-- The group of a frame without pending terms. A single item needs no operator. -/
def finish (frame : Frame) : Except Error Group :=
  match frame.combinator, frame.items with
  | _, [] => .error (.emptyGroup frame.path)
  | some combinator, items => .ok ⟨frame.path, combinator, items⟩
  | none, [item] => .ok ⟨frame.path, .any, [item]⟩
  | none, _ => .error (.missingCombinator frame.path)

/-- What closing the group gives. -/
def close (config : Config) (scalar : Bool) (frame : Frame) : Except Error Group :=
  if frame.dangling && !frame.items.isEmpty then
    .error (.invalidClause (.trailingOperator frame.path))
  else
    match frame.flush config scalar with
    | .ok frame => frame.finish
    | .error e => .error e

/-- The frame after an operator. -/
def operator (config : Config) (scalar : Bool) (combinator : Combinator) (frame : Frame) :
    Except Error Frame :=
  if frame.dangling then .error (.invalidClause (.leadingOperator frame.path))
  else
    { frame with
      dangling := true
      combinator := frame.combinator.or (some combinator) }.flush config scalar

/-- The frame after a term. -/
def term (t : Term) (frame : Frame) : Frame :=
  { frame with terms := frame.terms ++ [t], dangling := false }

/-- The frame after the group inside it that closed last. -/
def addGroup (g : Group) (frame : Frame) : Frame :=
  { frame with items := frame.items ++ [g.toItem], dangling := false }

end Frame

/-- The open groups, innermost first, and the tree once it is complete. -/
structure Builder where
  stack : List Frame := []
  root : Option Group := none

namespace Builder

variable (config : Config) (scalar : Bool)

/-- What a token does. -/
def step (b : Builder) : Bound → Except Error Builder
  | .opening =>
    if b.root.isSome then .error (.unbalancedParens .afterOuterGroup)
    else
      match b.stack with
      | [] => .ok { b with stack := [{ path := GroupPath.root }] }
      | parent :: rest =>
        match parent.flush config scalar with
        | .error e => .error e
        | .ok parent =>
          let child : Frame := { path := parent.path.child parent.nextChild }
          .ok { b with stack := child :: { parent with nextChild := parent.nextChild + 1 } :: rest }
  | .closing =>
    match b.stack with
    | [] => .error (.unbalancedParens .unexpectedClose)
    | frame :: rest =>
      match frame.close config scalar with
      | .error e => .error e
      | .ok g =>
        match rest with
        | [] => .ok { stack := [], root := some g }
        | parent :: rest => .ok { b with stack := parent.addGroup g :: rest }
  | .operator combinator =>
    match b.stack with
    | [] => .error (.unbalancedParens .operatorOutside)
    | frame :: rest =>
      match frame.operator config scalar combinator with
      | .error e => .error e
      | .ok frame => .ok { b with stack := frame :: rest }
  | .term t =>
    match b.stack with
    | [] => .error (.invalidClause (.outsideGroups t.display))
    | frame :: rest => .ok { b with stack := frame.term t :: rest }

/-- What a list of tokens does. -/
def run (b : Builder) : List Bound → Except Error Builder
  | [] => .ok b
  | token :: rest =>
    match step config scalar b token with
    | .ok b => run b rest
    | .error e => .error e

/-- The tree at the end of the tokens. -/
def result (b : Builder) : Except Error Group :=
  if !b.stack.isEmpty then .error (.unbalancedParens .unclosed)
  else
    match b.root with
    | some g => .ok g
    | none => .error .emptyQuery

end Builder

/-- **The tree of a list of resolved tokens.** -/
def Group.build (config : Config) (scalar : Bool) (tokens : List Bound) : Except Error Group :=
  match Builder.run config scalar {} tokens with
  | .ok b => b.result
  | .error e => .error e

end RecordFilter
