import RecordFilter.Query.Clause

/-!
# Groups

The tree of a query: groups of clauses and groups, each with its combinator and its path.

* `Item`, `Group` — an item is a clause or a group; the root of a query is a group.
* `Item.induction` — what holds of clauses, and of a group if of its items, holds of every item.
* `Group.clauses`, `Group.groupPaths`, `Group.groupCount` — the clauses and the groups of a tree,
  depth first in textual order.
* `Group.explain` — the tree as text, one item to a line.
-/

namespace RecordFilter

/-- A member of a group. -/
inductive Item where
  | clause (clause : Clause)
  | group (path : GroupPath) (combinator : Combinator) (items : List Item)

/-- A group of items in the order in which they are written. -/
structure Group where
  path : GroupPath
  combinator : Combinator
  items : List Item

/-- A group as a member of another. -/
def Group.toItem (g : Group) : Item := .group g.path g.combinator g.items

/-- **Induction over trees**: a group has a property if its items have it. -/
@[elab_as_elim, induction_eliminator]
theorem Item.induction {motive : Item → Prop} (clause : ∀ c, motive (.clause c))
    (group : ∀ path combinator items, (∀ item ∈ items, motive item) →
      motive (.group path combinator items)) (item : Item) : motive item :=
  @Item.rec motive (fun items => ∀ item ∈ items, motive item) clause
    (fun path combinator items ih => group path combinator items ih)
    (fun _ h => absurd h List.not_mem_nil)
    (fun _ _ hitem hrest _ h => (List.mem_cons.1 h).elim (fun h => h ▸ hitem) (hrest _)) item

/-! ## Clauses and groups of a tree -/

mutual

/-- The clauses of an item, depth first. -/
def Item.clauses : Item → List Clause
  | .clause c => [c]
  | .group _ _ items => Item.clausesOf items

/-- The clauses of items, in order. -/
def Item.clausesOf : List Item → List Clause
  | [] => []
  | item :: rest => item.clauses ++ Item.clausesOf rest

end

/-- The clauses below some items are those below one of them. -/
theorem Item.mem_clausesOf {items : List Item} {c : Clause} :
    c ∈ Item.clausesOf items ↔ ∃ item ∈ items, c ∈ item.clauses := by
  induction items with
  | nil => simp [Item.clausesOf]
  | cons item rest ih => simp [Item.clausesOf, ih]

mutual

/-- The paths of the groups in an item, depth first. -/
def Item.groupPaths : Item → List GroupPath
  | .clause _ => []
  | .group path _ items => path :: Item.groupPathsOf items

/-- The paths of the groups in items, in order. -/
def Item.groupPathsOf : List Item → List GroupPath
  | [] => []
  | item :: rest => item.groupPaths ++ Item.groupPathsOf rest

end

mutual

/-- The lines of an item, indented by two spaces for each enclosing group. -/
def Item.lines (indent : Nat) : Item → String
  | .clause c => "".pushn ' ' (2 * indent) ++ c.text ++ "\n"
  | .group path combinator items =>
    "".pushn ' ' (2 * indent) ++ "group " ++ path.text ++ " (" ++ combinator.name ++ ")\n" ++
      Item.linesOf (indent + 1) items

/-- The lines of items, in order. -/
def Item.linesOf (indent : Nat) : List Item → String
  | [] => ""
  | item :: rest => item.lines indent ++ Item.linesOf indent rest

end

namespace Group

/-- The clauses of a tree, depth first in textual order. -/
def clauses (g : Group) : List Clause := Item.clausesOf g.items

/-- The paths of all groups of a tree, its own first. -/
def groupPaths (g : Group) : List GroupPath := g.path :: Item.groupPathsOf g.items

/-- The number of groups of a tree, itself included. -/
def groupCount (g : Group) : Nat := g.groupPaths.length

/-- **The tree as text**, one item to a line. -/
def explain (g : Group) : String := g.toItem.lines g.path.depth

end Group

end RecordFilter
