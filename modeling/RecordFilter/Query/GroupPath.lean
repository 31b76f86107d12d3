import RecordFilter.Text.Separated

/-!
# Group paths

The position of a group in its query. The root is group `0`; the groups directly inside a group are
counted from zero in the order in which they are written.

* `GroupPath` — the indices below the root.
* `GroupPath.child`, `GroupPath.parent?`, `GroupPath.depth` — moves and depth.
* `GroupPath.text` — the indices with dots between them, `0.2.1`.
-/

namespace RecordFilter

/-- The position of a group: sibling indices from the root downwards, without the root's own. -/
structure GroupPath where
  steps : List Nat
  deriving DecidableEq, Repr

namespace GroupPath

/-- The root group. -/
def root : GroupPath := ⟨[]⟩

/-- The group of an index directly inside a group. -/
def child (p : GroupPath) (index : Nat) : GroupPath := ⟨p.steps ++ [index]⟩

/-- The enclosing group; the root has none. -/
def parent? (p : GroupPath) : Option GroupPath :=
  if p.steps.isEmpty then none else some ⟨p.steps.dropLast⟩

/-- How many groups enclose the group. -/
def depth (p : GroupPath) : Nat := p.steps.length

/-- All indices, the root's first. -/
def indices (p : GroupPath) : List Nat := 0 :: p.steps

/-- The indices with dots between them. -/
def text (p : GroupPath) : String := Text.join "." (p.indices.map toString)

end GroupPath

end RecordFilter
