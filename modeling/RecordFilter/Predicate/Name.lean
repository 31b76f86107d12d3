/-!
# Predicate names

* `PredicateName` — a qualified name: namespace, subspace and leaf.
* `PredicateName.text` — the three parts with dots between them.
* `PredicateName.lt` — names in order: by namespace, then subspace, then leaf.
-/

namespace RecordFilter

/-- The qualified name of a predicate. -/
structure PredicateName where
  space : String
  subspace : String
  leaf : String
  deriving DecidableEq, Repr

namespace PredicateName

/-- The three parts with dots between them. -/
def text (name : PredicateName) : String := name.space ++ "." ++ name.subspace ++ "." ++ name.leaf

/-- Whether a name comes before another: by namespace, then subspace, then leaf. -/
def lt (a b : PredicateName) : Bool :=
  a.space < b.space ||
    (a.space == b.space && (a.subspace < b.subspace ||
      (a.subspace == b.subspace && a.leaf < b.leaf)))

end PredicateName

end RecordFilter
