import RecordFilter.Query.Combinator
import RecordFilter.Text.Alphanumeric

/-!
# Operator literals

The literals that stand for the two combinators in a query. Literals of name characters only are
word operators and match whole words; all others are symbolic and also split words.

* `Operators` — the two lists in effect.
* `Operators.classify` — a whole word as an operator.
* `Operators.symbolAt?` — the longest symbolic literal at the head of a text.
-/

namespace RecordFilter

/-- The operator literals in effect for one query. -/
structure Operators where
  /-- Literals for "all items". -/
  all : List String
  /-- Literals for "any item". -/
  any : List String
  deriving DecidableEq, Repr

namespace Operators

/-- A literal with a character that no name has. The empty literal is none. -/
def isSymbolic (literal : List Char) : Bool := !literal.all Text.isNameChar

/-- The combinator that a whole word stands for; the first list goes first. -/
def classify (ops : Operators) (word : String) : Option Combinator :=
  if ops.all.contains word then some .all
  else if ops.any.contains word then some .any
  else none

/-- All literals with their combinators, in order. -/
def literals (ops : Operators) : List (List Char × Combinator) :=
  ops.all.map (fun op => (op.toList, .all)) ++ ops.any.map (fun op => (op.toList, .any))

/-- The symbolic literals among them. -/
def symbols (ops : Operators) : List (List Char × Combinator) :=
  ops.literals.filter fun entry => isSymbolic entry.1

/-- The longest entry; of several of one length the last. -/
def longest? : List (List Char × Combinator) → Option (List Char × Combinator)
  | [] => none
  | entry :: rest =>
    match longest? rest with
    | none => some entry
    | some best => if best.1.length < entry.1.length then some entry else some best

/-- **The longest symbolic literal at the head of a text.** -/
def symbolAt? (ops : Operators) (input : List Char) : Option (List Char × Combinator) :=
  longest? (ops.symbols.filter fun entry => entry.1.isPrefixOf input)

/-- The longest entry is one of the entries. -/
theorem mem_of_longest? {entries : List (List Char × Combinator)} {best : List Char × Combinator}
    (h : longest? entries = some best) : best ∈ entries := by
  induction entries generalizing best with
  | nil => simp [longest?] at h
  | cons entry rest ih =>
    unfold longest? at h
    split at h
    · obtain rfl := Option.some.inj h
      exact List.mem_cons_self
    · next hrest =>
      split at h <;> obtain rfl := Option.some.inj h
      · exact List.mem_cons_self
      · exact List.mem_cons_of_mem _ (ih hrest)

/-- What `symbolAt?` finds is a non-empty symbolic literal at the head of the text. -/
theorem symbolAt?_eq_some {ops : Operators} {input literal : List Char} {combinator : Combinator}
    (h : ops.symbolAt? input = some (literal, combinator)) :
    (literal, combinator) ∈ ops.symbols ∧ literal <+: input ∧ literal ≠ [] := by
  obtain ⟨hmem, hpre⟩ := List.mem_filter.1 (mem_of_longest? h)
  refine ⟨hmem, List.isPrefixOf_iff_prefix.1 hpre, ?_⟩
  rintro rfl
  simp [symbols, isSymbolic] at hmem

end Operators

end RecordFilter
