import Mathlib.Data.List.Chain
import RecordFilter.Query.Builder

/-!
# The grammar of groups

Which lists of resolved tokens are groups, as they are written and without a builder. A group is a
body in parentheses; a body is made of runs of terms, operators and groups.

* `Part`, `Part.tokens` — a part of a group, and the tokens that it is written with.
* `Part.Body` — the rules for the parts of one group.
* `Part.Admissible` — a part keeps the rules at every depth, and its runs compile.
* `Part.Begins`, `Part.begins_concat` — beginnings of bodies, part by part.
* `Part.body_iff` — what makes a beginning a body.
-/

namespace RecordFilter

/-- A part of a group as it is written. -/
inductive Part where
  /-- Terms with nothing else between them. -/
  | run (terms : List Term)
  | operator (combinator : Combinator)
  | group (parts : List Part)

namespace Part

/-! ## Tokens -/

mutual

/-- The tokens of a part. -/
def tokens : Part → List Bound
  | .run terms => terms.map .term
  | .operator combinator => [.operator combinator]
  | .group parts => .opening :: (tokensOf parts ++ [.closing])

/-- The tokens of parts, in order. -/
def tokensOf : List Part → List Bound
  | [] => []
  | part :: rest => part.tokens ++ tokensOf rest

end

/-- The tokens of two rows of parts, one after the other. -/
theorem tokensOf_append (xs ys : List Part) : tokensOf (xs ++ ys) = tokensOf xs ++ tokensOf ys := by
  induction xs with
  | nil => rfl
  | cons part rest ih => rw [List.cons_append, tokensOf, tokensOf, ih, List.append_assoc]

/-- The tokens of a single part. -/
theorem tokensOf_singleton (part : Part) : tokensOf [part] = part.tokens := by
  rw [tokensOf, tokensOf, List.append_nil]

/-! ## Rules -/

/-- Whether a part is an operator. -/
def isOperator : Part → Bool
  | .operator _ => true
  | _ => false

/-- Whether a part is a run of terms. -/
def isRun : Part → Bool
  | .run _ => true
  | _ => false

/-- Items are runs and groups. -/
def isItem (part : Part) : Bool := !part.isOperator

/-- Parts that may stand side by side: not two operators, and not two runs, which would be one. -/
def Beside (a b : Part) : Prop :=
  ¬ (a.isOperator = true ∧ b.isOperator = true) ∧ ¬ (a.isRun = true ∧ b.isRun = true)

/-- **The rules for the parts of one group.** -/
structure Body (parts : List Part) : Prop where
  hasItem : ∃ part ∈ parts, part.isItem = true
  first : ∀ part ∈ parts.head?, part.isItem = true
  last : ∀ part ∈ parts.getLast?, part.isItem = true
  beside : parts.IsChain Beside
  /-- Two items or more need an operator, anywhere in the group. -/
  hasOperator : 2 ≤ parts.countP isItem → ∃ part ∈ parts, part.isOperator = true

/-- **A part keeps the rules**, and so do the parts inside it; runs have terms, and compile. -/
inductive Admissible (config : Config) (scalar : Bool) : Part → Prop
  | run {terms : List Term} {clause : Clause} (hne : terms ≠ [])
      (hcompile : Clause.ofTerms config scalar terms = .ok clause) :
      Admissible config scalar (.run terms)
  | operator (combinator : Combinator) : Admissible config scalar (.operator combinator)
  | group {parts : List Part} (hbody : Body parts)
      (hparts : ∀ part ∈ parts, Admissible config scalar part) :
      Admissible config scalar (.group parts)

/-! ## Beginnings -/

/-- **A beginning of a body**: the rules that more parts cannot repair. -/
structure Begins (parts : List Part) : Prop where
  first : ∀ part ∈ parts.head?, part.isItem = true
  beside : parts.IsChain Beside

/-- Whether an item has to follow: nothing is written, or an operator was written last. -/
def awaitsItem (parts : List Part) : Bool := parts.getLast?.all isOperator

/-- Whether a run was written last. -/
def endsInRun (parts : List Part) : Bool := parts.getLast?.any isRun

variable {parts : List Part}

/-- After a part, an item has to follow exactly if the part is an operator. -/
@[simp] theorem awaitsItem_concat (parts : List Part) (part : Part) :
    awaitsItem (parts ++ [part]) = part.isOperator := by
  simp [awaitsItem]

/-- Parts end in a run exactly if the last of them is one. -/
@[simp] theorem endsInRun_concat (parts : List Part) (part : Part) :
    endsInRun (parts ++ [part]) = part.isRun := by
  simp [endsInRun]

/-- No parts at all are the beginning of a group. -/
theorem begins_nil : Begins [] where
  first := fun part h => by cases h
  beside := List.isChain_nil

/-- The beginning of a beginning. -/
theorem Begins.left {rest : List Part} (h : Begins (parts ++ rest)) : Begins parts where
  first := fun part hpart => by
    cases parts with
    | nil => cases hpart
    | cons first parts => exact h.first part hpart
  beside := (List.isChain_append.1 h.beside).1

/-- **A beginning grows** by an operator after an item, by a run after anything but a run, and by a
group. -/
theorem begins_concat {part : Part} :
    Begins (parts ++ [part]) ↔
      Begins parts ∧ (part.isOperator = true → awaitsItem parts = false) ∧
        (part.isRun = true → endsInRun parts = false) := by
-- the part before the new one decides, if there is one
  obtain rfl | ⟨init, last, rfl⟩ := List.eq_nil_or_concat' parts
  · have hrun : endsInRun [] = false := rfl
    constructor
    · intro h
      have hitem := h.first part rfl
      refine ⟨begins_nil, fun hop => ?_, fun _ => hrun⟩
      rw [isItem, hop] at hitem
      cases hitem
    · rintro ⟨-, hop, -⟩
      refine ⟨fun first hfirst => ?_, List.isChain_singleton part⟩
      obtain rfl : part = first := Option.some.inj hfirst
      cases hpart : part.isOperator with
      | true => cases hop hpart
      | false => rw [isItem, hpart]; rfl
  · rw [awaitsItem_concat, endsInRun_concat]
    constructor
    · intro h
      have hbeside : Beside last part := by
        have hchain := (List.isChain_append.1 h.beside).2.2
        exact hchain last (by simp) part rfl
      refine ⟨h.left, fun hop => ?_, fun hrun => ?_⟩
      · exact Bool.eq_false_iff.2 fun hlast => hbeside.1 ⟨hlast, hop⟩
      · exact Bool.eq_false_iff.2 fun hlast => hbeside.2 ⟨hlast, hrun⟩
    · rintro ⟨hbegins, hop, hrun⟩
      refine ⟨fun first hfirst => hbegins.first first ?_, ?_⟩
      · rwa [List.head?_append_of_ne_nil _ (by simp)] at hfirst
      · refine List.isChain_append.2 ⟨hbegins.beside, List.isChain_singleton part, ?_⟩
        intro a ha b hb
        obtain rfl : last = a := by simpa using ha
        obtain rfl : part = b := Option.some.inj hb
        refine ⟨fun hboth => ?_, fun hboth => ?_⟩
        · rw [hop hboth.2] at hboth
          cases hboth.1
        · rw [hrun hboth.2] at hboth
          cases hboth.1

/-- A beginning goes on with an operator where no item has to follow. -/
theorem Begins.concat_operator (h : Begins parts) (hitem : awaitsItem parts = false)
    (combinator : Combinator) : Begins (parts ++ [.operator combinator]) := by
  refine begins_concat.2 ⟨h, fun _ => hitem, fun hrun => ?_⟩
  cases hrun

/-- A beginning goes on with a run where no run was written last. -/
theorem Begins.concat_run (h : Begins parts) (hrun : endsInRun parts = false)
    (terms : List Term) : Begins (parts ++ [.run terms]) := by
  refine begins_concat.2 ⟨h, fun hop => ?_, fun _ => hrun⟩
  cases hop

/-- A beginning goes on with a nested group, whatever was written last. -/
theorem Begins.concat_group (h : Begins parts) (inner : List Part) :
    Begins (parts ++ [.group inner]) := by
  refine begins_concat.2 ⟨h, fun hop => ?_, fun hrun => ?_⟩
  · cases hop
  · cases hrun

/-- **A beginning is a body** if it ends in an item, and has an operator where one is needed. -/
theorem body_iff :
    Body parts ↔ Begins parts ∧ awaitsItem parts = false ∧
      (2 ≤ parts.countP isItem → ∃ part ∈ parts, part.isOperator = true) := by
  constructor
  · intro h
    refine ⟨⟨h.first, h.beside⟩, ?_, h.hasOperator⟩
    obtain rfl | ⟨init, last, rfl⟩ := List.eq_nil_or_concat' parts
    · obtain ⟨part, hmem, -⟩ := h.hasItem
      exact absurd hmem List.not_mem_nil
    · have hlast := h.last last (by simp)
      rw [isItem, Bool.not_eq_true'] at hlast
      rw [awaitsItem_concat, hlast]
  · rintro ⟨hbegins, hawaits, hop⟩
    obtain rfl | ⟨init, last, rfl⟩ := List.eq_nil_or_concat' parts
    · cases hawaits
    · rw [awaitsItem_concat] at hawaits
      have hlast : last.isItem = true := by rw [isItem, hawaits]; rfl
      refine ⟨⟨last, by simp, hlast⟩, hbegins.first, fun part hpart => ?_, hbegins.beside, hop⟩
      obtain rfl : last = part := by simpa using hpart
      exact hlast

end Part

end RecordFilter
