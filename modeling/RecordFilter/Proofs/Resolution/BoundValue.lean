import Mathlib.Data.List.DropRight
import Mathlib.Data.List.Forall2
import RecordFilter.Proofs.Builder.Arguments
import RecordFilter.Proofs.Resolution.Replacement

/-!
# Bound values compile like literals

A literal among the arguments of a clause, or in a keyword segment, can be bound to a marker: the
tree does not change. A word stays a word through resolution and is read as its value by the clause;
a literal in a segment is read during resolution. In both cases the marker brings the same value to
the same place.

* `Token.InArguments` — what stands before a token that is an argument of its clause.
* `Token.inArguments_of_each` — a place among the arguments stays one through resolution.
* `Group.agree_build_of_replaces` — **the tree with a bound value** is the tree with the literal.
-/

namespace RecordFilter

namespace Token

/-- **What stands before an argument** of the clause that is being written at the end of the tokens:
the attribute, if records have any, then perhaps `not`, then the name of the predicate. -/
def InArguments (scalar : Bool) (before : List Token) : Prop :=
  let clause := before.rtakeWhile isPlain
  let test := if scalar then clause else clause.drop 1
  test ≠ [] ∧ test ≠ [.word "not"]

/-- Whether a token stands among the arguments can be told from the tokens before it. -/
instance (scalar : Bool) (before : List Token) : Decidable (InArguments scalar before) :=
  inferInstanceAs (Decidable (_ ∧ _))

variable {bindings : Bindings} {defaults : Dict Json}

/-- A token that is not plain is structural. -/
theorem exists_structural_of_not_isPlain {token : Token} (h : token.isPlain = false) :
    ∃ b, token.structural? = some b ∧ b.isStructural = true := by
  cases token with
  | opening | closing | operator _ => exact ⟨_, rfl, rfl⟩
  | word _ | positional | named _ | keywords _ => cases h

/-- Tokens without a plain one at their end resolve to tokens without a term at their end. -/
theorem isStructural_of_each {tokens : List Token}
    (h : ∀ token ∈ tokens.getLast?, token.isPlain = false) {bs : List Bound}
    {left left' : List Json}
    (hr : Resolving.each (resolve bindings defaults) tokens left = .ok (bs, left')) :
    ∀ token ∈ bs.getLast?, token.isStructural = true := by
  obtain rfl | ⟨init, last, rfl⟩ := List.eq_nil_or_concat' tokens
  · obtain ⟨rfl, -⟩ := Prod.mk.inj (Except.ok.inj hr)
    exact nofun
  · obtain ⟨b, hb, hstructural⟩ := exists_structural_of_not_isPlain (h last (by simp))
    obtain ⟨cs, ds, mid, -, hds, rfl⟩ := Resolving.each_append_eq_ok hr
    rw [Resolving.each_cons_of_ok (resolve_of_structural hb mid)] at hds
    obtain ⟨rfl, -⟩ := Prod.mk.inj (Except.ok.inj hds)
    intro token htoken
    rw [List.getLast?_concat] at htoken
    obtain rfl := Option.some.inj htoken
    exact hstructural

/-- Terms are empty, or the one word `not`, only if their tokens are. -/
theorem ne_of_forall₂_yields {test : List Token} {terms : List Term}
    (h : List.Forall₂ Yields test terms) (hne : test ≠ []) (hnot : test ≠ [.word "not"]) :
    terms ≠ [] ∧ terms ≠ [.word "not"] := by
  constructor
  · rintro rfl
    exact hne (List.forall₂_nil_right_iff.1 h)
  · rintro rfl
    obtain ⟨token, rest, htoken, hrest, rfl⟩ := List.forall₂_cons_right_iff.1 h
    rw [List.forall₂_nil_right_iff.1 hrest, htoken "not" rfl] at hnot
    exact hnot rfl

/-- Terms stand among the arguments if their tokens do. -/
theorem inArguments_of_forall₂ {scalar : Bool} {before : List Token}
    (h : InArguments scalar before) {terms : List Term}
    (hterms : List.Forall₂ Yields (before.rtakeWhile isPlain) terms) :
    Clause.InArguments scalar terms := by
  obtain ⟨hne, hnot⟩ := h
  cases scalar with
  | true => exact ne_of_forall₂_yields hterms hne hnot
  | false => exact ne_of_forall₂_yields (List.forall₂_drop 1 hterms) hne hnot

/-- **A place among the arguments stays one** through resolution: the terms before it are those of
its clause, and before them stands a parenthesis or an operator, if anything does. -/
theorem inArguments_of_each {scalar : Bool} {before : List Token} (h : InArguments scalar before)
    {bs : List Bound} {left left' : List Json}
    (hr : Resolving.each (resolve bindings defaults) before left = .ok (bs, left')) :
    ∃ (cs : List Bound) (terms : List Term), bs = cs ++ terms.map .term ∧
      (∀ token ∈ cs.getLast?, token.isStructural = true) ∧ Clause.InArguments scalar terms := by
  have hsplit : before.rdropWhile isPlain ++ before.rtakeWhile isPlain = before :=
    List.rdropWhile_append_rtakeWhile
  rw [← hsplit] at hr
  obtain ⟨cs, ds, mid, hcs, hds, rfl⟩ := Resolving.each_append_eq_ok hr
  have hplain : ∀ token ∈ before.rtakeWhile isPlain, token.isPlain = true :=
    fun token hmem => List.mem_rtakeWhile_imp hmem
  obtain ⟨terms, rfl, hterms⟩ := exists_forall₂_of_each hplain hds
  refine ⟨cs, terms, rfl, isStructural_of_each ?_ hcs, inArguments_of_forall₂ h hterms⟩
  intro token htoken
  obtain ⟨hne, rfl⟩ := List.mem_getLast?_eq_getLast htoken
  simpa using List.rdropWhile_last_not isPlain before hne

end Token

/-! ## Trees -/

namespace Group

/-- **A bound value compiles like the literal it replaces.** A literal among the arguments of a
clause, or in a keyword segment where it is no marker itself, is replaced by `?` or by a fresh name,
and its value is bound there: at the place that the markers `?` before it leave, or to the name.
With the marker the tokens have the same tree, or are refused with an error of the same kind. -/
theorem agree_build_of_replaces {literal : String} {marker : Marker} {index : Nat}
    {old new : Token} (h : Token.Replaces literal marker index old new) (before after : List Token)
    {scalar : Bool} (hplace : old = .word literal → Token.InArguments scalar before)
    (hfresh : marker ≠ .positional → ∀ token ∈ before ++ old :: after, marker ∉ token.markers)
    (bindings : Bindings) (defaults : Dict Json) (config : Config) :
    Agree (· = ·)
      (Token.resolveAll bindings defaults (before ++ old :: after) >>= build config scalar)
      (Token.resolveAll
          (bindings.bindAt marker (total Token.positionalCount before + index)
            (Json.ofLiteral literal))
          defaults (before ++ new :: after) >>= build config scalar) := by
  obtain ⟨bs, bs', hold, hnew, hR⟩ | ⟨e, e', hold, hnew, he⟩ :=
    (Token.resolveAll_of_replaces bindings defaults h before after hfresh).eq_or_eq
  · rw [hold, hnew]
    rcases hR with rfl | ⟨hword, taken, cs, ds, hcs, rfl, rfl⟩
    · exact Agree.refl (fun _ => rfl) _
    · obtain ⟨outer, terms, rfl, houter, hterms⟩ := Token.inArguments_of_each (hplace hword) hcs
      rw [List.append_assoc, List.append_assoc]
      exact agree_build_argument houter hterms literal ds
  · rw [hold, hnew]
    exact .error he

/-- Tokens before an argument, among them a marker that takes a value. -/
def sampleBefore : List Token :=
  [.opening, .word "a", .word "eq", .positional, .operator .all, .word "b", .word "not", .word "in"]

/-- Tokens after it, with another name. -/
def sampleAfter : List Token := [.keywords [⟨"k", some "::y"⟩, ⟨"?", none⟩], .closing]

/-- The case of a literal that is bound to a name. -/
theorem agree_build_of_replaces_sample :
    Token.Replaces "[2]" (.named "x") 0 (.word "[2]") (.named "x") ∧
      Token.InArguments false sampleBefore ∧
      (∀ token ∈ sampleBefore ++ .word "[2]" :: sampleAfter, Marker.named "x" ∉ token.markers) ∧
      (∃ g, (Token.resolveAll ⟨[.null, .bool true], []⟩ [("y", .null)]
        (sampleBefore ++ .word "[2]" :: sampleAfter) >>= build {} false) = .ok g) ∧
      Agree (· = ·)
        (Token.resolveAll ⟨[.null, .bool true], []⟩ [("y", .null)]
          (sampleBefore ++ .word "[2]" :: sampleAfter) >>= build {} false)
        (Token.resolveAll
            (Bindings.bindAt ⟨[.null, .bool true], []⟩ (.named "x")
              (total Token.positionalCount sampleBefore + 0) (Json.ofLiteral "[2]"))
            [("y", .null)] (sampleBefore ++ .named "x" :: sampleAfter) >>= build {} false) := by
  have hword : Token.Replaces "[2]" (.named "x") 0 (.word "[2]") (.named "x") := .word
  have hplace : Token.InArguments false sampleBefore := by decide
  have hfresh : ∀ token ∈ sampleBefore ++ .word "[2]" :: sampleAfter,
      Marker.named "x" ∉ token.markers := by
    decide
  exact ⟨hword, hplace, hfresh, ⟨_, rfl⟩, agree_build_of_replaces hword sampleBefore sampleAfter
    (fun _ => hplace) (fun _ => hfresh) _ _ _⟩

end Group

end RecordFilter
