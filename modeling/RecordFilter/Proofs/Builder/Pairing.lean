import RecordFilter.Proofs.Parens.Balance
import RecordFilter.Proofs.Parens.Meaning
import RecordFilter.Proofs.Resolution.Taking

/-!
# Groups are never refused for their parentheses

A token list that is one group may be refused for its bindings, its clauses or its operators, but
not because its parentheses do not pair. The builder has as many open groups as parentheses are
open, so it closes none that is not open and has none left at the end.

* `Paired` — an outcome that is no fault of pairing.
* `Token.paired_resolveAll` — resolution never faults so.
* `Builder.paired_run_group` — nor does a run over the inside of an open group and the parenthesis
  that closes it, and then the tree is complete.
* `Group.paired_ofTokens` — nor do the tokens of one group.
-/

namespace RecordFilter

/-! ## Faults of pairing -/

/-- **An outcome is no fault of pairing**: if it is an error, it is one of another kind. -/
def Paired {α : Type} (x : Except Error α) : Prop :=
  ∀ e, x = .error e → e.kind ≠ .unbalancedParens

namespace Paired

variable {α β : Type}

/-- A success is no fault of pairing. -/
theorem ok (a : α) : Paired (.ok a) := by
  intro e h
  cases h

/-- An error of another kind is no fault of pairing. -/
theorem error {e : Error} (h : e.kind ≠ .unbalancedParens) :
    Paired (.error e : Except Error α) := by
  intro e' he
  obtain rfl := Except.error.inj he
  exact h

/-- Two steps yield no fault of pairing if neither of them does. -/
theorem bind {x : Except Error α} {f : α → Except Error β} (hx : Paired x)
    (hf : ∀ a, x = .ok a → Paired (f a)) : Paired (x >>= f) := by
  cases x with
  | ok a => exact hf a rfl
  | error e => exact error (hx e rfl)

end Paired

/-! ## Resolution -/

section

variable (bindings : Bindings) (defaults : Dict Json)

/-- **Resolution is no fault of pairing.** -/
theorem Token.paired_resolveAll (tokens : List Token) :
    Paired (Token.resolveAll bindings defaults tokens) := by
  unfold Token.resolveAll
  dsimp only
  split
  · exact Paired.error nofun
  · split
    next => exact Paired.ok _
    next e he =>
      have hspends := Resolving.spends_each (Token.spends_resolve bindings defaults) tokens
      refine Paired.error fun hkind => ?_
      have hfault := hspends.fault _ e he
      rw [hkind] at hfault
      rcases hfault with (h | h | h) | ⟨h, -⟩ <;> cases h

end

/-! ### Parentheses of resolved tokens -/

/-- The parenthesis that a resolved token is. -/
def Bound.paren? : Bound → Option Char
  | .opening => some '('
  | .closing => some ')'
  | _ => none

/-- The text of the parentheses among resolved tokens. -/
def Bound.parens (tokens : List Bound) : List Char := tokens.filterMap Bound.paren?

section

variable {bindings : Bindings} {defaults : Dict Json}

/-- Resolution leaves parentheses as they are. -/
theorem Token.paren?_of_resolve {token : Token} {b : Bound} {left left' : List Json}
    (h : token.resolve bindings defaults left = .ok (b, left')) : b.paren? = token.paren? := by
  by_cases hplain : token.isPlain = true
  · obtain ⟨t, rfl⟩ := exists_term_of_resolve hplain h
    cases token with
    | opening | closing | operator _ => cases hplain
    | word _ | positional | named _ | keywords _ => rfl
  · cases token with
    | opening | closing | operator _ =>
      rw [resolve_of_structural rfl] at h
      obtain ⟨rfl, -⟩ := Prod.mk.inj (Except.ok.inj h)
      rfl
    | word _ | positional | named _ | keywords _ => exact absurd rfl hplain

/-- Resolution keeps the parentheses. -/
theorem Token.parens_of_each {tokens : List Token} {bs : List Bound} {left left' : List Json}
    (h : Resolving.each (resolve bindings defaults) tokens left = .ok (bs, left')) :
    Bound.parens bs = parens tokens := by
  induction tokens generalizing bs left with
  | nil =>
    obtain ⟨rfl, -⟩ := Prod.mk.inj (Except.ok.inj h)
    rfl
  | cons token rest ih =>
    obtain ⟨b, mid, cs, htoken, hrest, rfl⟩ := Resolving.each_cons_eq_ok h
    rw [Bound.parens, parens, List.filterMap_cons, List.filterMap_cons,
      paren?_of_resolve htoken, ← Bound.parens, ← parens, ih hrest]

/-- One group resolves to one group. -/
theorem Token.exists_of_resolveAll_group {inner : List Token} {bound : List Bound}
    (h : resolveAll bindings defaults (.opening :: inner ++ [.closing]) = .ok bound) :
    ∃ bs, bound = .opening :: bs ++ [.closing] ∧ Bound.parens bs = parens inner := by
  rw [resolveAll] at h
  split at h
  · cases h
  · rw [List.cons_append, Resolving.each_cons_of_ok (resolve_of_structural rfl _)] at h
    cases hinner : Resolving.each (resolve bindings defaults) inner bindings.positional with
    | error e => rw [Resolving.each_append_of_error hinner] at h; cases h
    | ok r =>
      obtain ⟨bs, last⟩ := r
      rw [Resolving.each_append_of_ok hinner,
        Resolving.each_cons_of_ok (resolve_of_structural rfl last)] at h
      exact ⟨bs, (Except.ok.inj h).symm, parens_of_each hinner⟩

end

/-! ## Building -/

/-- The name of a predicate is no place for faults of pairing. -/
theorem PredicateName.paired_resolve (config : Config) (name : String) :
    Paired (PredicateName.resolve config name) := by
  unfold PredicateName.resolve
  split
  · exact Paired.ok _
  · exact Paired.error nofun

section

variable (config : Config) (scalar : Bool)

/-- Nor is the test of a clause. -/
theorem Clause.paired_ofTest (text : String) (subject : Attribute) (terms : List Term) :
    Paired (Clause.ofTest config text subject terms) := by
  have hfinish (negate : Bool) (name : Term) (rest : List Term) :
      Paired (Clause.ofTest.finish config subject negate name rest) := by
    unfold Clause.ofTest.finish
    cases name.text? with
    | none => exact Paired.error nofun
    | some name =>
      dsimp only
      cases hname : PredicateName.resolve config name with
      | error e => exact Paired.error (PredicateName.paired_resolve config name e hname)
      | ok predicate => exact Paired.ok _
  unfold Clause.ofTest
  split
  · exact Paired.error nofun
  · exact Paired.error nofun
  · exact hfinish _ _ _
  · exact hfinish _ _ _

/-- Nor is a clause as a whole. -/
theorem Clause.paired_ofTerms (terms : List Term) :
    Paired (Clause.ofTerms config scalar terms) := by
  unfold Clause.ofTerms
  cases scalar with
  | true => exact Clause.paired_ofTest config _ _ terms
  | false =>
    cases terms with
    | nil => exact Paired.error nofun
    | cons first rest =>
      dsimp only
      cases first.text? with
      | none => exact Paired.error nofun
      | some path =>
        simp only [Bool.false_eq_true, if_false]
        split
        · exact Paired.error nofun
        · exact Clause.paired_ofTest config _ _ rest

namespace Frame

/-- A flush yields no fault of pairing. -/
theorem paired_flush (frame : Frame) : Paired (frame.flush config scalar) := by
  by_cases hterms : frame.terms = []
  · rw [flush_of_terms_eq_nil hterms]
    exact Paired.ok _
  · cases hc : Clause.ofTerms config scalar frame.terms with
    | ok clause =>
      rw [flush_of_ofTerms_eq_ok hterms hc]
      exact Paired.ok _
    | error e =>
      rw [flush_of_ofTerms_eq_error hterms hc]
      exact Paired.error (Clause.paired_ofTerms config scalar frame.terms e hc)

/-- Finishing a frame yields no fault of pairing. -/
theorem paired_finish (frame : Frame) : Paired frame.finish := by
  unfold finish
  split
  · exact Paired.error nofun
  · exact Paired.ok _
  · exact Paired.ok _
  · exact Paired.error nofun

/-- Closing a frame yields no fault of pairing. -/
theorem paired_close (frame : Frame) : Paired (frame.close config scalar) := by
  unfold close
  split
  · exact Paired.error nofun
  · cases hflush : frame.flush config scalar with
    | ok frame => exact frame.paired_finish
    | error e => exact Paired.error (frame.paired_flush config scalar e hflush)

/-- An operator inside a group yields no fault of pairing. -/
theorem paired_operator (frame : Frame) (combinator : Combinator) :
    Paired (frame.operator config scalar combinator) := by
  unfold operator
  split
  · exact Paired.error nofun
  · exact paired_flush config scalar _

end Frame

namespace Builder

/-- **A step inside an open group is no fault of pairing.** -/
theorem paired_step {b : Builder} (hopen : b.stack ≠ []) (hroot : b.root = none) (token : Bound) :
    Paired (step config scalar b token) := by
  obtain ⟨stack, root⟩ := b
  obtain rfl : root = none := hroot
  cases stack with
  | nil => exact absurd rfl hopen
  | cons frame rest =>
    cases token with
    | opening =>
      cases hflush : frame.flush config scalar with
      | error e =>
        simp only [step, hflush]
        exact Paired.error (frame.paired_flush config scalar e hflush)
      | ok frame' =>
        rw [(Moves.openChild hflush).step_eq]
        exact Paired.ok _
    | closing =>
      cases hclose : frame.close config scalar with
      | error e =>
        simp only [step, hclose]
        exact Paired.error (frame.paired_close config scalar e hclose)
      | ok g =>
        cases rest with
        | nil =>
          rw [(Moves.closeRoot hclose).step_eq]
          exact Paired.ok _
        | cons parent rest =>
          rw [(Moves.closeChild hclose).step_eq]
          exact Paired.ok _
    | operator combinator =>
      cases hoperator : frame.operator config scalar combinator with
      | error e =>
        simp only [step, hoperator]
        exact Paired.error (frame.paired_operator config scalar combinator e hoperator)
      | ok frame' =>
        rw [(Moves.operator hoperator).step_eq]
        exact Paired.ok _
    | term t => exact Paired.ok _

variable {config scalar}

/-- **The open groups go with the open parentheses**: what is left to read pairs with those that a
move leaves open, if it paired before. -/
theorem balancedFrom_of_moves {b b' : Builder} {token : Bound} (h : Moves config scalar b token b')
    {rest : List Bound} {depth : Nat} (hdepth : b.stack.length = depth + 1)
    (hbalanced : Parens.balancedFrom depth (Bound.parens (token :: rest)) = true) :
    ∃ depth', b'.stack.length = depth' + 1 ∧
      Parens.balancedFrom depth' (Bound.parens rest) = true := by
  cases h with
  | openRoot => cases hdepth
  | openChild _ => exact ⟨depth + 1, by simpa using hdepth, hbalanced⟩
  | closeRoot _ =>
    obtain rfl : depth = 0 := by simpa using hdepth
    cases hbalanced
  | closeChild _ =>
    cases depth with
    | zero => cases hbalanced
    | succ depth => exact ⟨depth, by simpa using hdepth, hbalanced⟩
  | operator _ | term _ => exact ⟨depth, hdepth, hbalanced⟩

/-- **A run over the inside of an open group** and the parenthesis that closes it is no fault of
pairing, and if it is accepted the tree is complete. -/
theorem paired_run_group {inner : List Bound} {b : Builder} {depth : Nat}
    (hdepth : b.stack.length = depth + 1) (hroot : b.root = none)
    (hbalanced : Parens.balancedFrom depth (Bound.parens inner) = true) :
    Paired (run config scalar b (inner ++ [.closing])) ∧
      ∀ b', run config scalar b (inner ++ [.closing]) = .ok b' →
        b'.stack = [] ∧ b'.root.isSome = true := by
  have hopen : b.stack ≠ [] := List.ne_nil_of_length_eq_add_one hdepth
-- by induction on the inside, with as many groups open as the depth says
  induction inner generalizing b depth with
  | nil =>
    have hstep := paired_step config scalar hopen hroot .closing
    rw [List.nil_append]
    cases h : step config scalar b .closing with
    | error e =>
      rw [run_cons_of_error h]
      exact ⟨Paired.error (hstep e h), nofun⟩
    | ok b' =>
      rw [run_cons_of_ok h]
      refine ⟨Paired.ok _, fun last hlast => ?_⟩
      obtain rfl := Except.ok.inj hlast
      obtain rfl : depth = 0 := by simpa [Bound.parens, Parens.balancedFrom] using hbalanced
      cases step_eq_ok_iff.1 h with
      | closeRoot _ => exact ⟨rfl, rfl⟩
      | closeChild _ => simp at hdepth
  | cons token rest ih =>
    rw [List.cons_append]
    cases h : step config scalar b token with
    | error e =>
      rw [run_cons_of_error h]
      exact ⟨Paired.error (paired_step config scalar hopen hroot token e h), nofun⟩
    | ok mid =>
      rw [run_cons_of_ok h]
      have hmove := step_eq_ok_iff.1 h
      obtain ⟨depth', hdepth', hbalanced'⟩ := balancedFrom_of_moves hmove hdepth hbalanced
      have hopen' : mid.stack ≠ [] := List.ne_nil_of_length_eq_add_one hdepth'
      have hroot' : mid.root = none := oneTree_of_moves (fun _ => hroot) hmove hopen'
      exact ih hdepth' hroot' hbalanced' hopen'

end Builder

/-- Resolved tokens whose parentheses are those of one group are never refused for them. -/
theorem Group.paired_build {inner : List Bound}
    (h : Parens.balanced (Bound.parens inner) = true) :
    Paired (Group.build config scalar (.opening :: inner ++ [.closing])) := by
  have hstart : Builder.step config scalar {} .opening = .ok ⟨[{ path := .root }], none⟩ := rfl
  have hrun : Builder.run config scalar {} (.opening :: inner ++ [.closing]) =
      Builder.run config scalar ⟨[{ path := .root }], none⟩ (inner ++ [.closing]) :=
    Builder.run_cons_of_ok hstart _
  obtain ⟨hpaired, hdone⟩ :=
    @Builder.paired_run_group config scalar inner ⟨[{ path := .root }], none⟩ 0 rfl rfl h
  rw [Group.build, hrun]
  cases hb : Builder.run config scalar ⟨[{ path := .root }], none⟩ (inner ++ [.closing]) with
  | error e => exact Paired.error (hpaired e hb)
  | ok b =>
    obtain ⟨hstack, hroot⟩ := hdone b hb
    obtain ⟨g, hg⟩ := Option.isSome_iff_exists.1 hroot
    simp only [Builder.result, hstack, hg]
    exact Paired.ok g

end

/-! ## Token lists -/

/-- **The tokens of one group are never refused for their parentheses**, whatever else is wrong with
them. -/
theorem Group.paired_ofTokens {tokens : List Token} (h : Token.OneGroup tokens)
    (bindings : Bindings) (config : Config) (scalar : Bool) :
    Paired (Group.ofTokens bindings config scalar tokens) := by
  obtain ⟨inner, rfl, hbalanced⟩ := h
  refine Paired.bind (Token.paired_resolveAll bindings _ _) fun bound hbound => ?_
  obtain ⟨bs, rfl, hparens⟩ := Token.exists_of_resolveAll_group hbound
  rw [Token.balanced_iff, ← hparens] at hbalanced
  exact Group.paired_build config scalar hbalanced

end RecordFilter
