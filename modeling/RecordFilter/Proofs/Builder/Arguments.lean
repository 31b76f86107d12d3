import RecordFilter.Proofs.Builder.Core

/-!
# Arguments by word and by value

A word among the arguments of a clause and the value that it spells compile to the same clause, and
clauses are all that the terms between two parentheses or operators leave in a tree.

* `Clause.InArguments` — the terms of a clause before one that is an argument.
* `Clause.agree_ofTerms_argument` — the clauses of a word and of its value.
* `Builder.agree_buildFrom_terms` — runs of terms with the same clause build the same tree.
* `Group.agree_build_argument` — **a word and its value build the same tree.**
-/

namespace RecordFilter

variable {config : Config} {scalar : Bool}

/-! ## Clauses -/

namespace Clause

/-- **What stands before an argument**: the attribute, if records have any, then perhaps `not`, then
the name of the predicate. -/
def InArguments (scalar : Bool) (before : List Term) : Prop :=
  let test := if scalar then before else before.drop 1
  test ≠ [] ∧ test ≠ [.word "not"]

/-- A word passes the value that it spells. -/
theorem arguments_word (before : List Term) (literal : String) (after : List Term) :
    arguments (before ++ .word literal :: after) =
      arguments (before ++ .value (Json.ofLiteral literal) :: after) := by
  rw [arguments, arguments, List.foldl_append, List.foldl_append, List.foldl_cons, List.foldl_cons]
  rfl

/-- A bare literal among the arguments is read as the JSON value that it spells. -/
theorem finish_argument (subject : Attribute) (negate : Bool) (name : Term) (before : List Term)
    (literal : String) (after : List Term) :
    ofTest.finish config subject negate name (before ++ .word literal :: after) =
      ofTest.finish config subject negate name
        (before ++ .value (Json.ofLiteral literal) :: after) := by
  unfold ofTest.finish
  rw [arguments_word]

/-- A clause whose first term is not the word `not` is not negated. -/
theorem ofTest_of_ne {name : Term} (h : name ≠ .word "not") (text : String) (subject : Attribute)
    (rest : List Term) :
    ofTest config text subject (name :: rest) = ofTest.finish config subject false name rest := by
  unfold ofTest
  split
  next heq => cases heq
  next heq => exact absurd (List.cons.inj heq).1 h
  next heq => exact absurd (List.cons.inj heq).1 h
  next heq =>
    obtain ⟨rfl, rfl⟩ := List.cons.inj heq
    rfl

/-- **A test with a word among its arguments**, and the one with its value. The texts that messages
would show may differ. -/
theorem ofTest_argument {test : List Term} (hne : test ≠ []) (hnot : test ≠ [.word "not"])
    (text text' : String) (subject : Attribute) (literal : String) (after : List Term) :
    ofTest config text subject (test ++ .word literal :: after) =
      ofTest config text' subject (test ++ .value (Json.ofLiteral literal) :: after) := by
  obtain ⟨name, rest, rfl⟩ := List.exists_cons_of_ne_nil hne
  rw [List.cons_append, List.cons_append]
  by_cases hname : name = .word "not"
  · subst hname
    have hrest : rest ≠ [] := fun hnil => hnot (by rw [hnil])
    obtain ⟨name, rest, rfl⟩ := List.exists_cons_of_ne_nil hrest
    exact finish_argument subject true name rest literal after
  · rw [ofTest_of_ne hname, ofTest_of_ne hname]
    exact finish_argument subject false name rest literal after

/-- **The clauses of a word and of its value** are the same, or both are refused with errors of one
kind. -/
theorem agree_ofTerms_argument {before : List Term} (h : InArguments scalar before)
    (literal : String) (after : List Term) :
    Agree (· = ·) (ofTerms config scalar (before ++ .word literal :: after))
      (ofTerms config scalar (before ++ .value (Json.ofLiteral literal) :: after)) := by
  obtain ⟨hne, hnot⟩ := h
  unfold ofTerms
  cases scalar with
  | true =>
    simp only [if_true] at hne hnot ⊢
    rw [ofTest_argument hne hnot]
    exact Agree.refl (fun _ => rfl) _
  | false =>
    simp only [Bool.false_eq_true, if_false] at hne hnot ⊢
    cases before with
    | nil => exact absurd rfl hne
    | cons first test =>
      rw [List.drop_one, List.tail_cons] at hne hnot
      simp only [List.cons_append]
      cases first.text? with
      | none => exact .error rfl
      | some path =>
        dsimp only
        split
        · exact .error rfl
        · rw [ofTest_argument hne hnot]
          exact Agree.refl (fun _ => rfl) _

end Clause

/-! ## Frames -/

namespace Frame

/-- Pending terms with the same clause compile to the same frame. -/
theorem agree_flush_written (frame : Frame) {terms terms' : List Term} (hne : terms ≠ [])
    (hne' : terms' ≠ [])
    (h : Agree (· = ·) (Clause.ofTerms config scalar terms)
      (Clause.ofTerms config scalar terms')) :
    Agree (· = ·) ((frame.written terms).flush config scalar)
      ((frame.written terms').flush config scalar) := by
  have hterms : (frame.written terms).terms ≠ [] := hne
  have hterms' : (frame.written terms').terms ≠ [] := hne'
  obtain ⟨clause, _, hc, hc', rfl⟩ | ⟨e, e', hc, hc', he⟩ := h.eq_or_eq
  · rw [flush_of_ofTerms_eq_ok hterms hc, flush_of_ofTerms_eq_ok hterms' hc']
    exact .ok rfl
  · rw [flush_of_ofTerms_eq_error hterms hc, flush_of_ofTerms_eq_error hterms' hc']
    exact .error he

end Frame

/-! ## Builders -/

namespace Builder

/-- A run over nothing, or up to a parenthesis or an operator, leaves nothing pending. -/
theorem settled_run {b b' : Builder} {tokens : List Bound} (hb : b.Settled)
    (htokens : ∀ token ∈ tokens.getLast?, token.isStructural = true)
    (h : run config scalar b tokens = .ok b') : b'.Settled := by
  obtain rfl | ⟨before, last, rfl⟩ := List.eq_nil_or_concat' tokens
  · exact Except.ok.inj h ▸ hb
  · cases hbefore : run config scalar b before with
    | error e => rw [run_append_of_error hbefore] at h; cases h
    | ok mid =>
      rw [run_append_of_ok hbefore] at h
      obtain ⟨final, hmove, hrun⟩ := run_cons_eq_ok_iff.1 h
      have hlast : last.isStructural = true := htokens last (by simp)
      exact Except.ok.inj hrun ▸ settled_of_moves hlast (flushed_run hb.flushed hbefore) hmove

/-! ### Runs of terms -/

/-- The tree of the tokens that a builder has still to read. -/
def buildFrom (config : Config) (scalar : Bool) (b : Builder) (tokens : List Bound) :
    Except Error Group :=
  match run config scalar b tokens with
  | .ok b => b.result
  | .error e => .error e

/-- A parenthesis that opens a group first ends the pending clause. -/
theorem step_opening_of_flush {frame frame' : Frame} (h : frame.flush config scalar = .ok frame')
    (rest : List Frame) (root : Option Group) :
    step config scalar ⟨frame :: rest, root⟩ .opening =
      step config scalar ⟨frame' :: rest, root⟩ .opening := by
  simp only [step, h, Frame.flush_of_terms_eq_nil (Frame.terms_of_flush h)]

/-- **Frames that compile to the same frame** go on alike after a parenthesis or an operator. -/
theorem agree_step_of_flush {frame frame' : Frame} (hd : frame.dangling = false)
    (hd' : frame'.dangling = false)
    (h : Agree (· = ·) (frame.flush config scalar) (frame'.flush config scalar)) {token : Bound}
    (htoken : token.isStructural = true) (rest : List Frame) (root : Option Group) :
    Agree (· = ·) (step config scalar ⟨frame :: rest, root⟩ token)
      (step config scalar ⟨frame' :: rest, root⟩ token) := by
  obtain ⟨flushed, _, hflush, hflush', rfl⟩ | ⟨e, e', hflush, hflush', he⟩ := h.eq_or_eq
  · have hstep : step config scalar ⟨frame :: rest, root⟩ token =
        step config scalar ⟨frame' :: rest, root⟩ token := by
      cases token with
      | opening => rw [step_opening_of_flush hflush, step_opening_of_flush hflush']
      | closing | operator _ => rw [step_of_flush rfl hd hflush, step_of_flush rfl hd' hflush']
      | term _ => cases htoken
    rw [hstep]
    exact Agree.refl (fun _ => rfl) _
  · cases token with
    | opening =>
      simp only [step, hflush, hflush']
      split
      · exact .error rfl
      · exact .error he
    | closing | operator _ =>
      rw [step_of_flush_error rfl hd hflush, step_of_flush_error rfl hd' hflush']
      exact .error he
    | term _ => cases htoken

/-- **Runs of terms with the same clause build the same tree**, where nothing was pending before
them and a parenthesis or an operator follows, if anything does. -/
theorem agree_buildFrom_terms {b : Builder} (hb : b.Settled) {terms terms' : List Term}
    (hne : terms ≠ []) (hne' : terms' ≠ [])
    (h : Agree (· = ·) (Clause.ofTerms config scalar terms) (Clause.ofTerms config scalar terms'))
    {after : List Bound} (hafter : ∀ token ∈ after.head?, token.isStructural = true) :
    Agree (· = ·) (buildFrom config scalar b (terms.map .term ++ after))
      (buildFrom config scalar b (terms'.map .term ++ after)) := by
  obtain ⟨stack, root⟩ := b
  unfold buildFrom
  cases stack with
  | nil =>
    -- outside of all groups the first term is refused
    obtain ⟨t, rest, rfl⟩ := List.exists_cons_of_ne_nil hne
    obtain ⟨t', rest', rfl⟩ := List.exists_cons_of_ne_nil hne'
    exact .error rfl
  | cons frame rest =>
    have hterms : frame.terms = [] := hb frame List.mem_cons_self
    rw [run_append_of_ok (run_terms_of_terms_eq_nil hterms hne rest root),
      run_append_of_ok (run_terms_of_terms_eq_nil hterms hne' rest root)]
    cases after with
    | nil => exact .error rfl
    | cons token after =>
      have htoken : token.isStructural = true := hafter token (by simp)
      obtain ⟨b, _, hstep, hstep', rfl⟩ | ⟨e, e', hstep, hstep', he⟩ :=
        (agree_step_of_flush rfl rfl (Frame.agree_flush_written frame hne hne' h) htoken rest
          root).eq_or_eq
      · rw [run_cons_of_ok hstep, run_cons_of_ok hstep']
        exact Agree.refl (fun _ => rfl) _
      · rw [run_cons_of_error hstep, run_cons_of_error hstep']
        exact .error he

end Builder

/-! ## Trees -/

/-- Resolved tokens start with terms, as far as they go. -/
theorem Bound.exists_terms (tokens : List Bound) :
    ∃ (terms : List Term) (after : List Bound), tokens = terms.map .term ++ after ∧
      ∀ token ∈ after.head?, token.isStructural = true := by
  induction tokens with
  | nil => exact ⟨[], [], rfl, nofun⟩
  | cons token rest ih =>
    cases token with
    | opening | closing | operator _ =>
      refine ⟨[], _, rfl, fun token htoken => ?_⟩
      obtain rfl := Option.some.inj htoken
      rfl
    | term t =>
      obtain ⟨terms, after, rfl, hafter⟩ := ih
      exact ⟨t :: terms, after, rfl, hafter⟩

/-- **A word among the arguments of a clause and its value build the same tree**, or both are
refused with errors of one kind. -/
theorem Group.agree_build_argument {before : List Bound}
    (hbefore : ∀ token ∈ before.getLast?, token.isStructural = true) {terms : List Term}
    (h : Clause.InArguments scalar terms) (literal : String) (after : List Bound) :
    Agree (· = ·)
      (build config scalar (before ++ (terms.map .term ++ .term (.word literal) :: after)))
      (build config scalar
        (before ++ (terms.map .term ++ .term (.value (Json.ofLiteral literal)) :: after))) := by
  obtain ⟨more, after, rfl, hafter⟩ := Bound.exists_terms after
  have hterms (t : Term) : terms.map Bound.term ++ .term t :: (more.map .term ++ after) =
      (terms ++ t :: more).map .term ++ after := by simp
  rw [hterms, hterms]
  cases hrun : Builder.run config scalar {} before with
  | error e =>
    rw [build, build, Builder.run_append_of_error hrun, Builder.run_append_of_error hrun]
    exact .error rfl
  | ok b =>
    have hstart : Builder.Settled {} := fun _ hmem => absurd hmem List.not_mem_nil
    have hsettled := Builder.settled_run hstart hbefore hrun
    have hclauses := @Clause.agree_ofTerms_argument config scalar terms h literal more
    have hagree := Builder.agree_buildFrom_terms hsettled (by simp) (by simp) hclauses hafter
    rw [build, build, Builder.run_append_of_ok hrun, Builder.run_append_of_ok hrun]
    exact hagree

end RecordFilter
