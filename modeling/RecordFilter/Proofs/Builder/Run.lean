import RecordFilter.Query.Builder

/-!
# Runs of the builder

* `Builder.step_opening_eq_bind` and its like — steps and runs as one outcome after another.
* `Builder.run_append_of_ok`, `Builder.run_append_of_error` — a run over two lists is a run over the
  first and then over the second.
* `Builder.run_terms` — what a run over terms adds to the innermost frame.
* `Builder.Moves`, `Builder.step_eq_ok_iff` — what an accepted token does, case by case.
* `Builder.OneTree` — while a group is open there is no finished tree; every move keeps it.
* `Builder.Flushed`, `Builder.Settled` — only the innermost open group has pending terms; after a
  parenthesis or an operator none has.
* `Builder.exists_fresh_of_moves` — after an opening parenthesis or an operator the innermost frame
  waits for an item.
-/

namespace RecordFilter

/-- Frames that wait for an item: nothing is written since they opened or since their last
operator. -/
structure Frame.Fresh (frame : Frame) : Prop where
  terms : frame.terms = []
  dangling : frame.dangling = true

namespace Frame

variable {config : Config} {scalar : Bool} {frame : Frame}

/-- Without pending terms there is nothing to compile. -/
theorem flush_of_terms_eq_nil (h : frame.terms = []) : frame.flush config scalar = .ok frame := by
  unfold flush
  rw [h]

/-- A flush adds the clause that the pending terms are. -/
theorem flush_of_ofTerms_eq_ok (h : frame.terms ≠ []) {clause : Clause}
    (hc : Clause.ofTerms config scalar frame.terms = .ok clause) :
    frame.flush config scalar =
      .ok { frame with items := frame.items ++ [.clause clause], terms := [] } := by
  unfold flush
  split
  next hnil => exact absurd hnil h
  next => rw [hc]

/-- A flush fails as the clause that the pending terms would be does. -/
theorem flush_of_ofTerms_eq_error (h : frame.terms ≠ []) {e : Error}
    (hc : Clause.ofTerms config scalar frame.terms = .error e) :
    frame.flush config scalar = .error e := by
  unfold flush
  split
  next hnil => exact absurd hnil h
  next => rw [hc]

/-- A flush with pending terms is one step: build the clause, then add it. -/
theorem flush_of_terms_ne_nil (h : frame.terms ≠ []) :
    frame.flush config scalar = (Clause.ofTerms config scalar frame.terms).bind fun clause =>
      .ok { frame with items := frame.items ++ [.clause clause], terms := [] } := by
  cases hc : Clause.ofTerms config scalar frame.terms with
  | error e => exact flush_of_ofTerms_eq_error h hc
  | ok clause => exact flush_of_ofTerms_eq_ok h hc

/-- A frame after compiling: as it was, if nothing was pending, or with one clause more. -/
theorem flush_eq_ok {frame' : Frame} (h : frame.flush config scalar = .ok frame') :
    (frame.terms = [] ∧ frame' = frame) ∨
      ∃ clause, frame.terms ≠ [] ∧ Clause.ofTerms config scalar frame.terms = .ok clause ∧
        frame' = { frame with items := frame.items ++ [.clause clause], terms := [] } := by
  by_cases hterms : frame.terms = []
  · rw [flush_of_terms_eq_nil hterms] at h
    exact .inl ⟨hterms, (Except.ok.inj h).symm⟩
  · cases hc : Clause.ofTerms config scalar frame.terms with
    | error e => rw [flush_of_ofTerms_eq_error hterms hc] at h; cases h
    | ok clause =>
      rw [flush_of_ofTerms_eq_ok hterms hc] at h
      exact .inr ⟨clause, hterms, rfl, (Except.ok.inj h).symm⟩

/-- A flush leaves no terms. -/
theorem terms_of_flush {frame' : Frame} (h : frame.flush config scalar = .ok frame') :
    frame'.terms = [] := by
  rcases flush_eq_ok h with ⟨hterms, rfl⟩ | ⟨_, _, _, rfl⟩
  · exact hterms
  · rfl

/-- A flush leaves a dangling operator as it is. -/
theorem dangling_of_flush {frame' : Frame} (h : frame.flush config scalar = .ok frame') :
    frame'.dangling = frame.dangling := by
  rcases flush_eq_ok h with ⟨_, rfl⟩ | ⟨_, _, _, rfl⟩ <;> rfl

/-- Closing compiles what is pending and then finishes the group. -/
theorem close_eq_bind (frame : Frame) :
    frame.close config scalar =
      if frame.dangling && !frame.items.isEmpty then
        .error (.invalidClause (.trailingOperator frame.path))
      else (frame.flush config scalar).bind finish := by
  unfold close
  cases frame.flush config scalar <;> rfl

/-- The frame with pending terms in place of those it has. -/
def written (frame : Frame) (terms : List Term) : Frame := { frame with terms, dangling := false }

/-! ## Operators -/

/-- The frame with the mark that an operator leaves. -/
def marked (frame : Frame) (combinator : Combinator) : Frame :=
  { frame with
    dangling := true
    combinator := frame.combinator.or (some combinator) }

/-- An operator after an item is a marked flush. -/
theorem operator_of_not_dangling (h : frame.dangling = false) (combinator : Combinator) :
    frame.operator config scalar combinator = (frame.marked combinator).flush config scalar := by
  rw [operator, if_neg (by simp [h])]
  rfl

/-- The order of flushing and marking does not matter. -/
theorem flush_marked {frame' : Frame} (h : frame.flush config scalar = .ok frame')
    (combinator : Combinator) :
    (frame.marked combinator).flush config scalar = .ok (frame'.marked combinator) := by
  rcases flush_eq_ok h with ⟨hterms, rfl⟩ | ⟨clause, hterms, hc, rfl⟩
  · exact flush_of_terms_eq_nil hterms
  · have hmarked : (frame.marked combinator).terms ≠ [] := hterms
    exact flush_of_ofTerms_eq_ok hmarked hc

/-- A flush fails on a marked frame as it does before. -/
theorem flush_marked_of_error {e : Error} (h : frame.flush config scalar = .error e)
    (combinator : Combinator) : (frame.marked combinator).flush config scalar = .error e := by
  by_cases hterms : frame.terms = []
  · rw [flush_of_terms_eq_nil hterms] at h
    cases h
  · cases hc : Clause.ofTerms config scalar frame.terms with
    | ok clause => rw [flush_of_ofTerms_eq_ok hterms hc] at h; cases h
    | error e' =>
      rw [flush_of_ofTerms_eq_error hterms hc] at h
      cases h
      have hmarked : (frame.marked combinator).terms ≠ [] := hterms
      exact flush_of_ofTerms_eq_error hmarked hc

/-- **An operator** is accepted after an item, and compiles what is pending. -/
theorem operator_eq_ok_iff {frame' : Frame} {combinator : Combinator} :
    frame.operator config scalar combinator = .ok frame' ↔
      frame.dangling = false ∧
        ∃ flushed, frame.flush config scalar = .ok flushed ∧
          frame' = flushed.marked combinator := by
  cases hd : frame.dangling with
  | true => simp [operator, hd]
  | false =>
    rw [operator_of_not_dangling hd]
    cases h : frame.flush config scalar with
    | error e => simp [flush_marked_of_error h]
    | ok flushed => simp [flush_marked h, eq_comm]

end Frame

/-- A parenthesis or an operator. -/
def Bound.isStructural : Bound → Bool
  | .term _ => false
  | _ => true

/-- A token without structure is a term. -/
theorem Bound.exists_term_of_not_isStructural {token : Bound} (h : token.isStructural = false) :
    ∃ t, token = .term t := by
  cases token with
  | opening | closing | operator _ => cases h
  | term t => exact ⟨t, rfl⟩

namespace Builder

variable {config : Config} {scalar : Bool}

/-! ## Equations -/

/-- A parenthesis that opens a group, as one step after the flush. -/
theorem step_opening_eq_bind (parent : Frame) (rest : List Frame) :
    step config scalar ⟨parent :: rest, none⟩ .opening =
      (parent.flush config scalar).bind fun parent =>
        .ok ⟨{ path := parent.path.child parent.nextChild } ::
          { parent with nextChild := parent.nextChild + 1 } :: rest, none⟩ := by
  simp only [step, Option.isSome_none, Bool.false_eq_true, if_false]
  cases parent.flush config scalar <;> rfl

/-- A parenthesis that closes a group, as one step after the group is closed. -/
theorem step_closing_eq_bind (frame : Frame) (rest : List Frame) (root : Option Group) :
    step config scalar ⟨frame :: rest, root⟩ .closing =
      (frame.close config scalar).bind fun g =>
        match rest with
        | [] => .ok ⟨[], some g⟩
        | parent :: rest => .ok ⟨parent.addGroup g :: rest, root⟩ := by
  simp only [step]
  cases frame.close config scalar <;> rfl

/-- An operator, as one step of the innermost frame. -/
theorem step_operator_eq_bind (frame : Frame) (rest : List Frame) (root : Option Group)
    (combinator : Combinator) :
    step config scalar ⟨frame :: rest, root⟩ (.operator combinator) =
      (frame.operator config scalar combinator).bind fun frame => .ok ⟨frame :: rest, root⟩ := by
  simp only [step]
  cases frame.operator config scalar combinator <;> rfl

/-- A run is its first step and the run from there. -/
theorem run_cons_eq_bind (b : Builder) (token : Bound) (rest : List Bound) :
    run config scalar b (token :: rest) =
      (step config scalar b token).bind fun b => run config scalar b rest := by
  rw [run]
  cases step config scalar b token <;> rfl

/-- Building is a run from the empty builder and its result. -/
theorem build_eq_bind (tokens : List Bound) :
    Group.build config scalar tokens = (run config scalar {} tokens).bind result := by
  unfold Group.build
  cases run config scalar {} tokens <;> rfl

/-! ## Lists of tokens -/

/-- A run goes on from a step that succeeds. -/
theorem run_cons_of_ok {b b' : Builder} {token : Bound} (h : step config scalar b token = .ok b')
    (rest : List Bound) : run config scalar b (token :: rest) = run config scalar b' rest := by
  rw [run, h]

/-- A run fails with its first step. -/
theorem run_cons_of_error {b : Builder} {token : Bound} {e : Error}
    (h : step config scalar b token = .error e) (rest : List Bound) :
    run config scalar b (token :: rest) = .error e := by
  rw [run, h]

/-- What a token does is all that the rest of a run depends on. -/
theorem run_cons_congr {b b' : Builder} {token : Bound}
    (h : step config scalar b token = step config scalar b' token) (rest : List Bound) :
    run config scalar b (token :: rest) = run config scalar b' (token :: rest) := by
  rw [run, run, h]

/-- **A run over two lists**: over the first, and from there over the second. -/
theorem run_append_of_ok {b b' : Builder} {before : List Bound}
    (h : run config scalar b before = .ok b') (after : List Bound) :
    run config scalar b (before ++ after) = run config scalar b' after := by
  induction before generalizing b with
  | nil =>
    rw [run] at h
    rw [Except.ok.inj h, List.nil_append]
  | cons token rest ih =>
    rw [List.cons_append]
    cases hstep : step config scalar b token with
    | error e => rw [run_cons_of_error hstep] at h; cases h
    | ok mid =>
      rw [run_cons_of_ok hstep] at h ⊢
      exact ih h

/-- A run that has failed stays failed. -/
theorem run_append_of_error {b : Builder} {before : List Bound} {e : Error}
    (h : run config scalar b before = .error e) (after : List Bound) :
    run config scalar b (before ++ after) = .error e := by
  induction before generalizing b with
  | nil => cases h
  | cons token rest ih =>
    rw [List.cons_append]
    cases hstep : step config scalar b token with
    | error e' =>
      rw [run_cons_of_error hstep] at h ⊢
      exact h
    | ok mid =>
      rw [run_cons_of_ok hstep] at h ⊢
      exact ih h

/-- A run over terms writes them into the innermost frame. -/
theorem run_terms (frame : Frame) (rest : List Frame) (root : Option Group) (terms : List Term) :
    run config scalar ⟨frame :: rest, root⟩ (terms.map .term) =
      .ok ⟨{ frame with
        terms := frame.terms ++ terms
        dangling := frame.dangling && terms.isEmpty } :: rest, root⟩ := by
  induction terms generalizing frame with
  | nil => simp [run]
  | cons t terms ih =>
    have hstep : step config scalar ⟨frame :: rest, root⟩ (.term t) =
        .ok ⟨frame.term t :: rest, root⟩ := rfl
    rw [List.map_cons, run_cons_of_ok hstep, ih]
    simp [Frame.term]

/-- The terms of one run are written to a frame that has none pending. -/
theorem run_terms_of_terms_eq_nil {frame : Frame} (h : frame.terms = []) {terms : List Term}
    (hterms : terms ≠ []) (rest : List Frame) (root : Option Group) :
    run config scalar ⟨frame :: rest, root⟩ (terms.map .term) =
      .ok ⟨frame.written terms :: rest, root⟩ := by
  rw [run_terms, h, List.nil_append]
  simp [Frame.written, hterms]

/-! ## Moves -/

/-- **What a token can do**, case by case, when it is accepted. -/
inductive Moves (config : Config) (scalar : Bool) : Builder → Bound → Builder → Prop
  | openRoot : Moves config scalar ⟨[], none⟩ .opening ⟨[{ path := .root }], none⟩
  | openChild {parent parent' : Frame} {rest : List Frame}
      (hflush : parent.flush config scalar = .ok parent') :
      Moves config scalar ⟨parent :: rest, none⟩ .opening
        ⟨{ path := parent'.path.child parent'.nextChild } ::
          { parent' with nextChild := parent'.nextChild + 1 } :: rest, none⟩
  | closeRoot {frame : Frame} {root : Option Group} {g : Group}
      (hclose : frame.close config scalar = .ok g) :
      Moves config scalar ⟨[frame], root⟩ .closing ⟨[], some g⟩
  | closeChild {frame parent : Frame} {rest : List Frame} {root : Option Group} {g : Group}
      (hclose : frame.close config scalar = .ok g) :
      Moves config scalar ⟨frame :: parent :: rest, root⟩ .closing
        ⟨parent.addGroup g :: rest, root⟩
  | operator {frame frame' : Frame} {rest : List Frame} {root : Option Group}
      {combinator : Combinator}
      (hoperator : frame.operator config scalar combinator = .ok frame') :
      Moves config scalar ⟨frame :: rest, root⟩ (.operator combinator) ⟨frame' :: rest, root⟩
  | term {frame : Frame} {rest : List Frame} {root : Option Group} (t : Term) :
      Moves config scalar ⟨frame :: rest, root⟩ (.term t) ⟨frame.term t :: rest, root⟩

/-- Every move is a step. -/
theorem Moves.step_eq {b b' : Builder} {token : Bound} (h : Moves config scalar b token b') :
    step config scalar b token = .ok b' := by
  cases h with
  | openRoot | term => rfl
  | openChild h | closeRoot h | closeChild h | operator h => simp [step, h]

/-- **A step is accepted if and only if it is a move.** -/
theorem step_eq_ok_iff {b b' : Builder} {token : Bound} :
    step config scalar b token = .ok b' ↔ Moves config scalar b token b' := by
  refine ⟨fun h => ?_, Moves.step_eq⟩
  obtain ⟨stack, root⟩ := b
  cases token with
  | opening =>
    cases root with
    | some g => cases h
    | none =>
      cases stack with
      | nil => exact Except.ok.inj h ▸ .openRoot
      | cons parent rest =>
        cases hflush : parent.flush config scalar with
        | error e => simp [step, hflush] at h
        | ok parent' =>
          simp only [step, hflush, Option.isSome_none, Bool.false_eq_true, if_false] at h
          exact Except.ok.inj h ▸ .openChild hflush
  | closing =>
    cases stack with
    | nil => cases h
    | cons frame rest =>
      cases hclose : frame.close config scalar with
      | error e => simp [step, hclose] at h
      | ok g =>
        simp only [step, hclose] at h
        cases rest with
        | nil => exact Except.ok.inj h ▸ .closeRoot hclose
        | cons parent rest => exact Except.ok.inj h ▸ .closeChild hclose
  | operator combinator =>
    cases stack with
    | nil => cases h
    | cons frame rest =>
      cases hoperator : frame.operator config scalar combinator with
      | error e => simp [step, hoperator] at h
      | ok frame' =>
        simp only [step, hoperator] at h
        exact Except.ok.inj h ▸ .operator hoperator
  | term t =>
    cases stack with
    | nil => cases h
    | cons frame rest => exact Except.ok.inj h ▸ .term t

/-- A run that is accepted starts with a move. -/
theorem run_cons_eq_ok_iff {b b' : Builder} {token : Bound} {rest : List Bound} :
    run config scalar b (token :: rest) = .ok b' ↔
      ∃ mid, Moves config scalar b token mid ∧ run config scalar mid rest = .ok b' := by
  rw [run]
  cases h : step config scalar b token with
  | error e =>
    refine ⟨fun h' => (by cases h'), ?_⟩
    rintro ⟨mid, hmove, -⟩
    rw [hmove.step_eq] at h
    cases h
  | ok mid =>
    refine ⟨fun h' => ⟨mid, step_eq_ok_iff.1 h, h'⟩, ?_⟩
    rintro ⟨mid', hmove, hrun⟩
    rw [hmove.step_eq] at h
    exact Except.ok.inj h ▸ hrun

/-! ## One tree -/

/-- While a group is open there is no finished tree. -/
def OneTree (b : Builder) : Prop := b.stack ≠ [] → b.root = none

/-- A move keeps all frames in one tree. -/
theorem oneTree_of_moves {b b' : Builder} {token : Bound} (hb : b.OneTree)
    (h : Moves config scalar b token b') : b'.OneTree := by
  cases h with
  | openRoot | openChild _ => exact fun _ => rfl
  | closeRoot _ => exact fun hne => absurd rfl hne
  | closeChild _ | operator _ | term _ => exact fun _ => hb (List.cons_ne_nil _ _)

/-- A run keeps all frames in one tree. -/
theorem oneTree_run {b b' : Builder} {tokens : List Bound} (hb : b.OneTree)
    (h : run config scalar b tokens = .ok b') : b'.OneTree := by
  induction tokens generalizing b with
  | nil => exact Except.ok.inj h ▸ hb
  | cons token rest ih =>
    obtain ⟨mid, hmove, hrun⟩ := run_cons_eq_ok_iff.1 h
    exact ih (oneTree_of_moves hb hmove) hrun

/-! ## Pending terms -/

/-- **Only the innermost open group has pending terms.** -/
def Flushed (b : Builder) : Prop := ∀ frame ∈ b.stack.tail, frame.terms = []

/-- **No open group has pending terms.** -/
def Settled (b : Builder) : Prop := ∀ frame ∈ b.stack, frame.terms = []

/-- Where every clause is settled, every outer frame is flushed. -/
theorem Settled.flushed {b : Builder} (h : b.Settled) : b.Flushed :=
  fun frame hmem => h frame (List.mem_of_mem_tail hmem)

/-- **A parenthesis or an operator settles** what is pending. -/
theorem settled_of_moves {b b' : Builder} {token : Bound} (htoken : token.isStructural = true)
    (hb : b.Flushed) (h : Moves config scalar b token b') : b'.Settled := by
  cases h with
  | openRoot => exact List.forall_mem_singleton.2 rfl
  | @openChild parent parent' rest hflush =>
    have hparent : parent'.terms = [] := Frame.terms_of_flush hflush
    exact List.forall_mem_cons.2 ⟨rfl, List.forall_mem_cons.2 ⟨hparent, hb⟩⟩
  | closeRoot _ => exact fun _ hmem => absurd hmem List.not_mem_nil
  | closeChild _ =>
    obtain ⟨hparent, hrest⟩ := List.forall_mem_cons.1 hb
    exact List.forall_mem_cons.2 ⟨hparent, hrest⟩
  | operator hoperator =>
    obtain ⟨-, flushed, hflush, rfl⟩ := Frame.operator_eq_ok_iff.1 hoperator
    have hterms : flushed.terms = [] := Frame.terms_of_flush hflush
    exact List.forall_mem_cons.2 ⟨hterms, hb⟩
  | term _ => cases htoken

/-- A move keeps the outer frames flushed. -/
theorem flushed_of_moves {b b' : Builder} {token : Bound} (hb : b.Flushed)
    (h : Moves config scalar b token b') : b'.Flushed := by
  cases htoken : token.isStructural with
  | true => exact (settled_of_moves htoken hb h).flushed
  | false =>
    cases h with
    | term _ => exact hb
    | openRoot | openChild _ | closeRoot _ | closeChild _ | operator _ => cases htoken

/-- A run keeps the outer frames flushed. -/
theorem flushed_run {b b' : Builder} {tokens : List Bound} (hb : b.Flushed)
    (h : run config scalar b tokens = .ok b') : b'.Flushed := by
  induction tokens generalizing b with
  | nil => exact Except.ok.inj h ▸ hb
  | cons token rest ih =>
    obtain ⟨mid, hmove, hrun⟩ := run_cons_eq_ok_iff.1 h
    exact ih (flushed_of_moves hb hmove) hrun

/-! ## Frames that wait for an item -/

/-- Tokens after which an item has to follow. -/
def expectsItem : Bound → Bool
  | .opening | .operator _ => true
  | _ => false

/-- **After an opening parenthesis or an operator the innermost frame is fresh.** -/
theorem exists_fresh_of_moves {b b' : Builder} {token : Bound} (htoken : expectsItem token = true)
    (hb : b.OneTree) (h : Moves config scalar b token b') :
    ∃ frame rest, b' = ⟨frame :: rest, none⟩ ∧ frame.Fresh := by
  cases h with
  | openRoot | openChild _ => exact ⟨_, _, rfl, rfl, rfl⟩
  | closeRoot _ | closeChild _ | term _ => cases htoken
  | @operator frame frame' rest root combinator hoperator =>
    obtain rfl : root = none := hb (List.cons_ne_nil _ _)
    obtain ⟨-, flushed, hflush, rfl⟩ := Frame.operator_eq_ok_iff.1 hoperator
    have hterms : flushed.terms = [] := Frame.terms_of_flush hflush
    exact ⟨_, rest, rfl, hterms, rfl⟩

/-- A run that ends with such a token leaves a fresh innermost frame. -/
theorem exists_fresh_of_run {b b' : Builder} {before : List Bound} {token : Bound}
    (htoken : expectsItem token = true) (hb : b.OneTree)
    (h : run config scalar b (before ++ [token]) = .ok b') :
    ∃ frame rest, b' = ⟨frame :: rest, none⟩ ∧ frame.Fresh := by
  cases hbefore : run config scalar b before with
  | error e => rw [run_append_of_error hbefore] at h; cases h
  | ok mid =>
    rw [run_append_of_ok hbefore] at h
    obtain ⟨last, hmove, hrun⟩ := run_cons_eq_ok_iff.1 h
    exact Except.ok.inj hrun ▸ exists_fresh_of_moves htoken (oneTree_run hb hbefore) hmove

end Builder

end RecordFilter
