import RecordFilter.Proofs.Builder.Grammar
import RecordFilter.Proofs.Builder.Run

/-!
# Acceptance

The builder accepts the groups of the grammar and nothing else. What a frame has read is a beginning
of a body, with the pending terms as its last part; the flags of the frame say what may follow.

* `Frame.Reads`, `Frame.Holds` — the parts that a frame has read, without and with the pending
  terms.
* `Frame.Holds.close_iff`, `Frame.Holds.operator` — when a group closes, and what an operator adds.
* `Builder.Reads`, `Builder.reads_run` — the tokens that a builder has read; every accepted token
  keeps it.
* `Builder.runs_of_admissible` — what the grammar allows is read.
* `Group.build_eq_ok_iff` — a token list has a tree if and only if it is a group of the grammar.
-/

namespace RecordFilter

variable {config : Config} {scalar : Bool}

/-! ## Parts of a frame -/

namespace Frame

variable {frame frame' : Frame} {done parts : List Part}

/-- The part that the pending terms are. -/
def pending (frame : Frame) : List Part :=
  match frame.terms with
  | [] => []
  | terms => [.run terms]

/-- Without terms there is no pending run. -/
theorem pending_of_terms_eq_nil (h : frame.terms = []) : frame.pending = [] := by
  rw [pending, h]

/-- The pending run has all terms so far. -/
theorem pending_of_terms_ne_nil (h : frame.terms ≠ []) : frame.pending = [.run frame.terms] := by
  unfold pending
  split
  next hnil => exact absurd hnil h
  next => rfl

/-- The tokens of the pending run are its terms. -/
theorem tokensOf_pending (frame : Frame) :
    Part.tokensOf frame.pending = frame.terms.map .term := by
  by_cases h : frame.terms = []
  · rw [pending_of_terms_eq_nil h, h]
    rfl
  · rw [pending_of_terms_ne_nil h, Part.tokensOf_singleton, Part.tokens]

/-- **The finished parts of a frame**, and what its fields know of them. -/
structure Reads (config : Config) (scalar : Bool) (frame : Frame) (done : List Part) : Prop where
  admissible : ∀ part ∈ done, part.Admissible config scalar
  items : frame.items.length = done.countP Part.isItem
  combinator : frame.combinator.isSome = done.any Part.isOperator
  dangling : frame.dangling = Part.awaitsItem (done ++ frame.pending)
  begins : Part.Begins (done ++ frame.pending)

namespace Reads

/-- A frame that was just opened has read nothing. -/
theorem opened (path : GroupPath) : Reads config scalar { path } [] where
  admissible := fun _ h => absurd h List.not_mem_nil
  items := rfl
  combinator := rfl
  dangling := rfl
  begins := Part.begins_nil

/-- One finished part more, in a frame that nothing is pending in. -/
theorem concat {part : Part} (h : Reads config scalar frame done)
    (hpart : part.Admissible config scalar) (hterms : frame'.terms = [])
    (hitems : frame'.items.length = frame.items.length + [part].countP Part.isItem)
    (hcombinator : frame'.combinator.isSome = (frame.combinator.isSome || part.isOperator))
    (hdangling : frame'.dangling = part.isOperator) (hbegins : Part.Begins (done ++ [part])) :
    Reads config scalar frame' (done ++ [part]) where
  admissible := List.forall_mem_append.2 ⟨h.admissible, List.forall_mem_singleton.2 hpart⟩
  items := by rw [hitems, h.items, List.countP_append]
  combinator := by
    rw [hcombinator, h.combinator, List.any_append, List.any_cons, List.any_nil, Bool.or_false]
  dangling := by
    rw [hdangling, pending_of_terms_eq_nil hterms, List.append_nil, Part.awaitsItem_concat]
  begins := by rwa [pending_of_terms_eq_nil hterms, List.append_nil]

/-- Pending terms that compile are a finished part. -/
theorem flush (h : Reads config scalar frame done)
    (hflush : frame.flush config scalar = .ok frame') :
    Reads config scalar frame' (done ++ frame.pending) := by
  obtain ⟨hterms, rfl⟩ | ⟨clause, hterms, hc, rfl⟩ := flush_eq_ok hflush
  · have hpending := pending_of_terms_eq_nil hterms
    rwa [hpending, List.append_nil]
  · have hdangling := h.dangling
    have hbegins := h.begins
    rw [pending_of_terms_ne_nil hterms] at hdangling hbegins ⊢
    rw [Part.awaitsItem_concat] at hdangling
    have hcombinator : frame.combinator.isSome = (frame.combinator.isSome || false) :=
      (Bool.or_false _).symm
    exact h.concat (.run hterms hc) rfl List.length_append hcombinator hdangling hbegins

/-- Terms go on the pending run, or begin one. -/
theorem written (h : Reads config scalar frame done) (hrun : Part.endsInRun done = false)
    {terms : List Term} (hterms : terms ≠ []) :
    Reads config scalar (frame.written terms) done ∧
      (frame.written terms).pending = [.run terms] := by
  have hpending : (frame.written terms).pending = [.run terms] :=
    pending_of_terms_ne_nil hterms
  refine ⟨⟨h.admissible, h.items, h.combinator, ?_, ?_⟩, hpending⟩
  · rw [hpending, Part.awaitsItem_concat]
    rfl
  · rw [hpending]
    exact h.begins.left.concat_run hrun terms

/-- An operator after a frame without pending terms. -/
theorem marked (h : Reads config scalar frame done) (hterms : frame.terms = [])
    (hd : frame.dangling = false) (combinator : Combinator) :
    Reads config scalar (frame.marked combinator) (done ++ [.operator combinator]) := by
  have hdangling := h.dangling
  have hbegins := h.begins
  rw [pending_of_terms_eq_nil hterms, List.append_nil] at hdangling hbegins
  have hcombinator : (frame.marked combinator).combinator.isSome =
      (frame.combinator.isSome || true) := Option.isSome_or
  exact h.concat (.operator combinator) hterms rfl hcombinator rfl
    (hbegins.concat_operator (hdangling ▸ hd) combinator)

/-- A group after a frame without pending terms. -/
theorem addGroup (h : Reads config scalar frame done) (hterms : frame.terms = [])
    (hparts : (Part.group parts).Admissible config scalar) (g : Group) :
    Reads config scalar (frame.addGroup g) (done ++ [.group parts]) := by
  have hbegins := h.begins
  rw [pending_of_terms_eq_nil hterms, List.append_nil] at hbegins
  have hcombinator : (frame.addGroup g).combinator.isSome = (frame.combinator.isSome || false) :=
    (Bool.or_false _).symm
  exact h.concat hparts hterms List.length_append hcombinator rfl (hbegins.concat_group parts)

end Reads

/-- Pending terms compile if they are an admissible run. -/
theorem exists_flush (h : ∀ part ∈ frame.pending, part.Admissible config scalar) :
    ∃ frame', frame.flush config scalar = .ok frame' := by
  by_cases hterms : frame.terms = []
  · exact ⟨frame, flush_of_terms_eq_nil hterms⟩
  · rw [pending_of_terms_ne_nil hterms] at h
    cases h _ (List.mem_singleton.2 rfl) with
    | run _ hc => exact ⟨_, flush_of_ofTerms_eq_ok hterms hc⟩

/-- Items without an operator make a group if there is one of them. -/
theorem finish_iff :
    (∃ g, frame.finish = .ok g) ↔
      1 ≤ frame.items.length ∧ (2 ≤ frame.items.length → frame.combinator.isSome = true) := by
  obtain ⟨path, combinator, items, terms, nextChild, dangling⟩ := frame
  match combinator, items with
  | some _, [] | none, [] => simp [finish]
  | some _, _ :: _ => simp [finish]
  | none, [_] => simp [finish]
  | none, _ :: _ :: _ => simp [finish]

/-! ### With the pending terms -/

/-- **The parts of a frame**, the pending terms included: these end the last run. -/
def Holds (config : Config) (scalar : Bool) (frame : Frame) (parts : List Part) : Prop :=
  ∃ done, Reads config scalar frame done ∧ Part.endsInRun done = false ∧
    done ++ frame.pending = parts

/-- The parts of a frame that nothing is pending in, as while a group inside it is open. -/
structure Waits (config : Config) (scalar : Bool) (frame : Frame) (parts : List Part) : Prop where
  reads : Reads config scalar frame parts
  terms : frame.terms = []

namespace Waits

/-- Counting the groups inside a frame does not touch its parts. -/
theorem counted (h : Waits config scalar frame parts) (nextChild : Nat) :
    Waits config scalar { frame with nextChild } parts where
  reads :=
    ⟨h.reads.admissible, h.reads.items, h.reads.combinator, h.reads.dangling, h.reads.begins⟩
  terms := h.terms

/-- A frame whose last part is an item goes on with an operator. -/
theorem marked (h : Waits config scalar frame parts) (hitem : Part.awaitsItem parts = false)
    (combinator : Combinator) :
    Holds config scalar (frame.marked combinator) (parts ++ [.operator combinator]) := by
  have hd : frame.dangling = false := by
    rw [h.reads.dangling, pending_of_terms_eq_nil h.terms, List.append_nil, hitem]
  have hpending : (frame.marked combinator).pending = [] := pending_of_terms_eq_nil h.terms
  refine ⟨_, h.reads.marked h.terms hd combinator, ?_, ?_⟩
  · rw [Part.endsInRun_concat]
    rfl
  · rw [hpending, List.append_nil]

/-- A frame between two clauses takes the group that was closed inside it. -/
theorem addGroup (h : Waits config scalar frame parts) {inner : List Part}
    (hinner : (Part.group inner).Admissible config scalar) (g : Group) :
    Holds config scalar (frame.addGroup g) (parts ++ [.group inner]) := by
  have hpending : (frame.addGroup g).pending = [] := pending_of_terms_eq_nil h.terms
  refine ⟨_, h.reads.addGroup h.terms hinner g, ?_, ?_⟩
  · rw [Part.endsInRun_concat]
    rfl
  · rw [hpending, List.append_nil]

/-- A frame can be finished exactly if it has an item, and an operator if it has more than one. -/
theorem finish_iff (h : Waits config scalar frame parts) :
    (∃ g, frame.finish = .ok g) ↔
      1 ≤ parts.countP Part.isItem ∧
        (2 ≤ parts.countP Part.isItem → ∃ part ∈ parts, part.isOperator = true) := by
  rw [Frame.finish_iff, h.reads.items, h.reads.combinator, List.any_eq_true]

end Waits

namespace Holds

/-- A frame that was just opened holds nothing. -/
theorem opened (path : GroupPath) : Holds config scalar { path } [] :=
  ⟨[], .opened path, rfl, rfl⟩

/-- A frame is dangling exactly if an item has to follow its parts. -/
theorem dangling_eq (h : Holds config scalar frame parts) :
    frame.dangling = Part.awaitsItem parts := by
  obtain ⟨done, hreads, -, rfl⟩ := h
  exact hreads.dangling

/-- What a frame holds is the beginning of a group. -/
theorem begins (h : Holds config scalar frame parts) : Part.Begins parts := by
  obtain ⟨done, hreads, -, rfl⟩ := h
  exact hreads.begins

/-- After a run nothing but its terms is pending, and after anything else nothing. -/
theorem terms_eq_nil (h : Holds config scalar frame parts) (hrun : Part.endsInRun parts = false) :
    frame.terms = [] := by
  obtain ⟨done, -, -, rfl⟩ := h
  by_contra hterms
  rw [pending_of_terms_ne_nil hterms, Part.endsInRun_concat] at hrun
  cases hrun

/-- After a flush no run is pending. -/
theorem flush (h : Holds config scalar frame parts)
    (hflush : frame.flush config scalar = .ok frame') :
    Waits config scalar frame' parts := by
  obtain ⟨done, hreads, -, rfl⟩ := h
  exact ⟨hreads.flush hflush, terms_of_flush hflush⟩

/-- Admissible parts can be flushed. -/
theorem exists_flush (h : Holds config scalar frame parts)
    (hparts : ∀ part ∈ parts, part.Admissible config scalar) :
    ∃ frame', frame.flush config scalar = .ok frame' := by
  obtain ⟨done, -, -, rfl⟩ := h
  exact Frame.exists_flush (List.forall_mem_append.1 hparts).2

/-- Terms where no run is pending. -/
theorem written (h : Holds config scalar frame parts) (hrun : Part.endsInRun parts = false)
    {terms : List Term} (hterms : terms ≠ []) :
    Holds config scalar (frame.written terms) (parts ++ [.run terms]) := by
  have hnil := h.terms_eq_nil hrun
  obtain ⟨done, hreads, hdone, rfl⟩ := h
  obtain ⟨hafter, hpending⟩ := hreads.written hdone hterms
  refine ⟨done, hafter, hdone, ?_⟩
  rw [hpending, pending_of_terms_eq_nil hnil, List.append_nil]

/-- A term goes on the last run, or begins one. -/
theorem term (h : Holds config scalar frame parts) (t : Term) :
    ∃ parts', Holds config scalar (frame.term t) parts' ∧
      Part.tokensOf parts' = Part.tokensOf parts ++ [.term t] := by
  obtain ⟨done, hreads, hdone, rfl⟩ := h
  obtain ⟨hafter, hpending⟩ := hreads.written hdone (List.concat_ne_nil t frame.terms)
  have hterm : (frame.term t).pending = [.run (frame.terms ++ [t])] := hpending
  refine ⟨_, ⟨done, hafter, hdone, rfl⟩, ?_⟩
  rw [hterm, Part.tokensOf_append, Part.tokensOf_append, tokensOf_pending,
    Part.tokensOf_singleton, Part.tokens, List.map_append, List.append_assoc]
  rfl

/-- **An operator** is a part of its own. -/
theorem operator (h : Holds config scalar frame parts) {combinator : Combinator}
    (hoperator : frame.operator config scalar combinator = .ok frame') :
    Holds config scalar frame' (parts ++ [.operator combinator]) := by
  obtain ⟨hd, flushed, hflush, rfl⟩ := operator_eq_ok_iff.1 hoperator
  rw [h.dangling_eq] at hd
  exact (h.flush hflush).marked hd combinator

/-- An operator is taken where no item has to follow. -/
theorem exists_operator (h : Holds config scalar frame parts)
    (hparts : ∀ part ∈ parts, part.Admissible config scalar)
    (hitem : Part.awaitsItem parts = false) (combinator : Combinator) :
    ∃ frame', frame.operator config scalar combinator = .ok frame' := by
  obtain ⟨flushed, hflush⟩ := h.exists_flush hparts
  exact ⟨_, operator_eq_ok_iff.2 ⟨h.dangling_eq.trans hitem, flushed, hflush, rfl⟩⟩

/-- If an item has to follow, nothing is pending. -/
theorem flush_of_awaitsItem (h : Holds config scalar frame parts)
    (hitem : Part.awaitsItem parts = true) : frame.flush config scalar = .ok frame := by
  obtain ⟨done, -, -, rfl⟩ := h
  refine flush_of_terms_eq_nil ?_
  by_contra hterms
  rw [pending_of_terms_ne_nil hterms, Part.awaitsItem_concat] at hitem
  cases hitem

/-- **A group closes if and only if it is admissible.** -/
theorem close_iff (h : Holds config scalar frame parts) :
    (∃ g, frame.close config scalar = .ok g) ↔ (Part.group parts).Admissible config scalar := by
  constructor
  · rintro ⟨g, hclose⟩
    unfold close at hclose
    split at hclose
    next => cases hclose
    next hcond =>
      cases hflush : frame.flush config scalar with
      | error e => rw [hflush] at hclose; cases hclose
      | ok flushed =>
        rw [hflush] at hclose
        have hwaits := h.flush hflush
        obtain ⟨hone, hop⟩ := hwaits.finish_iff.1 ⟨g, hclose⟩
        -- a frame that awaits an item passes the check on closing only when it is empty
        have hitem : Part.awaitsItem parts = false := by
          rw [Bool.eq_false_iff]
          intro hawaits
          rw [h.flush_of_awaitsItem hawaits] at hflush
          obtain rfl := Except.ok.inj hflush
          rw [← hwaits.reads.items] at hone
          refine hcond ?_
          rw [h.dangling_eq, hawaits, Bool.true_and, Bool.not_eq_true', List.isEmpty_eq_false_iff]
          exact List.ne_nil_of_length_pos hone
        exact .group (Part.body_iff.2 ⟨h.begins, hitem, hop⟩) hwaits.reads.admissible
  · intro hgroup
    cases hgroup with
    | group hbody hparts =>
      obtain ⟨-, hitem, hop⟩ := Part.body_iff.1 hbody
      obtain ⟨flushed, hflush⟩ := h.exists_flush hparts
      have hone : 1 ≤ parts.countP Part.isItem := List.countP_pos_iff.2 hbody.hasItem
      rw [close, h.dangling_eq, hitem, hflush]
      exact (h.flush hflush).finish_iff.2 ⟨hone, hop⟩

end Holds

end Frame

/-! ## What a builder has read -/

namespace Builder

/-- The tokens before the parenthesis of the innermost group: each open group has its parenthesis
and its parts. -/
inductive Below (config : Config) (scalar : Bool) : List Frame → List Bound → Prop
  | nil : Below config scalar [] []
  | cons {frame : Frame} {parts : List Part} {rest : List Frame} {before : List Bound}
      (hframe : frame.Waits config scalar parts) (hrest : Below config scalar rest before) :
      Below config scalar (frame :: rest) (before ++ .opening :: Part.tokensOf parts)

/-- **The tokens that a builder has read.** -/
inductive Reads (config : Config) (scalar : Bool) : Builder → List Bound → Prop
  | start : Reads config scalar ⟨[], none⟩ []
  | inside {frame : Frame} {parts : List Part} {rest : List Frame} {before : List Bound}
      (hframe : frame.Holds config scalar parts) (hrest : Below config scalar rest before) :
      Reads config scalar ⟨frame :: rest, none⟩ (before ++ .opening :: Part.tokensOf parts)
  | finished {parts : List Part} (g : Group)
      (hgroup : (Part.group parts).Admissible config scalar) :
      Reads config scalar ⟨[], some g⟩ (Part.group parts).tokens

/-- **Every accepted token is read.** -/
theorem reads_of_moves {b b' : Builder} {tokens : List Bound} {token : Bound}
    (h : Reads config scalar b tokens) (hmove : Moves config scalar b token b') :
    Reads config scalar b' (tokens ++ [token]) := by
  cases hmove with
  | openRoot =>
    cases h with
    | start => exact .inside (.opened .root) .nil
  | openChild hflush =>
    cases h with
    | inside hframe hrest =>
      exact .inside (.opened _) (.cons ((hframe.flush hflush).counted _) hrest)
  | closeRoot hclose =>
    cases h with
    | inside hframe hrest =>
      cases hrest
      exact .finished _ (hframe.close_iff.1 ⟨_, hclose⟩)
  | @closeChild _ _ _ _ g hclose =>
    cases h with
    | inside hframe hrest =>
      cases hrest with
      | cons hparent hbelow =>
        have hgroup := hframe.close_iff.1 ⟨_, hclose⟩
        have hinside := Reads.inside (hparent.addGroup hgroup g) hbelow
        rw [Part.tokensOf_append, Part.tokensOf_singleton, Part.tokens] at hinside
        simpa using hinside
  | operator hoperator =>
    cases h with
    | inside hframe hrest =>
      have hinside := Reads.inside (hframe.operator hoperator) hrest
      rw [Part.tokensOf_append, Part.tokensOf_singleton, Part.tokens] at hinside
      simpa using hinside
  | term t =>
    cases h with
    | inside hframe hrest =>
      obtain ⟨parts', hafter, htokens⟩ := hframe.term t
      have hinside := Reads.inside hafter hrest
      rw [htokens] at hinside
      simpa using hinside

/-- **What a run accepts, it reads**, token by token. -/
theorem reads_run {b b' : Builder} {before tokens : List Bound} (h : Reads config scalar b before)
    (hrun : run config scalar b tokens = .ok b') : Reads config scalar b' (before ++ tokens) := by
  induction tokens generalizing b before with
  | nil =>
    obtain rfl := Except.ok.inj hrun
    rwa [List.append_nil]
  | cons token rest ih =>
    obtain ⟨mid, hmove, hrest⟩ := run_cons_eq_ok_iff.1 hrun
    rw [List.append_cons]
    exact ih (reads_of_moves h hmove) hrest

/-! ## What the grammar allows -/

/-- A part can be read where it may stand: in every frame whose parts it continues. -/
def Runs (config : Config) (scalar : Bool) (part : Part) : Prop :=
  ∀ {frame : Frame} {parts : List Part} (rest : List Frame), frame.Holds config scalar parts →
    (∀ p ∈ parts, p.Admissible config scalar) → Part.Begins (parts ++ [part]) →
    ∃ frame', run config scalar ⟨frame :: rest, none⟩ part.tokens = .ok ⟨frame' :: rest, none⟩ ∧
      frame'.Holds config scalar (parts ++ [part])

/-- Parts one after the other. -/
theorem exists_run_tokensOf {new : List Part} (hruns : ∀ part ∈ new, Runs config scalar part)
    (hnew : ∀ part ∈ new, part.Admissible config scalar) {frame : Frame} {parts : List Part}
    (rest : List Frame) (hframe : frame.Holds config scalar parts)
    (hparts : ∀ part ∈ parts, part.Admissible config scalar)
    (hbegins : Part.Begins (parts ++ new)) :
    ∃ frame', run config scalar ⟨frame :: rest, none⟩ (Part.tokensOf new) =
        .ok ⟨frame' :: rest, none⟩ ∧ frame'.Holds config scalar (parts ++ new) := by
  induction new generalizing frame parts with
  | nil =>
    rw [List.append_nil]
    exact ⟨frame, rfl, hframe⟩
  | cons part new ih =>
    rw [List.append_cons] at hbegins ⊢
    obtain ⟨hpart, hnew⟩ := List.forall_mem_cons.1 hnew
    obtain ⟨hrunsPart, hruns⟩ := List.forall_mem_cons.1 hruns
    obtain ⟨mid, hrunPart, hmid⟩ := hrunsPart rest hframe hparts hbegins.left
    have hmidParts := List.forall_mem_append.2 ⟨hparts, List.forall_mem_singleton.2 hpart⟩
    obtain ⟨last, hrunNew, hlast⟩ := ih hruns hnew hmid hmidParts hbegins
    refine ⟨last, ?_, hlast⟩
    rw [Part.tokensOf, run_append_of_ok hrunPart, hrunNew]

/-- The parts of an admissible group, and what closes it. -/
theorem exists_run_body {inner : List Part} (hruns : ∀ part ∈ inner, Runs config scalar part)
    (hinner : (Part.group inner).Admissible config scalar) (path : GroupPath) (rest : List Frame) :
    ∃ frame g, run config scalar ⟨{ path } :: rest, none⟩ (Part.tokensOf inner) =
        .ok ⟨frame :: rest, none⟩ ∧ frame.close config scalar = .ok g := by
  cases hinner with
  | group hbody hparts =>
    obtain ⟨frame, hrun, hframe⟩ := exists_run_tokensOf hruns hparts rest (.opened path)
      (fun _ h => absurd h List.not_mem_nil) (Part.body_iff.1 hbody).1
    obtain ⟨g, hclose⟩ := hframe.close_iff.2 (.group hbody hparts)
    exact ⟨frame, g, hrun, hclose⟩

/-- **What the grammar allows is read.** The induction is over the part: the parts of a group are
read inside it. -/
theorem runs_of_admissible {part : Part} (h : part.Admissible config scalar) :
    Runs config scalar part := by
  induction h with
  | run hne hcompile =>
    intro frame parts rest hframe _ hbegins
    have hrun := (Part.begins_concat.1 hbegins).2.2 rfl
    refine ⟨_, ?_, hframe.written hrun hne⟩
    exact run_terms_of_terms_eq_nil (hframe.terms_eq_nil hrun) hne rest none
  | operator combinator =>
    intro frame parts rest hframe hparts hbegins
    have hitem := (Part.begins_concat.1 hbegins).2.1 rfl
    obtain ⟨frame', hoperator⟩ := hframe.exists_operator hparts hitem combinator
    refine ⟨frame', ?_, hframe.operator hoperator⟩
    rw [Part.tokens, run_cons_of_ok (Moves.operator hoperator).step_eq]
    rfl
  | @group inner hbody hinner ih =>
    intro frame parts rest hframe hparts _
    have hgroup := Part.Admissible.group hbody hinner
    obtain ⟨parent, hflush⟩ := hframe.exists_flush hparts
    have hparent := (hframe.flush hflush).counted (parent.nextChild + 1)
    obtain ⟨last, g, hrun, hclose⟩ := exists_run_body ih hgroup
      (parent.path.child parent.nextChild)
      ({ parent with nextChild := parent.nextChild + 1 } :: rest)
    refine ⟨_, ?_, hparent.addGroup hgroup g⟩
    rw [Part.tokens, run_cons_of_ok (Moves.openChild hflush).step_eq, run_append_of_ok hrun,
      run_cons_of_ok (Moves.closeChild hclose).step_eq]
    rfl

end Builder

/-! ## Trees and groups -/

namespace Group

/-- **The grammar is complete**: the tokens of an admissible group are built. -/
theorem exists_build_of_admissible {parts : List Part}
    (h : (Part.group parts).Admissible config scalar) :
    ∃ g, build config scalar (Part.group parts).tokens = .ok g := by
  have hruns : ∀ part ∈ parts, Builder.Runs config scalar part := by
    cases h with
    | group _ hparts => exact fun part hpart => Builder.runs_of_admissible (hparts part hpart)
  obtain ⟨frame, g, hrun, hclose⟩ := Builder.exists_run_body hruns h .root []
  refine ⟨g, ?_⟩
  have hall : Builder.run config scalar {} (Part.group parts).tokens = .ok ⟨[], some g⟩ := by
    rw [Part.tokens, Builder.run_cons_of_ok Builder.Moves.openRoot.step_eq,
      Builder.run_append_of_ok hrun,
      Builder.run_cons_of_ok (Builder.Moves.closeRoot hclose).step_eq]
    rfl
  rw [build, hall]
  rfl

/-- **The grammar is sound**: what is built are the tokens of an admissible group. -/
theorem exists_admissible_of_build {tokens : List Bound} {g : Group}
    (h : build config scalar tokens = .ok g) :
    ∃ parts, (Part.group parts).Admissible config scalar ∧ tokens = (Part.group parts).tokens := by
  rw [build] at h
  cases hrun : Builder.run config scalar {} tokens with
  | error e => rw [hrun] at h; cases h
  | ok b =>
    rw [hrun] at h
    have hreads := Builder.reads_run Builder.Reads.start hrun
    rw [List.nil_append] at hreads
    cases hreads with
    | start => cases h
    | inside hframe hrest => cases h
    | @finished parts g hgroup => exact ⟨parts, hgroup, rfl⟩

/-- **A token list has a tree if and only if it is a group of the grammar**; every other list,
whether its parentheses pair or not, is refused. -/
theorem build_eq_ok_iff (config : Config) (scalar : Bool) (tokens : List Bound) :
    ((∃ g, build config scalar tokens = .ok g) ↔
      ∃ parts, (Part.group parts).Admissible config scalar ∧
        tokens = .opening :: (Part.tokensOf parts ++ [.closing])) ∧
    ((∃ e, build config scalar tokens = .error e) ↔
      ¬ ∃ parts, (Part.group parts).Admissible config scalar ∧
        tokens = .opening :: (Part.tokensOf parts ++ [.closing])) := by
  have hiff : (∃ g, build config scalar tokens = .ok g) ↔
      ∃ parts, (Part.group parts).Admissible config scalar ∧
        tokens = .opening :: (Part.tokensOf parts ++ [.closing]) := by
    constructor
    · rintro ⟨g, hbuild⟩
      exact exists_admissible_of_build hbuild
    · rintro ⟨parts, hgroup, rfl⟩
      exact exists_build_of_admissible hgroup
  refine ⟨hiff, ?_⟩
  rw [← hiff]
  cases build config scalar tokens with
  | ok g => simp
  | error e => simp

-- Items may stand side by side: one operator is enough, wherever it is.
example :
    let item (text : String) : List Bound := [.opening, .term (.word text), .closing]
    (build {} true (.opening ::
      (item "a" ++ item "b" ++ [.operator .all, .term (.word "c"), .closing]))).isOk = true := by
  decide

end Group

end RecordFilter
