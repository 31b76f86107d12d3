import Mathlib.Data.List.Forall2
import RecordFilter.Proofs.Builder.Run

/-!
# The clauses of a tree

The clauses of a built tree, depth first, are those of the runs of terms in the token list, from
left to right. Where the groups are plays no part in this.

* `runs` — the runs of a list: its parts between separators, empty ones left out.
* `Bound.runs` — the runs of terms between parentheses and operators.
* `Builder.clauses`, `Builder.pending` — the clauses a builder has compiled, and the terms it has
  not.
* `Builder.exists_clauses_of_moves`, `Builder.exists_clauses_of_run` — a parenthesis or an operator
  compiles the pending run; a list of tokens compiles its runs.
* `Group.forall₂_clauses` — **every run is compiled to the clause of its place.**
-/

namespace RecordFilter

/-! ## Runs -/

section

variable {α β γ : Type}

/-- A run that has ended, unless it is empty. -/
def endRun : List β → List (List β)
  | [] => []
  | b :: run => [b :: run]

/-- The runs of a list after a run that has begun. Elements without a part separate the runs. -/
def runsFrom (part? : α → Option β) (begun : List β) : List α → List (List β)
  | [] => endRun begun
  | a :: rest =>
    match part? a with
    | some b => runsFrom part? (begun ++ [b]) rest
    | none => endRun begun ++ runsFrom part? [] rest

/-- **The runs of a list**: the longest stretches without a separator, empty ones left out. -/
def runs (part? : α → Option β) (as : List α) : List (List β) := runsFrom part? [] as

variable {part? : α → Option β} {begun : List β}

/-- An element that belongs to no run ends the run that has begun. -/
theorem runsFrom_cons_of_none {a : α} (h : part? a = none) (rest : List α) :
    runsFrom part? begun (a :: rest) = endRun begun ++ runsFrom part? [] rest := by
  rw [runsFrom, h]

/-- Related runs end in related lists of runs. -/
theorem forall₂_endRun {R : β → γ → Prop} {begun' : List γ} (h : List.Forall₂ R begun begun') :
    List.Forall₂ (List.Forall₂ R) (endRun begun) (endRun begun') := by
  cases h with
  | nil => exact .nil
  | cons hfirst hrest => exact .cons (.cons hfirst hrest) .nil

/-- Lists with the same separators have related runs. -/
theorem forall₂_runsFrom {α' : Type} {part?' : α' → Option γ} {R : β → γ → Prop} {as : List α}
    {as' : List α'}
    (h : List.Forall₂ (fun a a' => Option.Rel R (part? a) (part?' a')) as as') {begun' : List γ}
    (hbegun : List.Forall₂ R begun begun') :
    List.Forall₂ (List.Forall₂ R) (runsFrom part? begun as) (runsFrom part?' begun' as') := by
  induction h generalizing begun begun' with
  | nil => exact forall₂_endRun hbegun
  | @cons a a' as as' hfirst _ ih =>
    unfold runsFrom
    generalize part? a = b?, part?' a' = b'? at hfirst ⊢
    cases hfirst with
    | some hR => exact ih (List.rel_append hbegun (.cons hR .nil))
    | none => exact List.rel_append (forall₂_endRun hbegun) (ih .nil)

end

/-- The term of a token, if it has one. -/
def Bound.term? : Bound → Option Term
  | .term t => some t
  | _ => none

/-- A structural token is no term. -/
theorem Bound.term?_eq_none {token : Bound} (h : token.isStructural = true) :
    token.term? = none := by
  cases token with
  | opening | closing | operator _ => rfl
  | term t => cases h

/-- **The runs of terms** between parentheses and operators. -/
def Bound.runs (tokens : List Bound) : List (List Term) := RecordFilter.runs Bound.term? tokens

variable {config : Config} {scalar : Bool}

/-- A run of terms compiles to a clause. -/
def Clause.Compiles (config : Config) (scalar : Bool) (terms : List Term) (c : Clause) : Prop :=
  ofTerms config scalar terms = .ok c

/-! ## Frames -/

/-- One more item brings in its own clauses. -/
theorem Item.clausesOf_concat (items : List Item) (item : Item) :
    clausesOf (items ++ [item]) = clausesOf items ++ item.clauses := by
  induction items with
  | nil => simp [clausesOf]
  | cons first rest ih => rw [List.cons_append, clausesOf, ih, clausesOf, List.append_assoc]

namespace Frame

/-- The clauses of open groups, the outermost first. -/
def clausesOf : List Frame → List Clause
  | [] => []
  | frame :: rest => clausesOf rest ++ Item.clausesOf frame.items

variable {frame flushed : Frame}

/-- Compiling adds the clause of the pending run, if one is pending. -/
theorem exists_clauses_of_flush (h : frame.flush config scalar = .ok flushed) :
    ∃ cs, Item.clausesOf flushed.items = Item.clausesOf frame.items ++ cs ∧
      List.Forall₂ (Clause.Compiles config scalar) (endRun frame.terms) cs := by
  rcases flush_eq_ok h with ⟨hterms, rfl⟩ | ⟨clause, hterms, hc, rfl⟩
  · rw [hterms]
    exact ⟨[], (List.append_nil _).symm, .nil⟩
  · obtain ⟨t, rest, ht⟩ := List.exists_cons_of_ne_nil hterms
    rw [ht] at hc ⊢
    exact ⟨[clause], Item.clausesOf_concat _ _, .cons hc .nil⟩

/-- A closed group has the items of its frame. -/
theorem exists_flush_of_close {g : Group} (h : frame.close config scalar = .ok g) :
    ∃ flushed, frame.flush config scalar = .ok flushed ∧ g.items = flushed.items := by
  rw [close_eq_bind] at h
  split at h
  · cases h
  · cases hflush : frame.flush config scalar with
    | error e => rw [hflush] at h; cases h
    | ok flushed =>
      rw [hflush] at h
      change flushed.finish = .ok g at h
      unfold finish at h
      split at h <;> cases h
      · exact ⟨flushed, rfl, rfl⟩
      next hitems => exact ⟨flushed, rfl, hitems.symm⟩

end Frame

/-! ## Builders -/

namespace Builder

/-- **The clauses that a builder has compiled**, in textual order. -/
def clauses (b : Builder) : List Clause :=
  (b.root.elim [] Group.clauses) ++ Frame.clausesOf b.stack

/-- The terms that are not compiled yet. -/
def pending (b : Builder) : List Term := b.stack.head?.elim [] Frame.terms

/-- Where every clause is settled, no run is pending. -/
theorem pending_eq_nil_of_settled {b : Builder} (h : b.Settled) : b.pending = [] := by
  obtain ⟨stack, root⟩ := b
  cases stack with
  | nil => rfl
  | cons frame rest => exact h frame List.mem_cons_self

/-- **A parenthesis or an operator compiles the pending run.** -/
theorem exists_clauses_of_moves {b b' : Builder} {token : Bound} (hb : b.OneTree)
    (htoken : token.isStructural = true) (h : Moves config scalar b token b') :
    ∃ cs, b'.clauses = b.clauses ++ cs ∧
      List.Forall₂ (Clause.Compiles config scalar) (endRun b.pending) cs := by
-- only the first token finds no pending run; every other one flushes
  cases h with
  | openRoot => exact ⟨[], rfl, .nil⟩
  | openChild hflush =>
    obtain ⟨cs, hitems, hcs⟩ := Frame.exists_clauses_of_flush hflush
    refine ⟨cs, ?_, hcs⟩
    simp [clauses, Frame.clausesOf, Item.clausesOf, hitems]
  | @closeRoot frame root g hclose =>
    obtain rfl : root = none := hb (List.cons_ne_nil _ _)
    obtain ⟨flushed, hflush, hg⟩ := Frame.exists_flush_of_close hclose
    obtain ⟨cs, hitems, hcs⟩ := Frame.exists_clauses_of_flush hflush
    refine ⟨cs, ?_, hcs⟩
    simp [clauses, Group.clauses, Frame.clausesOf, hg, hitems]
  | closeChild hclose =>
    obtain ⟨flushed, hflush, hg⟩ := Frame.exists_flush_of_close hclose
    obtain ⟨cs, hitems, hcs⟩ := Frame.exists_clauses_of_flush hflush
    refine ⟨cs, ?_, hcs⟩
    simp [clauses, Frame.clausesOf, Frame.addGroup, Group.toItem, Item.clausesOf_concat,
      Item.clauses, hg, hitems]
  | operator hoperator =>
    obtain ⟨-, flushed, hflush, rfl⟩ := Frame.operator_eq_ok_iff.1 hoperator
    obtain ⟨cs, hitems, hcs⟩ := Frame.exists_clauses_of_flush hflush
    refine ⟨cs, ?_, hcs⟩
    simp [clauses, Frame.clausesOf, Frame.marked, hitems]
  | term t => cases htoken

/-- **A list of tokens compiles its runs**, once every group is closed. -/
theorem exists_clauses_of_run {b b' : Builder} {tokens : List Bound} (hone : b.OneTree)
    (hflushed : b.Flushed) (h : run config scalar b tokens = .ok b') (hclosed : b'.stack = []) :
    ∃ cs, b'.clauses = b.clauses ++ cs ∧
      List.Forall₂ (Clause.Compiles config scalar) (runsFrom Bound.term? b.pending tokens) cs := by
  induction tokens generalizing b with
  | nil =>
    obtain rfl := Except.ok.inj h
    refine ⟨[], (List.append_nil _).symm, ?_⟩
    rw [pending, hclosed]
    exact .nil
  | cons token rest ih =>
    obtain ⟨mid, hmove, hrun⟩ := run_cons_eq_ok_iff.1 h
    obtain ⟨cs, hcs, hrest⟩ :=
      ih (oneTree_of_moves hone hmove) (flushed_of_moves hflushed hmove) hrun
    cases htoken : token.isStructural with
    | false =>
      cases hmove with
      | term t => exact ⟨cs, hcs, hrest⟩
      | openRoot | openChild _ | closeRoot _ | closeChild _ | operator _ => cases htoken
    | true =>
      obtain ⟨ds, hds, hfirst⟩ := exists_clauses_of_moves hone htoken hmove
      rw [pending_eq_nil_of_settled (settled_of_moves htoken hflushed hmove)] at hrest
      refine ⟨ds ++ cs, by rw [hcs, hds, List.append_assoc], ?_⟩
      rw [runsFrom_cons_of_none (Bound.term?_eq_none htoken)]
      exact List.rel_append hfirst hrest

end Builder

/-! ## Trees -/

/-- **The clauses of a tree are those of the runs**, one for each, in textual order. -/
theorem Group.forall₂_clauses {tokens : List Bound} {g : Group}
    (h : build config scalar tokens = .ok g) :
    List.Forall₂ (Clause.Compiles config scalar) (Bound.runs tokens) g.clauses := by
  rw [Builder.build_eq_bind] at h
  cases hrun : Builder.run config scalar {} tokens with
  | error e => rw [hrun] at h; cases h
  | ok b =>
    rw [hrun] at h
    obtain ⟨stack, root⟩ := b
    change Builder.result ⟨stack, root⟩ = .ok g at h
    unfold Builder.result at h
    cases stack with
    | cons frame rest => cases h
    | nil =>
      cases root with
      | none => cases h
      | some root =>
        obtain rfl := Except.ok.inj h
        have hone : Builder.OneTree {} := fun hne => absurd rfl hne
        have hflushed : Builder.Flushed {} := fun _ hmem => absurd hmem List.not_mem_nil
        obtain ⟨cs, hcs, hruns⟩ := Builder.exists_clauses_of_run hone hflushed hrun rfl
        have hclauses : root.clauses = cs := by
          simpa [Builder.clauses, Frame.clausesOf] using hcs
        rw [hclauses]
        exact hruns

end RecordFilter
