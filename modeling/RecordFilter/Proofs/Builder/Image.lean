import RecordFilter.Proofs.Builder.Acceptance
import RecordFilter.Proofs.Builder.Clauses

/-!
# Trees show what is written

A built tree has an item for every run of terms and for every group of the token list, in their
order; operators leave nothing but the combinators. The path of a group counts the groups before it.

* `Part.Shown`, `Part.Combines` — the items and the combinator that the parts of a group become.
* `Group.Shows` — a group is what its parts become.
* `Frame.Shows` — the invariant of an open group.
* `Frame.Built.concat`, `Frame.Shows.close` — one more part, and the closed group.
* `Builder.draws_of_admissible` — **reading a part adds what it becomes.**
-/

namespace RecordFilter

variable {config : Config} {scalar : Bool}

/-! ## What parts become -/

namespace Part

/-- The operator that a part is, if it is one. -/
def operator? : Part → Option Combinator
  | .operator combinator => some combinator
  | _ => none

/-- Whether a part is a nested group. -/
def isGroup : Part → Bool
  | .group _ => true
  | _ => false

/-- The first operator among parts, if there is one. -/
def firstOperator? (parts : List Part) : Option Combinator := parts.findSome? operator?

/-- The number of groups among parts. -/
def groupCount (parts : List Part) : Nat := parts.countP isGroup

/-- **How parts combine**: by their first operator. Without one there is a single item, and any
match of it is enough. -/
def Combines (parts : List Part) (combinator : Combinator) (items : List Item) : Prop :=
  match firstOperator? parts with
  | some first => combinator = first
  | none => combinator = .any ∧ items.length = 1

/-- **The items that parts become** in the group at a path, after so many groups in it. Each run
becomes its clause and each group a group, in the order in which they are written. -/
inductive Shown (config : Config) (scalar : Bool) : GroupPath → Nat → List Part → List Item → Prop
  | nil {path : GroupPath} {count : Nat} : Shown config scalar path count [] []
  | run {path : GroupPath} {count : Nat} {parts : List Part} {items : List Item}
      {terms : List Term} {clause : Clause}
      (hcompile : Clause.ofTerms config scalar terms = .ok clause)
      (hrest : Shown config scalar path count parts items) :
      Shown config scalar path count (.run terms :: parts) (.clause clause :: items)
  | operator {path : GroupPath} {count : Nat} {parts : List Part} {items : List Item}
      (combinator : Combinator) (hrest : Shown config scalar path count parts items) :
      Shown config scalar path count (.operator combinator :: parts) items
  | group {path : GroupPath} {count : Nat} {parts inner : List Part}
      {items innerItems : List Item} {combinator : Combinator}
      (hinner : Shown config scalar (path.child count) 0 inner innerItems)
      (hcombines : Combines inner combinator innerItems)
      (hrest : Shown config scalar path (count + 1) parts items) :
      Shown config scalar path count (.group inner :: parts)
        (.group (path.child count) combinator innerItems :: items)

variable {path : GroupPath} {count : Nat} {parts parts' : List Part} {items items' : List Item}

/-- The number of nested groups, with one more part at the front. -/
theorem groupCount_cons (part : Part) (parts : List Part) :
    groupCount (part :: parts) = groupCount parts + if part.isGroup then 1 else 0 :=
  List.countP_cons

/-- The number of nested groups, with one more part at the end. -/
theorem groupCount_concat (parts : List Part) (part : Part) :
    groupCount (parts ++ [part]) = groupCount parts + if part.isGroup then 1 else 0 := by
  simp [groupCount]

/-- The first operator, with one more part at the end. -/
theorem firstOperator?_concat (parts : List Part) (part : Part) :
    firstOperator? (parts ++ [part]) = (firstOperator? parts).or part.operator? := by
  unfold firstOperator?
  rw [List.findSome?_append]
  cases part <;> rfl

/-- What more parts become is added at the end. -/
theorem Shown.append (h : Shown config scalar path count parts items)
    (h' : Shown config scalar path (count + groupCount parts) parts' items') :
    Shown config scalar path count (parts ++ parts') (items ++ items') := by
  induction h with
  | nil => exact h'
  | run hcompile _ ih => exact .run hcompile (ih h')
  | operator combinator _ ih => exact .operator combinator (ih h')
  | @group path count parts inner _ _ _ hinner hcombines _ _ ih =>
    have hcount : groupCount (.group inner :: parts) = groupCount parts + 1 := groupCount_cons _ _
    refine .group hinner hcombines (ih ?_)
    rw [hcount] at h'
    rwa [Nat.add_right_comm, Nat.add_assoc]

end Part

/-- **A group is what parts become.** -/
structure Group.Shows (config : Config) (scalar : Bool) (g : Group) (parts : List Part) : Prop where
  items : Part.Shown config scalar g.path 0 parts g.items
  combines : Part.Combines parts g.combinator g.items

/-! ## Open groups -/

namespace Frame

variable {frame frame' : Frame} {path : GroupPath} {parts inner : List Part}

/-- The frame of the group at a path, whose finished items are what finished parts become. -/
structure Built (config : Config) (scalar : Bool) (path : GroupPath) (frame : Frame)
    (parts : List Part) : Prop where
  path_eq : frame.path = path
  items : Part.Shown config scalar path 0 parts frame.items
  combinator : frame.combinator = Part.firstOperator? parts
  nextChild : frame.nextChild = Part.groupCount parts

/-- **A frame shows the parts that it has read**, the last of which may be pending. -/
def Shows (config : Config) (scalar : Bool) (path : GroupPath) (frame : Frame)
    (parts : List Part) : Prop :=
  ∃ done, Built config scalar path frame done ∧ done ++ frame.pending = parts

/-- A frame without pending terms shows the parts it was built from. -/
theorem Built.shows (h : Built config scalar path frame parts) (hterms : frame.terms = []) :
    Shows config scalar path frame parts :=
  ⟨parts, h, by rw [pending_of_terms_eq_nil hterms, List.append_nil]⟩

/-- **One more part**: what it becomes is added to the items, the combinator stays if there is one,
and a group takes a number. -/
theorem Built.concat (h : Built config scalar path frame parts) {part : Part} {items : List Item}
    (hshown : Part.Shown config scalar path (Part.groupCount parts) [part] items)
    (hpath : frame'.path = frame.path) (hitems : frame'.items = frame.items ++ items)
    (hcombinator : frame'.combinator = frame.combinator.or part.operator?)
    (hnext : frame'.nextChild = frame.nextChild + if part.isGroup then 1 else 0) :
    Built config scalar path frame' (parts ++ [part]) where
  path_eq := hpath.trans h.path_eq
  items := by
    rw [← Nat.zero_add (Part.groupCount parts)] at hshown
    rw [hitems]
    exact h.items.append hshown
  combinator := by rw [hcombinator, h.combinator, Part.firstOperator?_concat]
  nextChild := by rw [hnext, h.nextChild, Part.groupCount_concat]

namespace Shows

/-- A frame that was just opened shows nothing. -/
theorem opened (path : GroupPath) : Shows config scalar path { path } [] :=
  ⟨[], ⟨rfl, .nil, rfl, rfl⟩, rfl⟩

/-- What a frame without pending terms shows is what it was built from. -/
theorem built (h : Shows config scalar path frame parts) (hterms : frame.terms = []) :
    Built config scalar path frame parts := by
  obtain ⟨done, hbuilt, rfl⟩ := h
  rwa [pending_of_terms_eq_nil hterms, List.append_nil]

/-- Compiling turns the pending part into an item. -/
theorem flush (h : Shows config scalar path frame parts)
    (hflush : frame.flush config scalar = .ok frame') : Built config scalar path frame' parts := by
  obtain ⟨hterms, rfl⟩ | ⟨clause, hterms, hc, rfl⟩ := flush_eq_ok hflush
  · exact h.built hterms
  · obtain ⟨done, hbuilt, rfl⟩ := h
    rw [pending_of_terms_ne_nil hterms]
    exact hbuilt.concat (.run hc .nil) rfl rfl Option.or_none.symm rfl

/-- The terms of one run, written to a frame, are shown as one more part. -/
theorem written (h : Shows config scalar path frame parts) (hterms : frame.terms = [])
    {terms : List Term} (hne : terms ≠ []) :
    Shows config scalar path (frame.written terms) (parts ++ [.run terms]) := by
  have hbuilt := h.built hterms
  have hpending : (frame.written terms).pending = [.run terms] := pending_of_terms_ne_nil hne
  refine ⟨parts, ⟨hbuilt.path_eq, hbuilt.items, hbuilt.combinator, hbuilt.nextChild⟩, ?_⟩
  rw [hpending]

/-- **The first operator decides**, and no operator is an item. -/
theorem operator (h : Shows config scalar path frame parts) {combinator : Combinator}
    (hoperator : frame.operator config scalar combinator = .ok frame') :
    Shows config scalar path frame' (parts ++ [.operator combinator]) := by
  obtain ⟨-, flushed, hflush, rfl⟩ := operator_eq_ok_iff.1 hoperator
  have hbuilt := h.flush hflush
  have hterms : flushed.terms = [] := terms_of_flush hflush
  refine Built.shows ?_ hterms
  exact hbuilt.concat (.operator combinator .nil) rfl (List.append_nil _).symm rfl rfl

end Shows

/-- **A group inside a frame** is its next item, and its path has the number of groups before it. -/
theorem Built.addGroup (h : Built config scalar path frame parts) (hterms : frame.terms = [])
    {g : Group} (hpath : g.path = frame.path.child frame.nextChild)
    (hg : g.Shows config scalar inner) :
    Shows config scalar path ({ frame with nextChild := frame.nextChild + 1 }.addGroup g)
      (parts ++ [.group inner]) := by
  have hchild : g.path = path.child (Part.groupCount parts) := by
    rw [hpath, h.path_eq, h.nextChild]
  have hinner := hg.items
  rw [hchild] at hinner
  have hshown := Part.Shown.group hinner hg.combines .nil
  rw [← hchild] at hshown
  refine Built.shows ?_ hterms
  exact h.concat hshown rfl rfl Option.or_none.symm rfl

/-- A finished group has the path and the items of its frame, and its combinator if it has one. -/
theorem finish_eq_ok {g : Group} (h : frame.finish = .ok g) :
    g.path = frame.path ∧ g.items = frame.items ∧
      (frame.combinator = some g.combinator ∨
        frame.combinator = none ∧ g.combinator = .any ∧ g.items.length = 1) := by
  unfold finish at h
  split at h <;> cases h
  next combinator items hcombinator hitems => exact ⟨rfl, rfl, .inl hcombinator⟩
  next item hcombinator hitems => exact ⟨rfl, hitems.symm, .inr ⟨hcombinator, rfl, rfl⟩⟩

/-- **A closed group is what the parts of its frame become.** -/
theorem Shows.close (h : Shows config scalar path frame parts) {g : Group}
    (hclose : frame.close config scalar = .ok g) :
    g.path = path ∧ g.Shows config scalar parts := by
  rw [close_eq_bind] at hclose
  split at hclose
  · cases hclose
  · cases hflush : frame.flush config scalar with
    | error e => rw [hflush] at hclose; cases hclose
    | ok flushed =>
      rw [hflush] at hclose
      have hbuilt := h.flush hflush
      obtain ⟨hpath, hitems, hcombinator⟩ := finish_eq_ok hclose
      have hgpath := hpath.trans hbuilt.path_eq
      refine ⟨hgpath, ?_, ?_⟩
      · rw [hgpath, hitems]
        exact hbuilt.items
      · unfold Part.Combines
        rw [← hbuilt.combinator]
        rcases hcombinator with hsome | ⟨hnone, hany⟩
        · rw [hsome]
        · rw [hnone]
          exact hany

end Frame

/-! ## Reading parts -/

namespace Builder

/-- Reading a part adds what it becomes to the innermost frame. -/
def Draws (config : Config) (scalar : Bool) (part : Part) : Prop :=
  ∀ {path : GroupPath} {frame frame' : Frame} {parts : List Part} (rest : List Frame),
    frame.Holds config scalar parts → Part.Begins (parts ++ [part]) →
    Frame.Shows config scalar path frame parts →
    run config scalar ⟨frame :: rest, none⟩ part.tokens = .ok ⟨frame' :: rest, none⟩ →
    Frame.Shows config scalar path frame' (parts ++ [part])

/-- Parts one after the other. -/
theorem shows_of_run_tokensOf {new : List Part} (hdraws : ∀ part ∈ new, Draws config scalar part)
    (hnew : ∀ part ∈ new, part.Admissible config scalar) {path : GroupPath} {frame frame' : Frame}
    {parts : List Part} (rest : List Frame) (hframe : frame.Holds config scalar parts)
    (hparts : ∀ part ∈ parts, part.Admissible config scalar)
    (hbegins : Part.Begins (parts ++ new)) (hshows : Frame.Shows config scalar path frame parts)
    (hrun : run config scalar ⟨frame :: rest, none⟩ (Part.tokensOf new) =
      .ok ⟨frame' :: rest, none⟩) :
    Frame.Shows config scalar path frame' (parts ++ new) := by
  induction new generalizing frame parts with
  | nil =>
    obtain rfl : frame = frame' := by simpa [Part.tokensOf, run] using hrun
    rwa [List.append_nil]
  | cons part new ih =>
    rw [List.append_cons] at hbegins ⊢
    obtain ⟨hpart, hnew⟩ := List.forall_mem_cons.1 hnew
    obtain ⟨hdrawsPart, hdraws⟩ := List.forall_mem_cons.1 hdraws
    obtain ⟨mid, hrunPart, hmid⟩ := runs_of_admissible hpart rest hframe hparts hbegins.left
    have hmidShows := hdrawsPart rest hframe hbegins.left hshows hrunPart
    have hmidParts := List.forall_mem_append.2 ⟨hparts, List.forall_mem_singleton.2 hpart⟩
    rw [Part.tokensOf, run_append_of_ok hrunPart] at hrun
    exact ih hdraws hnew hmid hmidParts hbegins hmidShows hrun

/-- **A group is built to what its parts become**, at its path. -/
theorem exists_shows_of_body {inner : List Part} (hdraws : ∀ part ∈ inner, Draws config scalar part)
    (hinner : (Part.group inner).Admissible config scalar) (path : GroupPath) (rest : List Frame) :
    ∃ frame g, run config scalar ⟨{ path } :: rest, none⟩ (Part.tokensOf inner) =
        .ok ⟨frame :: rest, none⟩ ∧ frame.close config scalar = .ok g ∧ g.path = path ∧
      g.Shows config scalar inner := by
  cases hinner with
  | group hbody hparts =>
    obtain ⟨frame, g, hrun, hclose⟩ := exists_run_body
      (fun part hpart => runs_of_admissible (hparts part hpart)) (.group hbody hparts) path rest
    have hshows := shows_of_run_tokensOf hdraws hparts rest (.opened path)
      (fun _ h => absurd h List.not_mem_nil) (Part.body_iff.1 hbody).1 (.opened path) hrun
    obtain ⟨hpath, hg⟩ := hshows.close hclose
    exact ⟨frame, g, hrun, hclose, hpath, hg⟩

/-- **Every part of a query draws what it becomes.** The induction is over the part: the parts of a
group are drawn inside it. -/
theorem draws_of_admissible {part : Part} (h : part.Admissible config scalar) :
    Draws config scalar part := by
  induction h with
  | @run terms clause hne hcompile =>
    intro path frame frame' parts rest hframe hbegins hshows hrun
    have hterms := hframe.terms_eq_nil ((Part.begins_concat.1 hbegins).2.2 rfl)
    rw [Part.tokens, run_terms_of_terms_eq_nil hterms hne] at hrun
    cases hrun
    exact hshows.written hterms hne
  | operator combinator =>
    intro path frame frame' parts rest hframe hbegins hshows hrun
    obtain ⟨mid, hmove, hrest⟩ := run_cons_eq_ok_iff.1 hrun
    cases hrest
    cases hmove with
    | operator hoperator => exact hshows.operator hoperator
  | @group inner hbody hinner ih =>
    intro path frame frame' parts rest hframe hbegins hshows hrun
    obtain ⟨mid, hopen, hrun⟩ := run_cons_eq_ok_iff.1 hrun
    cases hopen with
    | @openChild _ parent _ hflush =>
      obtain ⟨last, g, hbodyRun, hclose, hpath, hg⟩ :=
        exists_shows_of_body ih (.group hbody hinner) (parent.path.child parent.nextChild)
          ({ parent with nextChild := parent.nextChild + 1 } :: rest)
      rw [run_append_of_ok hbodyRun, run_cons_of_ok (Moves.closeChild hclose).step_eq] at hrun
      cases hrun
      exact (hshows.flush hflush).addGroup (Frame.terms_of_flush hflush) hpath hg

end Builder

end RecordFilter
