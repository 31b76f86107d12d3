import Mathlib.Logic.Relation
import RecordFilter.Proofs.Builder.Image

/-!
# Places in a tree

The path of a group tells where the group is written: the groups directly inside it are numbered in
their order, so that no two groups of a tree have one path.

* `Group.children`, `Group.Within` — the groups directly inside a group, and all groups of a tree.
* `Part.Shown.child` — a group inside another has the path that its number gives, and is what the
  parts between its parentheses become.
* `Part.Shown.nodup_groupPaths`, `Part.Shown.length_groupPaths` — paths are distinct, and there is
  one for each opening parenthesis.
* `Group.build_shows_tokens` — **a tree is a faithful image of its tokens.**
-/

namespace RecordFilter

/-- The parent of a child is where it was made. -/
theorem GroupPath.parent?_child (path : GroupPath) (index : Nat) :
    (path.child index).parent? = some path := by
  simp [child, parent?]

/-- Whether a token opens a group. -/
def Bound.isOpening : Bound → Bool
  | .opening => true
  | _ => false

/-! ## Groups of a tree -/

/-- The group that an item is, if it is one. -/
def Item.group? : Item → Option Group
  | .clause _ => none
  | .group path combinator items => some ⟨path, combinator, items⟩

namespace Group

/-- The groups directly inside a group, in order. -/
def children (g : Group) : List Group := g.items.filterMap Item.group?

/-- **The groups of a tree**: the tree itself, and the groups directly inside one of them. -/
def Within (g h : Group) : Prop := Relation.ReflTransGen (fun a b => b ∈ a.children) g h

end Group

namespace Part

variable {config : Config} {scalar : Bool} {path : GroupPath} {count : Nat}
  {parts inner : List Part} {items : List Item}

/-! ## Tokens of a part -/

/-- The tokens of a part stand together in those of the parts. -/
theorem tokens_isInfix {part : Part} (h : part ∈ parts) : part.tokens <:+: tokensOf parts := by
  obtain ⟨before, after, rfl⟩ := List.append_of_mem h
  refine ⟨tokensOf before, tokensOf after, ?_⟩
  rw [tokensOf_append, tokensOf, List.append_assoc]

/-- The tokens of a part stand together in those of the group around it. -/
theorem tokens_isInfix_group {part : Part} (h : part ∈ parts) :
    part.tokens <:+: (Part.group parts).tokens := by
  refine (tokens_isInfix h).trans ⟨[.opening], [.closing], ?_⟩
  rw [tokens]
  rfl

/-- A run opens no group. -/
theorem countP_isOpening_run (terms : List Term) :
    (Part.run terms).tokens.countP Bound.isOpening = 0 := by
  rw [tokens, List.countP_map, List.countP_eq_zero]
  intro term _ h
  cases h

/-- A group opens itself and the groups inside it. -/
theorem countP_isOpening_group (parts : List Part) :
    (Part.group parts).tokens.countP Bound.isOpening =
      (tokensOf parts).countP Bound.isOpening + 1 := by
  rw [tokens, List.countP_cons_of_pos rfl, List.countP_append]
  rfl

/-! ## Groups inside a group -/

/-- **A group inside another is numbered** by the groups before it, and is what its own parts
become. -/
theorem Shown.child (h : Shown config scalar path count parts items) {i : Nat} {g : Group}
    (hg : (items.filterMap Item.group?)[i]? = some g) :
    g.path = path.child (count + i) ∧
      ∃ inner, Part.group inner ∈ parts ∧ g.Shows config scalar inner := by
  induction h generalizing i with
  | nil => cases hg
  | run _ _ ih =>
    obtain ⟨hpath, inner, hmem, hshows⟩ := ih hg
    exact ⟨hpath, inner, List.mem_cons_of_mem _ hmem, hshows⟩
  | operator _ _ ih =>
    obtain ⟨hpath, inner, hmem, hshows⟩ := ih hg
    exact ⟨hpath, inner, List.mem_cons_of_mem _ hmem, hshows⟩
  | group hinner hcombines _ _ ih =>
    cases i with
    | zero =>
      obtain rfl := Option.some.inj hg
      exact ⟨rfl, _, List.mem_cons_self, hinner, hcombines⟩
    | succ i =>
      obtain ⟨hpath, inner, hmem, hshows⟩ := ih hg
      refine ⟨?_, inner, List.mem_cons_of_mem _ hmem, hshows⟩
      rw [hpath, Nat.add_right_comm, Nat.add_assoc]

/-- The paths of all groups inside go on with the number of a group from `count` on. -/
theorem Shown.steps_eq (h : Shown config scalar path count parts items) {p : GroupPath}
    (hp : p ∈ Item.groupPathsOf items) :
    ∃ i rest, count ≤ i ∧ p.steps = path.steps ++ i :: rest := by
  induction h with
  | nil => cases hp
  | run _ _ ih => exact ih hp
  | operator _ _ ih => exact ih hp
  | @group path count _ _ _ _ _ _ _ _ ihinner ih =>
    rw [Item.groupPathsOf, Item.groupPaths, List.cons_append, List.mem_cons, List.mem_append] at hp
    rcases hp with rfl | hp | hp
    · exact ⟨count, [], Nat.le_refl _, rfl⟩
    · obtain ⟨i, rest, -, hsteps⟩ := ihinner hp
      refine ⟨count, i :: rest, Nat.le_refl _, ?_⟩
      rw [hsteps, GroupPath.child, List.append_assoc]
      rfl
    · obtain ⟨i, rest, hi, hsteps⟩ := ih hp
      exact ⟨i, rest, Nat.le_of_succ_le hi, hsteps⟩

/-- No path below a group is its own. -/
theorem Shown.not_mem_groupPaths (h : Shown config scalar path count parts items) :
    path ∉ Item.groupPathsOf items := by
  intro hp
  obtain ⟨i, rest, -, hsteps⟩ := h.steps_eq hp
  simp at hsteps

/-- **No two groups have one path.** -/
theorem Shown.nodup_groupPaths (h : Shown config scalar path count parts items) :
    (Item.groupPathsOf items).Nodup := by
  induction h with
  | nil => exact List.nodup_nil
  | run _ _ ih => exact ih
  | operator _ _ ih => exact ih
  | @group path count _ _ _ _ _ hinner _ hrest ihinner ih =>
    rw [Item.groupPathsOf, Item.groupPaths]
    refine List.nodup_append.2 ⟨List.nodup_cons.2 ⟨hinner.not_mem_groupPaths, ihinner⟩, ih, ?_⟩
    -- the paths up to here go on with `count`, those of later groups with a greater number
    intro p hp q hq heq
    obtain ⟨i, rest, hi, hq⟩ := hrest.steps_eq hq
    have hp : ∃ rest', p.steps = path.steps ++ count :: rest' := by
      rcases List.mem_cons.1 hp with rfl | hp
      · exact ⟨[], rfl⟩
      · obtain ⟨j, rest', -, hsteps⟩ := hinner.steps_eq hp
        refine ⟨j :: rest', ?_⟩
        rw [hsteps, GroupPath.child, List.append_assoc]
        rfl
    obtain ⟨rest', hp⟩ := hp
    rw [heq, hq] at hp
    have hnumber := (List.cons.inj (List.append_cancel_left hp)).1
    omega

/-- **There is a group for each opening parenthesis.** -/
theorem Shown.length_groupPaths (h : Shown config scalar path count parts items) :
    (Item.groupPathsOf items).length = (tokensOf parts).countP Bound.isOpening := by
  induction h with
  | nil => rfl
  | run _ _ ih =>
    rw [tokensOf, List.countP_append, countP_isOpening_run, Nat.zero_add, ← ih]
    rfl
  | operator _ _ ih => exact ih
  | group _ _ _ ihinner ih =>
    rw [Item.groupPathsOf, Item.groupPaths, List.length_append, List.length_cons, ihinner, ih,
      tokensOf, List.countP_append, countP_isOpening_group]

end Part

/-! ## Trees -/

namespace Group

variable {config : Config} {scalar : Bool} {g h : Group} {parts : List Part}

/-- Every group of a tree is what the parts between two of the parentheses become. -/
theorem Shows.within (hg : g.Shows config scalar parts) (hwithin : g.Within h) :
    ∃ inner, (Part.group inner).tokens <:+: (Part.group parts).tokens ∧
      h.Shows config scalar inner := by
  induction hwithin with
  | refl => exact ⟨parts, List.infix_rfl, hg⟩
  | tail _ hchild ih =>
    obtain ⟨inner, hinfix, hshows⟩ := ih
    obtain ⟨i, hi⟩ := List.mem_iff_getElem?.1 hchild
    obtain ⟨-, deeper, hmem, hdeeper⟩ := hshows.items.child hi
    exact ⟨deeper, (Part.tokens_isInfix_group hmem).trans hinfix, hdeeper⟩

/-- **The groups directly inside a group have its path with their numbers.** -/
theorem Shows.path_child (hg : g.Shows config scalar parts) {i : Nat} {k : Group}
    (hk : g.children[i]? = some k) :
    k.path = g.path.child i ∧ k.path.parent? = some g.path := by
  have hpath : k.path = g.path.child i := by
    rw [(hg.items.child hk).1, Nat.zero_add]
  refine ⟨hpath, ?_⟩
  rw [hpath, GroupPath.parent?_child]

/-- A tree is what its parts become, at the path of the root. -/
theorem exists_shows_of_build {tokens : List Bound} (hbuild : build config scalar tokens = .ok g) :
    ∃ parts, (Part.group parts).Admissible config scalar ∧ tokens = (Part.group parts).tokens ∧
      g.path = .root ∧ g.Shows config scalar parts := by
  obtain ⟨parts, hgroup, rfl⟩ := exists_admissible_of_build hbuild
  have hdraws : ∀ part ∈ parts, Builder.Draws config scalar part := by
    cases hgroup with
    | group _ hparts => exact fun part hpart => Builder.draws_of_admissible (hparts part hpart)
  obtain ⟨frame, root, hrun, hclose, hpath, hshows⟩ :=
    Builder.exists_shows_of_body hdraws hgroup .root []
  have hall : Builder.run config scalar {} (Part.group parts).tokens = .ok ⟨[], some root⟩ := by
    rw [Part.tokens, Builder.run_cons_of_ok Builder.Moves.openRoot.step_eq,
      Builder.run_append_of_ok hrun,
      Builder.run_cons_of_ok (Builder.Moves.closeRoot hclose).step_eq]
    rfl
  rw [build, hall] at hbuild
  obtain rfl := Except.ok.inj hbuild
  exact ⟨parts, hgroup, rfl, hpath, hshows⟩

/-- **A tree is a faithful image of its tokens.** It is what the parts that they are become, group
by group: the items in textual order, the first operator as the combinator, and `any` for a single
item without one. Its clauses are the compiled runs of terms, from left to right; there are as many
groups as opening parentheses. The root has the path `0`, and the groups directly inside a group its
path with their numbers, so that all paths are distinct and each leads to the enclosing group. -/
theorem build_shows_tokens {tokens : List Bound} (hbuild : build config scalar tokens = .ok g) :
    (∃ parts, (Part.group parts).Admissible config scalar ∧ tokens = (Part.group parts).tokens ∧
      g.Shows config scalar parts) ∧
    List.Forall₂ (Clause.Compiles config scalar) (Bound.runs tokens) g.clauses ∧
    g.groupCount = tokens.countP Bound.isOpening ∧
    g.path.indices = [0] ∧
    (∀ h, g.Within h →
      (∃ inner, (Part.group inner).tokens <:+: tokens ∧ h.Shows config scalar inner) ∧
      ∀ i k, h.children[i]? = some k →
        k.path = h.path.child i ∧ k.path.parent? = some h.path) ∧
    g.groupPaths.Nodup := by
  have hclauses := forall₂_clauses hbuild
  obtain ⟨parts, hgroup, rfl, hroot, hshows⟩ := exists_shows_of_build hbuild
  refine ⟨⟨parts, hgroup, rfl, hshows⟩, hclauses, ?_, ?_, ?_, ?_⟩
  · rw [groupCount, groupPaths, List.length_cons, hshows.items.length_groupPaths,
      Part.countP_isOpening_group]
  · rw [hroot]
    rfl
  · intro h hwithin
    obtain ⟨inner, hinfix, hinner⟩ := hshows.within hwithin
    refine ⟨⟨inner, hinfix, hinner⟩, ?_⟩
    intro i k hk
    exact hinner.path_child hk
  · exact List.nodup_cons.2 ⟨hshows.items.not_mem_groupPaths, hshows.items.nodup_groupPaths⟩

/-- Clauses before, between and after groups: `(a (b or c) d and ((e)) f)`. -/
def sampleNested : List Bound :=
  let word (text : String) : Bound := .term (.word text)
  [.opening, word "a", .opening, word "b", .operator .any, word "c", .closing, word "d",
    .operator .all, .opening, .opening, word "e", .closing, .closing, word "f", .closing]

/-- The case of a group with groups inside it. -/
theorem build_shows_tokens_sample :
    ∃ g, build {} true sampleNested = .ok g ∧ g.groupCount = 4 ∧ g.clauses.length = 6 ∧
      g.path.indices = [0] ∧ g.groupPaths.Nodup := by
  have hok : (build {} true sampleNested).isOk = true := by decide
  cases hbuild : build {} true sampleNested with
  | error e => rw [hbuild] at hok; cases hok
  | ok g =>
    obtain ⟨-, hclauses, hcount, hroot, -, hnodup⟩ := build_shows_tokens hbuild
    exact ⟨g, rfl, hcount, hclauses.length_eq.symm, hroot, hnodup⟩

end Group

end RecordFilter
