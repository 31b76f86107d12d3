import Mathlib.Order.Bounds.Basic
import RecordFilter.Proofs.Parens.Confluence

/-!
# How many passes there are

A run of plain tokens can have several redundant pairs around it. A pass removes one of them, the
innermost, around every run that has one. So there are as many passes as there are pairs around the
run with most of them.

A run keeps its place among the tokens that no removal takes, and is named by it.

* `Token.DropsAround`, `Token.Removes` — a removal, and a sequence of removals, with the runs around
  which pairs are removed.
* `Token.layers` — the parentheses on one side of a run that this side would let go.
* `Token.pairsAround` — for each place the number of redundant pairs around the run that starts
  there, a pair counting as redundant if the pairs inside it are.
* `Token.exists_pairsAround_of_dropsAround`, `Token.pairsAround_stripOnce` — a removal lowers one of
  these numbers by one, and a pass all of them.
* `Token.stripParens_normalizes` — **removing redundant pairs ends in a normal form** that does not
  depend on the order, after as many passes as there are pairs removed around some run.
-/

namespace RecordFilter.Token

/-! ## Removals with their runs -/

/-- **A pair is removed around the run at a place**: so many tokens before it stay for good. -/
inductive DropsAround : Nat → List Token → List Token → Prop
  | mk {before plain after : List Token} (h : Redundant before plain after) :
      DropsAround (before.countP isKept) (before ++ .opening :: (plain ++ .closing :: after))
        (before ++ (plain ++ after))

/-- **A sequence of removals**, with the place of the run for each of them. -/
inductive Removes : List Nat → List Token → List Token → Prop
  | nil (s : List Token) : Removes [] s s
  | cons {i : Nat} {around : List Nat} {s t u : List Token} (hfirst : DropsAround i s t)
      (hrest : Removes around t u) : Removes (i :: around) s u

/-- A pair around a run at a place is a pair. -/
theorem DropsAround.dropsPair {i : Nat} {s t : List Token} (h : DropsAround i s t) :
    DropsPair s t := by
  cases h with
  | mk h => exact h.dropsPair

/-- A sequence of removals with places is a sequence of removals. -/
theorem Removes.drops {around : List Nat} {s t : List Token} (h : Removes around s t) :
    Relation.ReflTransGen DropsPair s t := by
  induction h with
  | nil s => exact .refl
  | cons hfirst _ ih => exact .head hfirst.dropsPair ih

/-- Every sequence of removals has its places. -/
theorem exists_removes_of_drops {s t : List Token} (h : Relation.ReflTransGen DropsPair s t) :
    ∃ around, Removes around s t := by
  induction h using Relation.ReflTransGen.head_induction_on with
  | refl => exact ⟨[], .nil t⟩
  | head hdrop _ ih =>
    obtain ⟨before, plain, after, hpair, rfl, rfl⟩ := dropsPair_iff.1 hdrop
    obtain ⟨around, hrest⟩ := ih
    exact ⟨_, .cons (.mk hpair) hrest⟩

/-- **Every removal takes two tokens**, so that no sequence of them is longer than half the list. -/
theorem Removes.length_add {around : List Nat} {s t : List Token} (h : Removes around s t) :
    t.length + 2 * around.length = s.length := by
  induction h with
  | nil s => rfl
  | cons hfirst _ ih =>
    cases hfirst with
    | mk h =>
      simp only [List.length_append, List.length_cons] at ih ⊢
      omega

/-! ## One side of a run -/

/-- **The parentheses next to a run that one side of it would let go**, one after the other. The
tokens are those on this side, next to the run first. -/
def layers (paren : Token) (stands : Option Token → Bool) : List Token → Nat
  | [] => 0
  | token :: rest =>
    if token = paren ∧ stands rest.head? = true then layers paren stands rest + 1 else 0

/-- The opening parentheses that could go; the tokens before the run are in reverse order. -/
abbrev openings (left : List Token) : Nat := layers .opening standsAfter left

/-- The closing parentheses that could go. -/
abbrev closings (right : List Token) : Nat := layers .closing standsBefore right

/-- One token more, next to the run on its left. -/
theorem openings_cons (token : Token) (left : List Token) : openings (token :: left) =
    if token = .opening ∧ standsAfter left.head? = true then openings left + 1 else 0 :=
  rfl

/-- One token more, next to the run on its right. -/
theorem closings_cons (token : Token) (right : List Token) : closings (token :: right) =
    if token = .closing ∧ standsBefore right.head? = true then closings right + 1 else 0 :=
  rfl

/-- Another token ends the layers. -/
theorem layers_cons_of_ne {paren token : Token} (h : token ≠ paren)
    (stands : Option Token → Bool) (rest : List Token) :
    layers paren stands (token :: rest) = 0 :=
  if_neg fun hboth => h hboth.1

/-- A parenthesis that can go is one more layer. -/
theorem layers_cons_of_stands {paren : Token} {stands : Option Token → Bool} {rest : List Token}
    (h : stands rest.head? = true) :
    layers paren stands (paren :: rest) = layers paren stands rest + 1 :=
  if_pos ⟨rfl, h⟩

/-- A parenthesis that has to stay ends the layers. -/
theorem layers_cons_of_not_stands {paren : Token} {stands : Option Token → Bool}
    {rest : List Token} (h : stands rest.head? = false) (token : Token) :
    layers paren stands (token :: rest) = 0 :=
  if_neg fun hboth => by rw [h] at hboth; cases hboth.2

/-- Plain tokens have no layers on their left. -/
theorem openings_cons_of_isPlain {token : Token} (h : token.isPlain = true) (left : List Token) :
    openings (token :: left) = 0 :=
  layers_cons_of_ne (by rintro rfl; cases h) _ left

/-- No closing parenthesis can go where a redundant pair may begin. -/
theorem closings_cons_of_standsAfter {token : Token} (h : standsAfter (some token) = true)
    (right : List Token) : closings (token :: right) = 0 :=
  layers_cons_of_ne (by rintro rfl; cases h) _ right

/-! ## The pairs around all runs -/

/-- The pairs around the run that starts with a token: as many as both sides let go. There are none
inside of a run, and none around an operator. -/
def pairsAt (left : List Token) (token : Token) (rest : List Token) : Nat :=
  min (openings left) (closings ((token :: rest).dropWhile isPlain))

/-- The pairs around the runs that start among tokens, one number for each token that stays; `left`
are the tokens before them in reverse order. -/
def pairsFrom (left : List Token) : List Token → List Nat
  | [] => []
  | token :: rest =>
    (if token.isKept then [pairsAt left token rest] else []) ++ pairsFrom (token :: left) rest

/-- **The pairs around the runs of a list**, by the places of the runs. -/
def pairsAround (tokens : List Token) : List Nat := pairsFrom [] tokens

/-- A token that stays has a number of pairs. -/
theorem pairsFrom_cons_of_isKept {token : Token} (h : token.isKept = true)
    (left rest : List Token) :
    pairsFrom left (token :: rest) = pairsAt left token rest :: pairsFrom (token :: left) rest := by
  rw [pairsFrom, if_pos h, List.singleton_append]

/-- No pair is around a run with no layer on its left. -/
theorem pairsAt_of_openings_eq_zero {left : List Token} (h : openings left = 0) (token : Token)
    (rest : List Token) : pairsAt left token rest = 0 := by
  rw [pairsAt, h, Nat.zero_min]

/-- No pair is around an operator. -/
theorem pairsAt_operator (left : List Token) (combinator : Combinator) (rest : List Token) :
    pairsAt left (.operator combinator) rest = 0 := by
  rw [pairsAt, List.dropWhile_cons_of_neg (by simp [isPlain]), closings_cons_of_standsAfter rfl,
    Nat.min_zero]

/-- Of the tokens before only the parentheses next to what follows matter. -/
theorem pairsFrom_congr {left left' : List Token} (hopenings : openings left = openings left')
    (hstands : standsAfter left.head? = standsAfter left'.head?) (tokens : List Token) :
    pairsFrom left tokens = pairsFrom left' tokens := by
  induction tokens generalizing left left' with
  | nil => rfl
  | cons token rest ih =>
    have hcons : openings (token :: left) = openings (token :: left') := by
      rw [openings_cons, openings_cons, hstands, hopenings]
    rw [pairsFrom, pairsFrom, pairsAt, pairsAt, hopenings, ih hcons rfl]

/-- A closing parenthesis or an operator hides the tokens before it. -/
theorem pairsFrom_of_standsBefore {tokens : List Token} (h : standsBefore tokens.head? = true)
    (left left' : List Token) : pairsFrom left tokens = pairsFrom left' tokens := by
  cases tokens with
  | nil => rfl
  | cons token rest =>
    cases token with
    | opening | word _ | positional | named _ | keywords _ => cases h
    | closing =>
      show pairsFrom (.closing :: left) rest = pairsFrom (.closing :: left') rest
      apply pairsFrom_congr
      · rfl
      · rfl
    | operator combinator =>
      have hrest : pairsFrom (.operator combinator :: left) rest =
          pairsFrom (.operator combinator :: left') rest := by
        apply pairsFrom_congr
        · rfl
        · rfl
      rw [pairsFrom_cons_of_isKept rfl, pairsFrom_cons_of_isKept rfl, pairsAt_operator,
        pairsAt_operator, hrest]

/-! ### The tokens before a pair -/

/-- The layers on the right end before what is farther to the right. -/
theorem closings_append {tokens : List Token} (hne : tokens ≠ [])
    (h : standsAfter tokens.getLast? = true) (rest : List Token) :
    closings (tokens ++ rest) = closings tokens := by
  induction tokens with
  | nil => exact absurd rfl hne
  | cons token tokens ih =>
    by_cases hnil : tokens = []
    · subst hnil
      have htoken : standsAfter (some token) = true := h
      rw [List.cons_append, closings_cons_of_standsAfter htoken,
        closings_cons_of_standsAfter htoken]
    · obtain ⟨next, more, rfl⟩ := List.exists_cons_of_ne_nil hnil
      rw [List.getLast?_cons_cons] at h
      have hrest := ih hnil h
      rw [List.cons_append, closings_cons, closings_cons, hrest]
      rfl

/-- What a run before an opening parenthesis or an operator is enclosed in does not depend on what
follows these. -/
theorem closings_dropWhile_append {tokens : List Token} (hne : tokens ≠ [])
    (h : standsAfter tokens.getLast? = true) (rest : List Token) :
    closings ((tokens ++ rest).dropWhile isPlain) = closings (tokens.dropWhile isPlain) := by
  induction tokens with
  | nil => exact absurd rfl hne
  | cons token tokens ih =>
    cases htoken : token.isPlain with
    | false =>
      rw [List.cons_append, List.dropWhile_cons_of_neg (by simp [htoken]),
        List.dropWhile_cons_of_neg (by simp [htoken])]
      exact closings_append hne h rest
    | true =>
      rw [List.cons_append, List.dropWhile_cons_of_pos htoken, List.dropWhile_cons_of_pos htoken]
      cases tokens with
      | nil =>
        have hplain : standsAfter (some token) = true := h
        rw [standsAfter_of_isPlain htoken] at hplain
        cases hplain
      | cons next more =>
        rw [List.getLast?_cons_cons] at h
        exact ih (List.cons_ne_nil _ _) h

/-- **The pairs around the runs before a redundant pair** do not depend on it. -/
theorem exists_pairsFrom_append {before : List Token} (h : standsAfter before.getLast? = true)
    (left : List Token) :
    ∃ entries, entries.length = before.countP isKept ∧
      ∀ rest, pairsFrom left (before ++ rest) =
        entries ++ pairsFrom (before.reverse ++ left) rest := by
  induction before generalizing left with
  | nil => exact ⟨[], rfl, fun rest => rfl⟩
  | cons token before ih =>
    have hbefore : standsAfter before.getLast? = true := by
      cases before with
      | nil => rfl
      | cons next more => rwa [List.getLast?_cons_cons] at h
    obtain ⟨entries, hlength, hentries⟩ := ih hbefore (token :: left)
    refine ⟨(if token.isKept then [pairsAt left token before] else []) ++ entries, ?_,
      fun rest => ?_⟩
    · cases hkept : token.isKept <;> simp [hkept, hlength]
    · have hat : pairsAt left token (before ++ rest) = pairsAt left token before := by
        rw [pairsAt, pairsAt, ← List.cons_append,
          closings_dropWhile_append (List.cons_ne_nil _ _) h]
      rw [List.cons_append, pairsFrom, hat, hentries]
      simp

/-! ### A pair and its run -/

/-- Inside of a run no other run starts. -/
theorem pairsFrom_plain_append {plain : List Token} (hplain : ∀ token ∈ plain, token.isPlain = true)
    {left : List Token} (h : openings left = 0) (rest : List Token) :
    pairsFrom left (plain ++ rest) =
      List.replicate plain.length 0 ++ pairsFrom (plain.reverse ++ left) rest := by
  induction plain generalizing left with
  | nil => rfl
  | cons token plain ih =>
    obtain ⟨htoken, hplain⟩ := List.forall_mem_cons.1 hplain
    rw [List.cons_append, pairsFrom_cons_of_isKept (isKept_of_isPlain htoken),
      pairsAt_of_openings_eq_zero h, ih hplain (openings_cons_of_isPlain htoken left)]
    simp [List.replicate_succ]

/-- A run, and what follows it. -/
theorem pairsFrom_run_append {plain : List Token} (hne : plain ≠ [])
    (hplain : ∀ token ∈ plain, token.isPlain = true) {rest : List Token}
    (hrest : standsBefore rest.head? = true) (left : List Token) :
    pairsFrom left (plain ++ rest) = min (openings left) (closings rest) ::
      (List.replicate (plain.length - 1) 0 ++ pairsFrom (plain.reverse ++ left) rest) := by
  obtain ⟨token, plain, rfl⟩ := List.exists_cons_of_ne_nil hne
  obtain ⟨htoken, hothers⟩ := List.forall_mem_cons.1 hplain
  have hstop : (token :: (plain ++ rest)).dropWhile isPlain = rest := by
    rw [← List.cons_append, List.dropWhile_append_of_pos hplain]
    cases rest with
    | nil => rfl
    | cons next more =>
      cases next with
      | opening | word _ | positional | named _ | keywords _ => cases hrest
      | closing | operator _ => rfl
  rw [List.cons_append, pairsFrom_cons_of_isKept (isKept_of_isPlain htoken), pairsAt, hstop,
    pairsFrom_plain_append hothers (openings_cons_of_isPlain htoken left)]
  simp

/-- **A redundant pair counts for its run**, and the rest is as without the pair. -/
theorem pairsFrom_pair {left plain after : List Token} (hne : plain ≠ [])
    (hplain : ∀ token ∈ plain, token.isPlain = true) (hleft : standsAfter left.head? = true)
    (hafter : standsBefore after.head? = true) :
    pairsFrom left (.opening :: (plain ++ .closing :: after)) =
      (min (openings left) (closings after) + 1) ::
        (List.replicate (plain.length - 1) 0 ++ pairsFrom (plain.reverse ++ left) after) := by
  have hskip (token : Token) (hkept : token.isKept = false) (left rest : List Token) :
      pairsFrom left (token :: rest) = pairsFrom (token :: left) rest := by
    rw [pairsFrom, hkept]
    rfl
  rw [hskip .opening rfl, pairsFrom_run_append hne hplain rfl, hskip .closing rfl, openings,
    layers_cons_of_stands hleft, closings, layers_cons_of_stands hafter, Nat.add_min_add_right,
    pairsFrom_of_standsBefore hafter _ (plain.reverse ++ left)]

/-- **A removal lowers the number of its run by one**, and leaves the others as they are. -/
theorem exists_pairsAround_of_dropsAround {i : Nat} {s t : List Token} (h : DropsAround i s t) :
    ∃ before k after, before.length = i ∧ pairsAround s = before ++ (k + 1) :: after ∧
      pairsAround t = before ++ k :: after := by
  cases h with
  | @mk before plain after h =>
    obtain ⟨entries, hlength, hentries⟩ := exists_pairsFrom_append h.standsAfter []
    have hleft : standsAfter before.reverse.head? = true := by
      rw [List.head?_reverse]
      exact h.standsAfter
    rw [List.append_nil] at hentries
    refine ⟨entries, min (openings before.reverse) (closings after),
      List.replicate (plain.length - 1) 0 ++ pairsFrom (plain.reverse ++ before.reverse) after,
      hlength, ?_, ?_⟩
    · rw [pairsAround, hentries, pairsFrom_pair h.ne_nil h.isPlain hleft h.standsBefore]
    · rw [pairsAround, hentries, pairsFrom_run_append h.ne_nil h.isPlain h.standsBefore]

/-! ## One pass -/

section

variable {previous : Option Token}

/-- After a plain token or a closing parenthesis the pass keeps the next token. -/
theorem stripFrom_cons_of_not_standsAfter (h : standsAfter previous = false) (token : Token)
    (rest : List Token) :
    stripFrom previous false (token :: rest) = token :: stripFrom (some token) false rest :=
  stripFrom_cons_of_not fun hboth => by rw [h] at hboth; cases hboth.2

/-- The pass keeps the first token where no pair may begin. -/
theorem head?_stripFrom (h : standsAfter previous = false) (tokens : List Token) :
    (stripFrom previous false tokens).head? = tokens.head? := by
  cases tokens with
  | nil => rfl
  | cons token rest =>
    rw [stripFrom_cons_of_not_standsAfter h]
    rfl

/-- The pass keeps the closing parentheses after a run of which it does not remove a pair. -/
theorem closings_stripFrom (h : standsAfter previous = false) (tokens : List Token) :
    closings (stripFrom previous false tokens) = closings tokens := by
  induction tokens generalizing previous with
  | nil => rfl
  | cons token rest ih =>
    rw [stripFrom_cons_of_not_standsAfter h]
    by_cases htoken : token = .closing
    · subst htoken
      rw [closings_cons, closings_cons, head?_stripFrom rfl, ih rfl]
    · exact (layers_cons_of_ne htoken _ _).trans (layers_cons_of_ne htoken _ _).symm

/-- The pass keeps the closing parentheses behind the run that it is in. -/
theorem closings_dropWhile_stripFrom (h : standsAfter previous = false) (tokens : List Token) :
    closings ((stripFrom previous false tokens).dropWhile isPlain) =
      closings (tokens.dropWhile isPlain) := by
  induction tokens generalizing previous with
  | nil => rfl
  | cons token rest ih =>
    have hstrip := stripFrom_cons_of_not_standsAfter h token rest
    cases htoken : token.isPlain with
    | true =>
      rw [hstrip, List.dropWhile_cons_of_pos htoken, List.dropWhile_cons_of_pos htoken]
      exact ih (standsAfter_of_isPlain htoken)
    | false =>
      have hclosings := closings_stripFrom h (token :: rest)
      rw [hstrip] at hclosings ⊢
      rw [List.dropWhile_cons_of_neg (by simp [htoken]),
        List.dropWhile_cons_of_neg (by simp [htoken]), hclosings]

/-- A run that no redundant parenthesis closes has no pair. -/
theorem closings_of_not_closesPlain {token : Token} {rest : List Token}
    (htoken : token.isPlain = true) (h : closesPlain (token :: rest) = false) :
    closings ((token :: rest).dropWhile isPlain) = 0 := by
  rw [closesPlain] at h
  split at h
  next after hdrop =>
    rw [List.takeWhile_cons_of_pos htoken, List.isEmpty_cons, Bool.not_false, Bool.true_and] at h
    rw [hdrop]
    exact layers_cons_of_not_stands h .closing
  next hdrop =>
    cases hright : (token :: rest).dropWhile isPlain with
    | nil => rfl
    | cons next after =>
      refine layers_cons_of_ne ?_ _ after
      rintro rfl
      exact hdrop after hright

/-- Where the pass keeps the first token, no pair is counted for it before the pass or after. -/
theorem pairsAt_stripFrom {left : List Token} {token : Token} (hkept : token.isKept = true)
    {rest : List Token} (hopen : closesPlain (token :: rest) = true → openings left = 0) :
    pairsAt left token (stripFrom (some token) false rest) = pairsAt left token rest - 1 := by
  cases htoken : token.isPlain with
  | false =>
    cases token with
    | opening | closing => cases hkept
    | word _ | positional | named _ | keywords _ => cases htoken
    | operator combinator => rw [pairsAt_operator, pairsAt_operator]
  | true =>
    cases hcloses : closesPlain (token :: rest) with
    | true =>
      rw [pairsAt_of_openings_eq_zero (hopen hcloses), pairsAt_of_openings_eq_zero (hopen hcloses)]
    | false =>
      have hright := closings_of_not_closesPlain htoken hcloses
      have hafter := closings_dropWhile_stripFrom (standsAfter_of_isPlain htoken) rest
      rw [List.dropWhile_cons_of_pos htoken] at hright
      rw [pairsAt, pairsAt, List.dropWhile_cons_of_pos htoken, List.dropWhile_cons_of_pos htoken,
        hafter, hright, Nat.min_zero]

end

/-- After a run no parenthesis that opens there would go. -/
theorem standsAfter_reverse_append {plain : List Token} (hne : plain ≠ [])
    (hplain : ∀ token ∈ plain, token.isPlain = true) (left : List Token) :
    standsAfter (plain.reverse ++ left).head? = false ∧ openings (plain.reverse ++ left) = 0 := by
  obtain hnil | ⟨init, last, rfl⟩ := List.eq_nil_or_concat' plain
  · exact absurd hnil hne
  · have hlast := hplain last (by simp)
    rw [List.reverse_append]
    exact ⟨standsAfter_of_isPlain hlast, openings_cons_of_isPlain hlast _⟩

/-- **One pass lowers all numbers by one.** The tokens before the rest of the list are those that
the pass has kept; a redundant pair that it went past is none any more, for its opening parenthesis
did not stand alone. -/
theorem pairsFrom_stripFrom (tokens left : List Token) (previous : Option Token)
    (hprevious : standsAfter left.head? = standsAfter previous)
    (hopen : closesPlain tokens = true → openings left = 0) :
    pairsFrom left (stripFrom previous false tokens) = (pairsFrom left tokens).map (· - 1) := by
  induction previous, tokens using stripFrom_induction generalizing left with
  | nil previous => rfl
  | pair previous plain after hne hplain hstands hafter ih =>
    obtain ⟨hlast, hnone⟩ := standsAfter_reverse_append hne hplain left
    have hrest := ih (plain.reverse ++ left) hlast fun _ => hnone
    have hhead : standsBefore (stripFrom (some .closing) false after).head? = true := by
      rw [head?_stripFrom rfl]
      exact hafter
    rw [stripFrom_pair hne hplain hstands hafter, pairsFrom_run_append hne hplain hhead,
      closings_stripFrom rfl, hrest, pairsFrom_pair hne hplain (hprevious.trans hstands) hafter]
    simp
  | keep previous token rest hkeep ih =>
-- a parenthesis that is kept before a run that closes is one that may not go
    have hnext : closesPlain rest = true → openings (token :: left) = 0 := by
      intro hcloses
      by_cases htoken : token = .opening
      · refine layers_cons_of_not_stands ?_ token
        rw [hprevious]
        simpa [htoken, hcloses] using hkeep
      · exact layers_cons_of_ne htoken _ left
    have hrest := ih (token :: left) rfl hnext
    rw [stripFrom_cons_of_not hkeep, pairsFrom, pairsFrom, hrest, List.map_append]
    cases hkept : token.isKept with
    | false => rfl
    | true => simp [pairsAt_stripFrom hkept hopen]

/-- **One pass removes one pair around every run that has any.** -/
theorem pairsAround_stripOnce (tokens : List Token) :
    pairsAround (stripOnce tokens) = (pairsAround tokens).map (· - 1) :=
  pairsFrom_stripFrom tokens [] none rfl fun _ => rfl

/-! ## All passes -/

/-- Where no pair is redundant none is counted. -/
theorem Irreducible.pairsAround_eq_zero {tokens : List Token} (h : Irreducible tokens) :
    ∀ k ∈ pairsAround tokens, k = 0 := by
  have hsame : (pairsAround tokens).map id = (pairsAround tokens).map (· - 1) := by
    rw [List.map_id, ← pairsAround_stripOnce, h.stripOnce_eq]
  intro k hk
  have hk : k = k - 1 := List.map_inj_left.1 hsame k hk
  omega

/-- **There are as many passes as pairs around the run with most of them.** -/
theorem passes_stripParens (tokens : List Token) :
    (∀ k ∈ pairsAround tokens, k ≤ (stripParens tokens).1) ∧
      ((stripParens tokens).1 ≠ 0 → (stripParens tokens).1 ∈ pairsAround tokens) := by
  induction tokens using stripParens.induct with
  | case1 tokens next h passes final hrec ih =>
    have hpasses : (stripParens tokens).1 = passes + 1 := by
      rw [stripParens, if_pos h, hrec]
    rw [hrec] at ih
    rw [hpasses]
    have hnext : pairsAround next = (pairsAround tokens).map (· - 1) := pairsAround_stripOnce tokens
    rw [hnext] at ih
    have hle : ∀ k ∈ pairsAround tokens, k ≤ passes + 1 := by
      intro k hk
      have hpred := ih.1 (k - 1) (List.mem_map_of_mem hk)
      omega
    refine ⟨hle, fun _ => ?_⟩
    by_cases hzero : passes = 0
    · -- the first pass removed something
      rcases (drops_stripOnce tokens).cases_head with heq | ⟨t, hdrop, -⟩
      · exact absurd h (by simp [next, ← heq])
      · obtain ⟨before, plain, after, hpair, rfl, rfl⟩ := dropsPair_iff.1 hdrop
        obtain ⟨entries, k, others, -, hpairs, -⟩ := exists_pairsAround_of_dropsAround (.mk hpair)
        have hmem : k + 1 ∈ pairsAround (before ++ .opening :: (plain ++ .closing :: after)) := by
          simp [hpairs]
        have hk := hle (k + 1) hmem
        rwa [show passes + 1 = k + 1 by omega]
    · obtain ⟨k, hk, hpred⟩ := List.mem_map.1 (ih.2 hzero)
      rwa [show passes + 1 = k by omega]
  | case2 tokens next h =>
    rw [stripParens, if_neg h]
    have hirr : Irreducible tokens := fun t hdrop => h (length_stripOnce_lt hdrop)
    exact ⟨fun k hk => Nat.le_of_eq (hirr.pairsAround_eq_zero k hk), fun hne => absurd rfl hne⟩

/-- **A sequence of removals takes as many pairs around a run** as its number is lowered by. -/
theorem Removes.count_eq {around : List Nat} {s t : List Token} (h : Removes around s t)
    (i : Nat) : (pairsAround s)[i]?.getD 0 = (pairsAround t)[i]?.getD 0 + around.count i := by
  induction h with
  | nil s => rfl
  | @cons j around s t u hfirst _ ih =>
    obtain ⟨before, k, after, rfl, hs, ht⟩ := exists_pairsAround_of_dropsAround hfirst
    rw [List.count_cons]
    rw [ht] at ih
    rw [hs]
    by_cases hi : before.length = i
    · subst hi
      simp at ih ⊢
      omega
    · have hsame : (before ++ (k + 1) :: after)[i]? = (before ++ k :: after)[i]? := by
        rw [List.getElem?_append, List.getElem?_append]
        split
        · rfl
        · rw [List.getElem?_cons, List.getElem?_cons, if_neg (by omega), if_neg (by omega)]
      rw [hsame, ih]
      simp [hi]

/-- Where no redundant pair is left, as many are removed around a run as it had. -/
theorem Removes.count_eq_of_irreducible {around : List Nat} {s t : List Token}
    (h : Removes around s t) (ht : Irreducible t) (i : Nat) :
    around.count i = (pairsAround s)[i]?.getD 0 := by
  have hzero : (pairsAround t)[i]?.getD 0 = 0 := by
    cases hget : (pairsAround t)[i]? with
    | none => rfl
    | some k => exact ht.pairsAround_eq_zero k (List.mem_of_getElem? hget)
  have hcount := h.count_eq i
  omega

/-- **The number of passes is the greatest number of pairs around one run**, however they are
removed. -/
theorem Removes.isGreatest_passes {around : List Nat} {s t : List Token} (h : Removes around s t)
    (ht : Irreducible t) : IsGreatest (Set.range fun i => around.count i) (stripParens s).1 := by
  obtain ⟨hle, hmem⟩ := passes_stripParens s
  have hcount := h.count_eq_of_irreducible ht
  have hbound : ∀ i, around.count i ≤ (stripParens s).1 := by
    intro i
    rw [hcount]
    cases hget : (pairsAround s)[i]? with
    | none => exact Nat.zero_le _
    | some k => exact hle k (List.mem_of_getElem? hget)
  refine ⟨?_, ?_⟩
  · by_cases hzero : (stripParens s).1 = 0
    · refine ⟨0, ?_⟩
      have hfirst := hbound 0
      dsimp only
      omega
    · obtain ⟨i, hi, hget⟩ := List.mem_iff_getElem.1 (hmem hzero)
      refine ⟨i, ?_⟩
      dsimp only
      rw [hcount, List.getElem?_eq_getElem hi]
      exact hget
  · rintro _ ⟨i, rfl⟩
    exact hbound i

/-- **Removing redundant pairs ends in a normal form.** No redundant pair is left, and removing
again changes nothing. Every sequence of single removals is finite, and if it cannot go on it ends
with the same list; the number of passes is then the greatest number of pairs that it removed around
one run. All tokens but parentheses stay in order, and as many opening as closing ones go. -/
theorem stripParens_normalizes (tokens : List Token) :
    ∃ passes final, stripParens tokens = (passes, final) ∧
      Irreducible final ∧ stripParens final = (0, final) ∧
      (∃ around, Removes around tokens final) ∧
      (∀ around t, Removes around tokens t →
        t.length + 2 * around.length = tokens.length ∧
          (Irreducible t →
            t = final ∧ IsGreatest (Set.range fun i => around.count i) passes)) ∧
      final.filter isKept = tokens.filter isKept ∧
      ∃ n, tokens.count .opening = final.count .opening + n ∧
        tokens.count .closing = final.count .closing + n := by
  have hirr := irreducible_stripParens tokens
  have hdrops := drops_stripParens tokens
  refine ⟨_, _, rfl, hirr, hirr.stripParens_eq, exists_removes_of_drops hdrops, ?_,
    kept_eq_of_drops hdrops, exists_count_of_drops hdrops⟩
  intro around t hremoves
  refine ⟨hremoves.length_add, ?_⟩
  intro ht
  exact ⟨eq_of_irreducible hremoves.drops hdrops ht hirr, hremoves.isGreatest_passes ht⟩

end RecordFilter.Token
