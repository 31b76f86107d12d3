import Mathlib.Data.List.Basic
import Mathlib.Logic.Relation
import RecordFilter.Query.Parens

/-!
# Removal of pairs

One pass over a token list removes many pairs of parentheses, and passes follow each other. Both are
chains of single removals, so what a single removal keeps, all of them keep.

* `Token.DropsPair` — one redundant pair is removed.
* `Token.stripFrom_induction` — induction over the pairs and the tokens that one pass meets.
* `Token.drops_stripOnce`, `Token.drops_stripParens` — a pass, and all passes, are chains of such
  removals.
* `Token.DropsInside` — the removed pair has tokens on both sides.
* `Token.enclose_of_dropsPair` — a removal before the outer parentheses are added is a removal
  inside them, or changes nothing.
-/

namespace RecordFilter.Token

/-! ## Single removals -/

/-- **One redundant pair is removed**: a pair around plain tokens only, one at least, with no item
directly before or after it. -/
inductive DropsPair : List Token → List Token → Prop
  | mk (before plain after : List Token) (hne : plain ≠ [])
      (hplain : ∀ token ∈ plain, token.isPlain = true)
      (hbefore : standsAfter before.getLast? = true) (hafter : standsBefore after.head? = true) :
      DropsPair (before ++ .opening :: (plain ++ .closing :: after)) (before ++ (plain ++ after))

/-- What follows an opening parenthesis that closes after plain tokens. -/
theorem exists_of_closesPlain {rest : List Token} (h : closesPlain rest = true) :
    ∃ plain after, rest = plain ++ .closing :: after ∧ plain ≠ [] ∧
      (∀ token ∈ plain, token.isPlain = true) ∧ standsBefore after.head? = true := by
  unfold closesPlain at h
  split at h
  next after hdrop =>
    rw [Bool.and_eq_true] at h
    refine ⟨rest.takeWhile isPlain, after, ?_, ?_, ?_, h.2⟩
    · rw [← hdrop, List.takeWhile_append_dropWhile]
    · simpa using h.1
    · exact List.all_eq_true.1 List.all_takeWhile
  next => cases h

/-- Plain tokens up to a closing parenthesis that may go close a redundant pair. -/
theorem closesPlain_of_plain {plain after : List Token} (hne : plain ≠ [])
    (hplain : ∀ token ∈ plain, token.isPlain = true) (hafter : standsBefore after.head? = true) :
    closesPlain (plain ++ .closing :: after) = true := by
  rw [closesPlain, List.dropWhile_append_of_pos hplain, List.takeWhile_append_of_pos hplain]
  simp [isPlain, hafter, hne]

/-- No redundant pair begins after a plain token. -/
theorem standsAfter_of_isPlain {token : Token} (h : token.isPlain = true) :
    standsAfter (some token) = false := by
  cases token with
  | opening | closing | operator _ => cases h
  | word _ | positional | named _ | keywords _ => rfl

/-- After plain tokens nothing opens that may go. -/
theorem standsAfter_append_plain {plain : List Token} (hne : plain ≠ [])
    (hplain : ∀ token ∈ plain, token.isPlain = true) (before : List Token) :
    standsAfter (before ++ plain).getLast? = false := by
  obtain hnil | ⟨init, last, rfl⟩ := List.eq_nil_or_concat' plain
  · exact absurd hnil hne
  · rw [← List.append_assoc, List.getLast?_concat]
    exact standsAfter_of_isPlain (hplain last (by simp))

/-! ## One pass -/

/-- Inside a pair that is removed the pass keeps the plain tokens. -/
theorem stripFrom_dropping {plain : List Token} (hplain : ∀ token ∈ plain, token.isPlain = true)
    (previous : Option Token) (after : List Token) :
    stripFrom previous true (plain ++ .closing :: after) =
      plain ++ stripFrom (some .closing) false after := by
  induction plain generalizing previous with
  | nil => simp [stripFrom]
  | cons token rest ih =>
    have htoken := hplain token List.mem_cons_self
    have hrest := ih (fun token hmem => hplain token (List.mem_cons_of_mem _ hmem)) (some token)
    cases token with
    | opening | closing | operator _ => cases htoken
    | word _ | positional | named _ | keywords _ => simp [stripFrom, hrest]

/-- **A redundant pair goes**, and the pass goes on after it. -/
theorem stripFrom_pair {previous : Option Token} {plain after : List Token} (hne : plain ≠ [])
    (hplain : ∀ token ∈ plain, token.isPlain = true) (hstands : standsAfter previous = true)
    (hafter : standsBefore after.head? = true) :
    stripFrom previous false (.opening :: (plain ++ .closing :: after)) =
      plain ++ stripFrom (some .closing) false after := by
  have hcloses := closesPlain_of_plain hne hplain hafter
  rw [stripFrom, if_pos (Bool.and_eq_true_iff.2 ⟨hstands, hcloses⟩), stripFrom_dropping hplain]

/-- A token that opens no redundant pair is kept. -/
theorem stripFrom_cons_of_not {previous : Option Token} {token : Token} {rest : List Token}
    (h : ¬ (token = .opening ∧ (standsAfter previous && closesPlain rest) = true)) :
    stripFrom previous false (token :: rest) = token :: stripFrom (some token) false rest := by
  cases token with
  | opening => rw [stripFrom, if_neg fun hcond => h ⟨rfl, hcond⟩]
  | closing | operator _ | word _ | positional | named _ | keywords _ => simp [stripFrom]

/-- **Induction over one pass**: at each place it removes the pair that opens there and goes on
after it, or keeps the token. -/
theorem stripFrom_induction {motive : Option Token → List Token → Prop}
    (nil : ∀ previous, motive previous [])
    (pair : ∀ previous plain after, plain ≠ [] → (∀ token ∈ plain, token.isPlain = true) →
      standsAfter previous = true → standsBefore after.head? = true →
      motive (some .closing) after → motive previous (.opening :: (plain ++ .closing :: after)))
    (keep : ∀ previous token rest,
      ¬ (token = .opening ∧ (standsAfter previous && closesPlain rest) = true) →
      motive (some token) rest → motive previous (token :: rest))
    (previous : Option Token) (tokens : List Token) : motive previous tokens := by
  match tokens with
  | [] => exact nil previous
  | token :: rest =>
    by_cases h : token = .opening ∧ (standsAfter previous && closesPlain rest) = true
    · obtain ⟨rfl, hcond⟩ := h
      obtain ⟨hstands, hcloses⟩ := Bool.and_eq_true_iff.1 hcond
      obtain ⟨plain, after, rfl, hne, hplain, hafter⟩ := exists_of_closesPlain hcloses
      exact pair previous plain after hne hplain hstands hafter
        (stripFrom_induction nil pair keep (some .closing) after)
    · exact keep previous token rest h (stripFrom_induction nil pair keep (some token) rest)
termination_by tokens.length
decreasing_by all_goals simp_all <;> omega

/-- **One pass is a chain of removals**, from left to right. The token before the rest of the list
counts as in the list that the pass reads: a removed parenthesis never stands there, for a removed
pair has plain tokens inside. -/
theorem drops_stripFrom (tokens before : List Token) (previous : Option Token)
    (hprevious : standsAfter before.getLast? = standsAfter previous) :
    Relation.ReflTransGen DropsPair (before ++ tokens)
      (before ++ stripFrom previous false tokens) := by
  induction previous, tokens using stripFrom_induction generalizing before with
  | nil previous => exact .refl
  | pair previous plain after hne hplain hstands hafter ih =>
    have hrest := ih (before ++ plain) (standsAfter_append_plain hne hplain before)
    rw [List.append_assoc, List.append_assoc] at hrest
    rw [stripFrom_pair hne hplain hstands hafter]
    exact .head ⟨before, plain, after, hne, hplain, hprevious.trans hstands, hafter⟩ hrest
  | keep previous token rest hkeep ih =>
    have hrest := ih (before ++ [token]) (by simp)
    rw [stripFrom_cons_of_not hkeep]
    rwa [List.append_assoc, List.append_assoc] at hrest

/-- A pass is a sequence of removals. -/
theorem drops_stripOnce (tokens : List Token) :
    Relation.ReflTransGen DropsPair tokens (stripOnce tokens) :=
  drops_stripFrom tokens [] none rfl

/-- **All passes together are a chain of removals.** -/
theorem drops_stripParens (tokens : List Token) :
    Relation.ReflTransGen DropsPair tokens (stripParens tokens).2 := by
  induction tokens using stripParens.induct with
  | case1 tokens next h passes final hrec ih =>
    rw [stripParens, if_pos h]
    exact (drops_stripOnce tokens).trans ih
  | case2 tokens next h =>
    rw [stripParens, if_neg h]

/-! ## Inside the outer parentheses -/

/-- **A pair is removed inside a list**: there are tokens on both sides of it. -/
inductive DropsInside : List Token → List Token → Prop
  | mk (before : List Token) (left : Token) (plain : List Token) (right : Token)
      (after : List Token) (hne : plain ≠ []) (hplain : ∀ token ∈ plain, token.isPlain = true)
      (hleft : standsAfter (some left) = true) (hright : standsBefore (some right) = true) :
      DropsInside (before ++ left :: .opening :: (plain ++ .closing :: right :: after))
        (before ++ left :: (plain ++ right :: after))

/-- A pair with tokens on both sides of it is dropped inside a group. -/
theorem dropsInside_of_ne_nil {before plain after : List Token} (hne : plain ≠ [])
    (hplain : ∀ token ∈ plain, token.isPlain = true) (hbefore : before ≠ []) (hafter : after ≠ [])
    (hleft : standsAfter before.getLast? = true) (hright : standsBefore after.head? = true) :
    DropsInside (before ++ .opening :: (plain ++ .closing :: after))
      (before ++ (plain ++ after)) := by
  obtain hnil | ⟨init, left, rfl⟩ := List.eq_nil_or_concat' before
  · exact absurd hnil hbefore
  · obtain ⟨right, rest, rfl⟩ := List.exists_cons_of_ne_nil hafter
    rw [List.getLast?_concat] at hleft
    rw [List.append_assoc, List.append_assoc]
    exact ⟨init, left, plain, right, rest, hne, hplain, hleft, hright⟩

/-- Around a list new parentheses stand on both sides of every pair. -/
theorem dropsInside_of_dropsPair {s t : List Token} (h : DropsPair s t) :
    DropsInside (.opening :: s ++ [.closing]) (.opening :: t ++ [.closing]) := by
  obtain ⟨before, plain, after, hne, hplain, hbefore, hafter⟩ := h
  have hleft : standsAfter (Token.opening :: before).getLast? = true := by
    cases before with
    | nil => rfl
    | cons token rest => rwa [List.getLast?_cons_cons]
  have hright : standsBefore (after ++ [Token.closing]).head? = true := by
    cases after with
    | nil => rfl
    | cons token rest => exact hafter
  have hinside := dropsInside_of_ne_nil hne hplain (List.cons_ne_nil .opening before)
    (List.append_ne_nil_of_right_ne_nil after (List.cons_ne_nil .closing [])) hleft hright
  simpa using hinside

/-! ### Where the outermost group closes -/

/-- Plain tokens leave the depth as it is. -/
theorem closesAtEnd_plain {plain : List Token} (hplain : ∀ token ∈ plain, token.isPlain = true)
    (depth : Nat) (after : List Token) :
    closesAtEnd depth (plain ++ after) = closesAtEnd depth after := by
  induction plain with
  | nil => rfl
  | cons token rest ih =>
    have htoken := hplain token List.mem_cons_self
    have hrest := ih fun token hmem => hplain token (List.mem_cons_of_mem _ hmem)
    cases token with
    | opening | closing | operator _ => cases htoken
    | word _ | positional | named _ | keywords _ =>
      rw [List.cons_append, closesAtEnd, hrest] <;> simp

/-- A pair of parentheses leaves the depth as it is. -/
theorem closesAtEnd_pair {plain : List Token} (hplain : ∀ token ∈ plain, token.isPlain = true)
    {depth : Nat} (hdepth : 1 ≤ depth) (after : List Token) :
    closesAtEnd depth (.opening :: (plain ++ .closing :: after)) =
      closesAtEnd depth (plain ++ after) := by
  rw [closesAtEnd, closesAtEnd_plain hplain, closesAtEnd_plain hplain, closesAtEnd,
    if_neg (by omega), Nat.add_sub_cancel]

/-- A list does not become empty by an addition. -/
theorem isEmpty_append_eq_false (rest : List Token) {xs : List Token} (h : xs ≠ []) :
    (rest ++ xs).isEmpty = false :=
  List.isEmpty_eq_false_iff.2 (List.append_ne_nil_of_right_ne_nil rest h)

/-- Tokens in front do not matter for two lists that close alike at every depth. -/
theorem closesAtEnd_append_congr {xs ys : List Token} (hxs : xs ≠ []) (hys : ys ≠ [])
    (h : ∀ depth, 1 ≤ depth → closesAtEnd depth xs = closesAtEnd depth ys) (before : List Token) :
    ∀ depth, 1 ≤ depth → closesAtEnd depth (before ++ xs) = closesAtEnd depth (before ++ ys) := by
  induction before with
  | nil => exact h
  | cons token rest ih =>
    intro depth hdepth
    cases token with
    | opening => exact ih (depth + 1) (by omega)
    | closing =>
      simp only [List.cons_append, closesAtEnd]
      split
      · rw [isEmpty_append_eq_false rest hxs, isEmpty_append_eq_false rest hys]
      · exact ih (depth - 1) (by omega)
    | operator _ | word _ | positional | named _ | keywords _ => exact ih depth hdepth

/-- A list that ends with plain tokens is no group. -/
theorem closesAtEnd_append_plain {plain : List Token} (hne : plain ≠ [])
    (hplain : ∀ token ∈ plain, token.isPlain = true) (before : List Token) :
    ∀ depth, closesAtEnd depth (before ++ plain) = false := by
  induction before with
  | nil =>
    intro depth
    have hend := closesAtEnd_plain hplain depth []
    rwa [List.append_nil] at hend
  | cons token rest ih =>
    intro depth
    cases token with
    | opening => exact ih (depth + 1)
    | closing =>
      simp only [List.cons_append, closesAtEnd]
      split
      · exact isEmpty_append_eq_false rest hne
      · exact ih (depth - 1)
    | operator _ | word _ | positional | named _ | keywords _ => exact ih depth

/-! ### Groups -/

/-- A list that starts with a plain token is no group. -/
theorem isGroup_plain_append {plain : List Token} (hne : plain ≠ [])
    (hplain : ∀ token ∈ plain, token.isPlain = true) (after : List Token) :
    isGroup (plain ++ after) = false := by
  obtain ⟨token, rest, rfl⟩ := List.exists_cons_of_ne_nil hne
  have htoken := hplain token List.mem_cons_self
  cases token with
  | opening | closing | operator _ => cases htoken
  | word _ | positional | named _ | keywords _ => rfl

/-- A pair that is not the first token does not tell whether the list is a group. -/
theorem isGroup_pair {plain : List Token} (hne : plain ≠ [])
    (hplain : ∀ token ∈ plain, token.isPlain = true) {before : List Token} (hbefore : before ≠ [])
    (after : List Token) :
    isGroup (before ++ .opening :: (plain ++ .closing :: after)) =
      isGroup (before ++ (plain ++ after)) := by
  obtain ⟨token, rest, rfl⟩ := List.exists_cons_of_ne_nil hbefore
  cases token with
  | closing | operator _ | word _ | positional | named _ | keywords _ => rfl
  | opening =>
    exact closesAtEnd_append_congr (List.cons_ne_nil _ _)
      (List.append_ne_nil_of_left_ne_nil hne after)
      (fun depth hdepth => closesAtEnd_pair hplain hdepth after) rest 1 (Nat.le_refl 1)

/-- A removal in a group leaves it a group, unless the group itself goes. -/
theorem after_ne_nil_of_isGroup {plain : List Token} (hne : plain ≠ [])
    (hplain : ∀ token ∈ plain, token.isPlain = true) {before after : List Token}
    (h : isGroup (before ++ (plain ++ after)) = true) : after ≠ [] := by
  rintro rfl
  rw [List.append_nil] at h
  cases before with
  | nil =>
    rw [List.nil_append, ← List.append_nil plain, isGroup_plain_append hne hplain] at h
    cases h
  | cons token rest =>
    cases token with
    | closing | operator _ | word _ | positional | named _ | keywords _ => cases h
    | opening =>
      have hend : closesAtEnd 1 (rest ++ plain) = true := h
      rw [closesAtEnd_append_plain hne hplain] at hend
      cases hend

/-- **A removal before the outer parentheses are added** is a removal inside them, or it changes
nothing: then the removed pair was the outer one, and comes back. -/
theorem enclose_of_dropsPair {s t : List Token} (h : DropsPair s t) :
    enclose s = enclose t ∨ DropsInside (enclose s) (enclose t) := by
  have hwrapped := dropsInside_of_dropsPair h
  obtain ⟨before, plain, after, hne, hplain, hbefore, hafter⟩ := h
  by_cases hnil : before = []
  · subst hnil
    have ht : isGroup ([] ++ (plain ++ after)) = false := isGroup_plain_append hne hplain after
    have hs : isGroup ([] ++ .opening :: (plain ++ .closing :: after)) = after.isEmpty := by
      show closesAtEnd 1 (plain ++ .closing :: after) = after.isEmpty
      rw [closesAtEnd_plain hplain]
      rfl
    rw [enclose, enclose, ht, hs]
    cases after with
    | nil => exact .inl (by simp)
    | cons right rest => exact .inr hwrapped
  · have hgroup := isGroup_pair hne hplain hnil after
    rw [enclose, enclose, hgroup]
    split
    next ht =>
      exact .inr (dropsInside_of_ne_nil hne hplain hnil (after_ne_nil_of_isGroup hne hplain ht)
        hbefore hafter)
    next => exact .inr hwrapped

end RecordFilter.Token
