import RecordFilter.Proofs.Parens.Balance

/-!
# Lists without redundant pairs

All passes together end with a list from which nothing can be removed. In the outer parentheses that
it may need it is normalized for good: removing redundant pairs again, and adding the outer
parentheses again, gives the same list.

* `Token.Irreducible` — no redundant pair is left.
* `Token.irreducible_stripParens` — the passes end with such a list.
* `Token.enclose_stripParens_enclose` — **normalizing twice is normalizing once**, on lists that are
  one group.
-/

namespace RecordFilter.Token

/-- **No redundant pair is left** in a list. -/
def Irreducible (tokens : List Token) : Prop := ∀ t, ¬ DropsPair tokens t

/-! ## What a pass leaves -/

/-- A pass that starts with a pair removes it. -/
theorem length_stripFrom_opening_lt {previous : Option Token} {rest : List Token}
    (h : (standsAfter previous && closesPlain rest) = true) :
    (stripFrom previous false (.opening :: rest)).length < (Token.opening :: rest).length := by
  obtain ⟨hstands, hcloses⟩ := Bool.and_eq_true_iff.1 h
  obtain ⟨plain, after, rfl, hne, hplain, hafter⟩ := exists_of_closesPlain hcloses
  have hle := length_stripFrom_le (some .closing) false after
  rw [stripFrom_pair hne hplain hstands hafter]
  simp only [List.length_append, List.length_cons]
  omega

/-- A pass removes something where a redundant pair is. -/
theorem length_stripFrom_lt {plain after : List Token} (hne : plain ≠ [])
    (hplain : ∀ token ∈ plain, token.isPlain = true) (hafter : standsBefore after.head? = true)
    (before : List Token) (previous : Option Token)
    (hbefore : standsAfter (before.getLast?.or previous) = true) :
    (stripFrom previous false (before ++ .opening :: (plain ++ .closing :: after))).length <
      (before ++ .opening :: (plain ++ .closing :: after)).length := by
  induction before generalizing previous with
  | nil =>
    have hcloses := closesPlain_of_plain hne hplain hafter
    exact length_stripFrom_opening_lt (Bool.and_eq_true_iff.2 ⟨hbefore, hcloses⟩)
  | cons token before ih =>
    rw [List.cons_append]
    by_cases h : token = .opening ∧ (standsAfter previous &&
        closesPlain (before ++ .opening :: (plain ++ .closing :: after))) = true
    · obtain ⟨rfl, hcond⟩ := h
      exact length_stripFrom_opening_lt hcond
    · have hlast : (token :: before).getLast?.or previous = before.getLast?.or (some token) := by
        cases before with
        | nil => rfl
        | cons next rest =>
          rw [List.getLast?_cons_cons, List.getLast?_cons]
          rfl
      have hrest := ih (some token) (hlast ▸ hbefore)
      rw [stripFrom_cons_of_not h, List.length_cons, List.length_cons]
      omega

/-- Where a pair can be dropped, a pass makes the list shorter. -/
theorem length_stripOnce_lt {s t : List Token} (h : DropsPair s t) :
    (stripOnce s).length < s.length := by
  obtain ⟨before, plain, after, hne, hplain, hbefore, hafter⟩ := h
  refine length_stripFrom_lt hne hplain hafter before none ?_
  rwa [Option.or_none]

/-- **A pass leaves a list as it is if no redundant pair is in it.** -/
theorem Irreducible.stripOnce_eq {tokens : List Token} (h : Irreducible tokens) :
    stripOnce tokens = tokens := by
  rcases (drops_stripOnce tokens).cases_head with heq | ⟨t, hdrop, -⟩
  · exact heq.symm
  · exact absurd hdrop (h t)

/-- Where no pair can be dropped, no pass is made and the list stays. -/
theorem Irreducible.stripParens_eq {tokens : List Token} (h : Irreducible tokens) :
    stripParens tokens = (0, tokens) := by
  rw [stripParens, h.stripOnce_eq]
  simp

/-- **The passes end with a list without redundant pairs.** -/
theorem irreducible_stripParens (tokens : List Token) : Irreducible (stripParens tokens).2 := by
  induction tokens using stripParens.induct with
  | case1 tokens next h passes final hrec ih =>
    rw [stripParens, if_pos h]
    exact ih
  | case2 tokens next h =>
    rw [stripParens, if_neg h]
    exact fun t hdrop => h (length_stripOnce_lt hdrop)

/-! ## In outer parentheses -/

/-- A balanced list does not close in its plain beginning. -/
theorem not_balanced_plain_closing {plain : List Token}
    (hplain : ∀ token ∈ plain, token.isPlain = true) (after : List Token) :
    ¬ Balanced (plain ++ .closing :: after) := by
  rw [balanced_iff, parens_append, parens_eq_nil_of_plain hplain]
  exact Bool.false_ne_true

/-- A balanced list leaves nothing open at its plain end. -/
theorem not_balanced_opening_plain {plain : List Token}
    (hplain : ∀ token ∈ plain, token.isPlain = true) (before : List Token) :
    ¬ Balanced (before ++ .opening :: plain) := by
  rintro ⟨hcount, hprefix⟩
  have hbefore := hprefix before (List.prefix_append before _)
  have hnone (token : Token) (htoken : token.isPlain = false) : plain.count token = 0 := by
    refine List.count_eq_zero.2 fun hmem => ?_
    rw [hplain token hmem] at htoken
    cases htoken
  simp only [List.count_append, List.count_cons_self, hnone .opening rfl, hnone .closing rfl,
    List.count_cons_of_ne (by decide : Token.opening ≠ .closing)] at hcount
  omega

/-- **Outer parentheses that are needed make nothing redundant**, unless only plain tokens are
inside of them. -/
theorem irreducible_outer {tokens : List Token} (h : Irreducible tokens)
    (hbalanced : Balanced tokens)
    (hinner : ¬ (tokens ≠ [] ∧ ∀ token ∈ tokens, token.isPlain = true)) :
    Irreducible (.opening :: tokens ++ [.closing]) := by
  intro t hdrop
  generalize hs : Token.opening :: tokens ++ [.closing] = s at hdrop
  obtain ⟨before, plain, after, hne, hplain, hbefore, hafter⟩ := hdrop
  cases before with
  | nil =>
    -- the outer parenthesis opens the pair
    have htokens : tokens ++ [.closing] = plain ++ .closing :: after := (List.cons.inj hs).2
    obtain rfl | ⟨after, last, rfl⟩ := List.eq_nil_or_concat' after
    · obtain rfl := List.append_cancel_right htokens
      exact hinner ⟨hne, hplain⟩
    · rw [← List.cons_append, ← List.append_assoc] at htokens
      obtain ⟨rfl, -⟩ := List.append_inj' htokens rfl
      exact not_balanced_plain_closing hplain after hbalanced
  | cons first before =>
    have htokens : tokens ++ [.closing] = before ++ .opening :: (plain ++ .closing :: after) :=
      (List.cons.inj hs).2
    obtain rfl : Token.opening = first := (List.cons.inj hs).1
    obtain rfl | ⟨after, last, rfl⟩ := List.eq_nil_or_concat' after
    · -- the outer parenthesis closes the pair
      rw [← List.cons_append, ← List.append_assoc] at htokens
      obtain ⟨rfl, -⟩ := List.append_inj' htokens rfl
      exact not_balanced_opening_plain hplain before hbalanced
    · -- the pair is one of the list without outer parentheses
      have hsplit : before ++ .opening :: (plain ++ .closing :: (after ++ [last])) =
          (before ++ .opening :: (plain ++ .closing :: after)) ++ [last] := by simp
      rw [hsplit] at htokens
      obtain ⟨rfl, -⟩ := List.append_inj' htokens rfl
      have hbefore' : standsAfter before.getLast? = true := by
        cases before with
        | nil => rfl
        | cons next rest => rwa [List.getLast?_cons_cons] at hbefore
      have hafter' : standsBefore after.head? = true := by
        cases after with
        | nil => rfl
        | cons next rest => exact hafter
      exact h _ ⟨before, plain, after, hne, hplain, hbefore', hafter'⟩

/-- Outer parentheses around plain tokens go, and come back. -/
theorem stripOnce_outer_plain {plain : List Token} (hne : plain ≠ [])
    (hplain : ∀ token ∈ plain, token.isPlain = true) :
    stripOnce (.opening :: plain ++ [.closing]) = plain := by
  have hpass : stripFrom none false (.opening :: (plain ++ .closing :: [])) =
      plain ++ stripFrom (some .closing) false [] :=
    stripFrom_pair hne hplain rfl rfl
  rwa [stripFrom, List.append_nil] at hpass

/-- **Normalizing again changes nothing**: a list without redundant pairs, in the outer parentheses
that it may need, is normalized to itself if it is one group. -/
theorem enclose_stripParens_enclose {tokens : List Token} (h : Irreducible tokens)
    (hgroup : OneGroup (enclose tokens)) :
    enclose (stripParens (enclose tokens)).2 = enclose tokens := by
  by_cases hwritten : isGroup tokens = true
  · rw [show enclose tokens = tokens from if_pos hwritten, h.stripParens_eq]
    exact if_pos hwritten
  · have houter : enclose tokens = .opening :: tokens ++ [.closing] := if_neg hwritten
    have hbalanced := oneGroup_enclose_iff.1 hgroup
    by_cases hinner : tokens ≠ [] ∧ ∀ token ∈ tokens, token.isPlain = true
    · have hpass := stripOnce_outer_plain hinner.1 hinner.2
      have hlt : (stripOnce (.opening :: tokens ++ [.closing])).length <
          (Token.opening :: tokens ++ [Token.closing]).length := by
        rw [hpass, List.length_append, List.length_cons]
        omega
      have hstrip : (stripParens (.opening :: tokens ++ [.closing])).2 = tokens := by
        rw [stripParens, if_pos hlt, hpass, h.stripParens_eq]
      rw [houter, hstrip, houter]
    · have houter' := irreducible_outer h hbalanced hinner
      rw [houter] at hgroup ⊢
      rw [houter'.stripParens_eq]
      exact if_pos (isGroup_iff.2 hgroup)

end RecordFilter.Token
