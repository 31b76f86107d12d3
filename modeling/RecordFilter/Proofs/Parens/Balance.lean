import RecordFilter.Proofs.Parens.Removal

/-!
# Balanced token lists

What it means that the parentheses of a token list pair, said by counting, and that a list is one
group. The tests on texts and on token lists decide it, and removing redundant pairs keeps it.

* `Token.Balanced` — as many parentheses close as open, and no prefix closes more than it opens.
* `Token.OneGroup` — a balanced list in one pair of parentheses.
* `Token.balanced_iff` — a list is balanced if and only if the text of its parentheses is.
* `Token.isGroup_iff` — the test whether a list is one group.
* `Token.oneGroup_enclose_iff` — a list in new parentheses, where it needs them, is one group if and
  only if it is balanced.
-/

namespace RecordFilter

/-! ## Parentheses of a text -/

namespace Parens

/-- The parentheses of a text, without all else. -/
def only (cs : List Char) : List Char := cs.filter fun c => c == '(' || c == ')'

/-- The parentheses of two texts, one after the other. -/
@[simp] theorem only_append (xs ys : List Char) : only (xs ++ ys) = only xs ++ only ys :=
  List.filter_append xs ys

/-- A text without parentheses has none. -/
theorem only_eq_nil {cs : List Char} (h : ∀ c ∈ cs, c ≠ '(' ∧ c ≠ ')') : only cs = [] := by
  refine List.filter_eq_nil_iff.2 fun c hc => ?_
  simp [h c hc]

/-- Other characters do not change the depth. -/
theorem balancedFrom_cons_of_ne {c : Char} (hopen : c ≠ '(') (hclose : c ≠ ')') (depth : Nat)
    (rest : List Char) : balancedFrom depth (c :: rest) = balancedFrom depth rest := by
  cases depth <;> simp [balancedFrom, hopen, hclose]

/-- Nothing but parentheses counts for whether they pair. -/
theorem balancedFrom_only (depth : Nat) (cs : List Char) :
    balancedFrom depth (only cs) = balancedFrom depth cs := by
  induction cs generalizing depth with
  | nil => rfl
  | cons c rest ih =>
    by_cases hopen : c = '('
    · subst hopen
      exact ih (depth + 1)
    · by_cases hclose : c = ')'
      · subst hclose
        cases depth with
        | zero => rfl
        | succ depth => exact ih depth
      · have hskip : only (c :: rest) = only rest :=
          List.filter_cons_of_neg (by simp [hopen, hclose])
        rw [hskip, ih, balancedFrom_cons_of_ne hopen hclose]

/-- Whether a text is balanced shows in its parentheses. -/
theorem balanced_only (cs : List Char) : balanced (only cs) = balanced cs := balancedFrom_only 0 cs

/-- Texts that pair alike at every depth do so after any text. -/
theorem balancedFrom_append_congr {ys zs : List Char}
    (h : ∀ depth, balancedFrom depth ys = balancedFrom depth zs) (xs : List Char) (depth : Nat) :
    balancedFrom depth (xs ++ ys) = balancedFrom depth (xs ++ zs) := by
  induction xs generalizing depth with
  | nil => exact h depth
  | cons c rest ih =>
    simp only [List.cons_append, balancedFrom]
    split
    · exact ih (depth + 1)
    · split
      · cases depth with
        | zero => rfl
        | succ depth => exact ih depth
      · exact ih depth

/-- What pairs inside an open parenthesis pairs with the parenthesis that closes it. -/
theorem balancedFrom_concat_closing {xs : List Char} {depth : Nat}
    (h : balancedFrom depth xs = true) : balancedFrom (depth + 1) (xs ++ [')']) = true := by
  induction xs generalizing depth with
  | nil =>
    obtain rfl : depth = 0 := by simpa [balancedFrom] using h
    rfl
  | cons c rest ih =>
    by_cases hopen : c = '('
    · subst hopen
      exact ih h
    · by_cases hclose : c = ')'
      · subst hclose
        cases depth with
        | zero => cases h
        | succ depth => exact ih h
      · rw [balancedFrom_cons_of_ne hopen hclose] at h
        rw [List.cons_append, balancedFrom_cons_of_ne hopen hclose]
        exact ih h

end Parens

/-! ## Parentheses of a token list -/

namespace Token

/-- The parenthesis that a token is. -/
def paren? : Token → Option Char
  | .opening => some '('
  | .closing => some ')'
  | _ => none

/-- The text of the parentheses among tokens. -/
def parens (tokens : List Token) : List Char := tokens.filterMap paren?

/-- No tokens have no parentheses. -/
@[simp] theorem parens_nil : parens [] = [] := rfl

/-- An opening token is one parenthesis. -/
@[simp] theorem parens_opening (rest : List Token) :
    parens (.opening :: rest) = '(' :: parens rest := rfl

/-- A closing token is one parenthesis. -/
@[simp] theorem parens_closing (rest : List Token) :
    parens (.closing :: rest) = ')' :: parens rest := rfl

/-- A token has a parenthesis or none. -/
theorem parens_cons (token : Token) (rest : List Token) :
    parens (token :: rest) = token.paren?.toList ++ parens rest := by
  rw [parens, List.filterMap_cons]
  cases token.paren? <;> rfl

/-- The parentheses of two lists, one after the other. -/
@[simp] theorem parens_append (xs ys : List Token) : parens (xs ++ ys) = parens xs ++ parens ys :=
  List.filterMap_append

/-- Plain tokens have no parentheses. -/
theorem parens_eq_nil_of_plain {plain : List Token} (h : ∀ token ∈ plain, token.isPlain = true) :
    parens plain = [] := by
  refine List.filterMap_eq_nil_iff.2 fun token hmem => ?_
  have htoken := h token hmem
  cases token with
  | opening | closing | operator _ => cases htoken
  | word _ | positional | named _ | keywords _ => rfl

/-! ### Balance -/

/-- **The parentheses of a list pair**: as many close as open, and no prefix closes more than it
opens. -/
def Balanced (tokens : List Token) : Prop :=
  tokens.count .opening = tokens.count .closing ∧
    ∀ before, before <+: tokens → before.count .closing ≤ before.count .opening

/-- **A list is one group**: balanced tokens in one pair of parentheses, which is the pair of the
first and the last token. -/
def OneGroup (tokens : List Token) : Prop :=
  ∃ inner, tokens = .opening :: inner ++ [.closing] ∧ Balanced inner

/-- The counts of parentheses by which a text pairs, when some are open before it. -/
theorem balancedFrom_parens_iff (depth : Nat) (tokens : List Token) :
    Parens.balancedFrom depth (parens tokens) = true ↔
      depth + tokens.count .opening = tokens.count .closing ∧
        ∀ before, before <+: tokens →
          before.count .closing ≤ depth + before.count .opening := by
  induction tokens generalizing depth with
  | nil =>
    simp [Parens.balancedFrom]
  | cons token rest ih =>
    -- the prefixes of a list are the empty one and those that start with the first token
    have hprefixes : (∀ before, before <+: token :: rest →
          before.count .closing ≤ depth + before.count .opening) ↔
        ∀ before, before <+: rest →
          (token :: before).count .closing ≤ depth + (token :: before).count .opening := by
      constructor
      · intro h before hbefore
        exact h (token :: before) (List.prefix_cons_inj token |>.2 hbefore)
      · intro h before hbefore
        rcases List.prefix_cons_iff.1 hbefore with rfl | ⟨tail, rfl, htail⟩
        · simp
        · exact h tail htail
    rw [hprefixes]
    cases token with
    | opening =>
      simp only [parens_opening, Parens.balancedFrom, if_true, ih]
      simp only [List.count_cons_self, List.count_cons_of_ne (by decide : Token.opening ≠ .closing),
        Nat.add_assoc, Nat.add_comm 1]
    | closing =>
      have hother : ∀ xs : List Token, (Token.closing :: xs).count .opening = xs.count .opening :=
        fun xs => List.count_cons_of_ne (by decide)
      simp only [parens_closing, Parens.balancedFrom, hother, List.count_cons_self]
      cases depth with
      | zero =>
        simp only [if_neg (by decide : ¬ ')' = '('), if_true, Bool.false_eq_true, false_iff]
        rintro ⟨-, h⟩
        have hfirst := h [] List.nil_prefix
        simp at hfirst
      | succ depth =>
        simp only [if_neg (by decide : ¬ ')' = '('), if_true, ih]
        constructor <;> rintro ⟨hcount, h⟩ <;>
          refine ⟨by omega, fun before hbefore => ?_⟩ <;>
          have hle := h before hbefore <;> omega
    | operator _ | word _ | positional | named _ | keywords _ =>
      simp only [parens_cons, paren?, Option.toList_none, List.nil_append, ih]
      simp

/-- **A list is balanced if and only if its parentheses pair.** -/
theorem balanced_iff {tokens : List Token} :
    Balanced tokens ↔ Parens.balanced (parens tokens) = true := by
  rw [Balanced, Parens.balanced, balancedFrom_parens_iff]
  simp only [Nat.zero_add]

/-! ### Groups -/

/-- The innermost of some open groups closes at the end of a list if the tokens before pair with the
others. -/
theorem closesAtEnd_iff (depth : Nat) (rest : List Token) :
    closesAtEnd (depth + 1) rest = true ↔
      ∃ inner, rest = inner ++ [.closing] ∧
        Parens.balancedFrom depth (parens inner) = true := by
  induction rest generalizing depth with
  | nil => simp [closesAtEnd]
  | cons token rest ih =>
    -- the token before the rest is the last one, or belongs to what is inside
    have hsplit (p : List Token → Prop) :
        (∃ inner, token :: rest = inner ++ [.closing] ∧ p inner) ↔
          (rest = [] ∧ token = .closing ∧ p []) ∨
            ∃ inner, rest = inner ++ [.closing] ∧ p (token :: inner) := by
      constructor
      · rintro ⟨inner, heq, hp⟩
        cases inner with
        | nil =>
          obtain ⟨rfl, rfl⟩ := List.cons.inj heq
          exact .inl ⟨rfl, rfl, hp⟩
        | cons first inner =>
          obtain ⟨rfl, rfl⟩ := List.cons.inj heq
          exact .inr ⟨inner, rfl, hp⟩
      · rintro (⟨rfl, rfl, hp⟩ | ⟨inner, rfl, hp⟩)
        · exact ⟨[], rfl, hp⟩
        · exact ⟨token :: inner, rfl, hp⟩
    rw [hsplit]
    cases token with
    | opening => simp [closesAtEnd, ih, Parens.balancedFrom]
    | closing =>
      cases depth with
      | zero => simp [closesAtEnd, Parens.balancedFrom]
      | succ depth => simp [closesAtEnd, ih, Parens.balancedFrom]
    | operator _ | word _ | positional | named _ | keywords _ =>
      simp [closesAtEnd, ih, parens_cons, paren?]

/-- **The test for one group** is right. -/
theorem isGroup_iff {tokens : List Token} : isGroup tokens = true ↔ OneGroup tokens := by
  have hinner {rest : List Token} : OneGroup (.opening :: rest) ↔ closesAtEnd 1 rest = true := by
    rw [OneGroup, closesAtEnd_iff]
    simp only [balanced_iff, Parens.balanced, List.cons_append, List.cons.injEq, true_and]
  cases tokens with
  | nil => simp [isGroup, OneGroup]
  | cons token rest =>
    cases token with
    | opening => exact hinner.symm
    | closing | operator _ | word _ | positional | named _ | keywords _ =>
      simp [isGroup, OneGroup]

/-- Whether tokens are one group can be told by a test. -/
instance : DecidablePred OneGroup := fun tokens =>
  decidable_of_iff (isGroup tokens = true) isGroup_iff

/-- One group is balanced. -/
theorem OneGroup.balanced {tokens : List Token} (h : OneGroup tokens) : Balanced tokens := by
  obtain ⟨inner, rfl, hinner⟩ := h
  rw [balanced_iff] at hinner ⊢
  rw [List.cons_append, parens_opening, parens_append]
  exact Parens.balancedFrom_concat_closing hinner

/-- **A list in new parentheses, where it needs them**, is one group if and only if it is
balanced. -/
theorem oneGroup_enclose_iff {tokens : List Token} :
    OneGroup (enclose tokens) ↔ Balanced tokens := by
  rw [enclose]
  split
  next hgroup =>
    have hone := isGroup_iff.1 hgroup
    exact ⟨fun _ => hone.balanced, fun _ => hone⟩
  next =>
    constructor
    · rintro ⟨inner, heq, hinner⟩
      obtain rfl : tokens = inner := by simpa using heq
      exact hinner
    · exact fun h => ⟨tokens, rfl, h⟩

/-! ### Removal of pairs -/

/-- A pair around plain tokens does not show in the balance. -/
theorem balanced_of_dropsPair {s t : List Token} (h : DropsPair s t) : Balanced s ↔ Balanced t := by
  obtain ⟨before, plain, after, -, hplain, -, -⟩ := h
  have hpair (depth : Nat) : Parens.balancedFrom depth ('(' :: ')' :: parens after) =
      Parens.balancedFrom depth (parens after) := by
    simp [Parens.balancedFrom]
  simp only [balanced_iff, parens_append, parens_opening, parens_closing,
    parens_eq_nil_of_plain hplain, List.nil_append, Parens.balanced]
  rw [Parens.balancedFrom_append_congr hpair]

/-- **Removing redundant pairs keeps the balance.** -/
theorem balanced_stripParens (tokens : List Token) :
    Balanced (stripParens tokens).2 ↔ Balanced tokens := by
  have hdrops := drops_stripParens tokens
  generalize (stripParens tokens).2 = stripped at hdrops ⊢
  induction hdrops with
  | refl => exact Iff.rfl
  | tail _ hdrop ih => exact (balanced_of_dropsPair hdrop).symm.trans ih

end Token

end RecordFilter
