import Mathlib.Data.List.TakeWhile
import RecordFilter.Query.Piece

/-!
# What a text is cut into

The pieces of a text, told by what they look like and by what follows them: a run of backticks goes
on as long as there are backticks, a symbol is as long as a literal can be, and a word ends where
another piece begins.

* `Operators.symbolAt?_eq_none_iff` — no symbolic literal stands at the head of a text.
* `Piece.IsWord`, `Piece.isWord_iff` — texts that are one word.
* `Piece.Fits` — what a piece looks like before the rest of a text.
* `Piece.Munches`, `Piece.munches_iff` — **the pieces of a text are the only ones that make it up
  and each fit before the rest.**
* `Piece.FromText`, `Piece.fromText_of_mem_cut` — what a text can be cut into.
-/

namespace RecordFilter

/-! ## Symbolic literals -/

namespace Operators

variable {ops : Operators}

/-- There is a longest entry unless there are no entries. -/
theorem longest?_eq_none_iff {entries : List (List Char × Combinator)} :
    longest? entries = none ↔ entries = [] := by
  cases entries with
  | nil => simp [longest?]
  | cons entry rest =>
    rw [longest?]
    cases longest? rest with
    | none => simp
    | some best =>
      dsimp only
      split <;> simp

/-- **No symbolic literal stands at the head of a text.** -/
theorem symbolAt?_eq_none_iff {input : List Char} :
    ops.symbolAt? input = none ↔ ∀ entry ∈ ops.symbols, ¬ entry.1 <+: input := by
  rw [symbolAt?, longest?_eq_none_iff, List.filter_eq_nil_iff]
  simp only [List.isPrefixOf_iff_prefix]

/-- A symbolic literal is one of the literals, and not all its characters are name characters. -/
theorem exists_of_mem_symbols {entry : List Char × Combinator}
    (h : entry ∈ ops.symbols) :
    (∃ op ∈ ops.all ++ ops.any, op.toList = entry.1) ∧ isSymbolic entry.1 = true := by
  obtain ⟨hmem, hsymbolic⟩ := List.mem_filter.1 h
  refine ⟨?_, hsymbolic⟩
  rcases List.mem_append.1 hmem with hmem | hmem
  · obtain ⟨op, hop, rfl⟩ := List.mem_map.1 hmem
    exact ⟨op, List.mem_append_left _ hop, rfl⟩
  · obtain ⟨op, hop, rfl⟩ := List.mem_map.1 hmem
    exact ⟨op, List.mem_append_right _ hop, rfl⟩

/-- No symbol is empty. -/
theorem ne_nil_of_mem_symbols {entry : List Char × Combinator} (h : entry ∈ ops.symbols) :
    entry.1 ≠ [] := by
  intro hnil
  have hsymbolic := (exists_of_mem_symbols h).2
  rw [hnil] at hsymbolic
  cases hsymbolic

end Operators

/-! ## Runs of a character -/

namespace Text

/-- A text is a run of a character, which may be empty, and a rest that does not go on with it. -/
theorem exists_run (c : Char) (cs : List Char) :
    ∃ n rest, cs = List.replicate n c ++ rest ∧ rest.head? ≠ some c := by
  induction cs with
  | nil => exact ⟨0, [], rfl, by simp⟩
  | cons d cs ih =>
    by_cases hd : d = c
    · obtain ⟨n, rest, rfl, hrest⟩ := ih
      exact ⟨n + 1, rest, by rw [hd, List.replicate_succ, List.cons_append], hrest⟩
    · exact ⟨0, d :: cs, rfl, by simpa using hd⟩

/-- A run of a character is taken as a whole, up to another character. -/
theorem takeWhile_run {c : Char} {rest : List Char} (n : Nat) (h : rest.head? ≠ some c) :
    (List.replicate n c ++ rest).takeWhile (· == c) = List.replicate n c := by
  rw [List.takeWhile_append_of_pos fun d hd => by simp [List.eq_of_mem_replicate hd]]
  cases rest with
  | nil => rw [List.takeWhile_nil, List.append_nil]
  | cons d rest =>
    rw [List.takeWhile_cons_of_neg (by simpa using h), List.append_nil]

/-- A run of a character is dropped as a whole, up to another character. -/
theorem dropWhile_run {c : Char} {rest : List Char} (n : Nat) (h : rest.head? ≠ some c) :
    (List.replicate n c ++ rest).dropWhile (· == c) = rest := by
  rw [List.dropWhile_append_of_pos fun d hd => by simp [List.eq_of_mem_replicate hd]]
  cases rest with
  | nil => rfl
  | cons d rest => exact List.dropWhile_cons_of_neg (by simpa using h)

/-! ### Up to a character -/

/-- A text that is not empty and has no `c` in it does not begin with `c`, whatever follows. -/
theorem head?_append_ne {c : Char} {cs : List Char} (hne : cs ≠ []) (h : c ∉ cs) (t : List Char) :
    (cs ++ t).head? ≠ some c := by
  obtain ⟨d, cs, rfl⟩ := List.exists_cons_of_ne_nil hne
  simpa using (List.ne_of_not_mem_cons h).symm

/-- What is taken up to a character is all that stands before it. -/
theorem takeWhile_until {c : Char} {cs : List Char} (h : c ∉ cs) (t : List Char) :
    (cs ++ c :: t).takeWhile (· != c) = cs := by
  rw [List.takeWhile_append_of_pos fun d hd => bne_iff_ne.2 (ne_of_mem_of_not_mem hd h),
    List.takeWhile_cons_of_neg (by simp), List.append_nil]

/-- What is dropped up to a character is all that stands before it. -/
theorem dropWhile_until {c : Char} {cs : List Char} (h : c ∉ cs) (t : List Char) :
    (cs ++ c :: t).dropWhile (· != c) = c :: t := by
  rw [List.dropWhile_append_of_pos fun d hd => bne_iff_ne.2 (ne_of_mem_of_not_mem hd h),
    List.dropWhile_cons_of_neg (by simp)]

/-- A text without a character is taken as a whole. -/
theorem takeWhile_of_not_mem {c : Char} {cs : List Char} (h : c ∉ cs) :
    cs.takeWhile (· != c) = cs :=
  List.takeWhile_eq_self_iff.2 fun _ hd => bne_iff_ne.2 (ne_of_mem_of_not_mem hd h)

/-- A text without a character is dropped as a whole. -/
theorem dropWhile_of_not_mem {c : Char} {cs : List Char} (h : c ∉ cs) :
    cs.dropWhile (· != c) = [] :=
  List.dropWhile_eq_nil_iff.2 fun _ hd => bne_iff_ne.2 (ne_of_mem_of_not_mem hd h)

end Text

namespace Piece

variable {ops : Operators}

/-! ## Words -/

/-- **A character that is a piece of its own or starts a segment**, and so separates words. -/
def Separates (c : Char) : Prop :=
  Text.isWhitespace c = true ∨ c = '(' ∨ c = ')' ∨ c = '`'

/-- The four kinds of characters that a word has none of. -/
theorem not_separates_iff {c : Char} :
    ¬ Separates c ↔ Text.isWhitespace c = false ∧ c ≠ '(' ∧ c ≠ ')' ∧ c ≠ '`' := by
  simp [Separates]

/-- **A word goes on** over a character that starts no other piece. -/
theorem endsWord_cons_eq_false_iff {c : Char} {rest : List Char} :
    endsWord ops (c :: rest) = false ↔ ¬ Separates c ∧ ops.symbolAt? (c :: rest) = none := by
  simp [endsWord, Separates, and_assoc]

/-- What a word goes on over does not depend on what follows it. -/
theorem endsWord_of_isPrefix {s t : List Char} (h : endsWord ops t = false) (hst : s <+: t)
    (hs : s ≠ []) : endsWord ops s = false := by
  cases s with
  | nil => exact absurd rfl hs
  | cons c s =>
    obtain ⟨after, rfl⟩ := hst
    rw [List.cons_append, endsWord_cons_eq_false_iff] at h
    refine endsWord_cons_eq_false_iff.2 ⟨h.1, ?_⟩
    have hnone := h.2
    rw [Operators.symbolAt?_eq_none_iff] at hnone ⊢
    intro entry hentry hpre
    exact hnone entry hentry (hpre.trans (List.prefix_append (c :: s) after))

/-- **A text that is one word**: there is something in it, and nothing that ends a word. -/
def IsWord (ops : Operators) (cs : List Char) : Prop :=
  cs ≠ [] ∧ ∀ s, s <:+ cs → s ≠ [] → endsWord ops s = false

/-- **A text is one word** if it is not empty, no character of it separates and no symbolic literal
is a part of it. -/
theorem isWord_iff {cs : List Char} :
    IsWord ops cs ↔
      cs ≠ [] ∧ (∀ c ∈ cs, ¬ Separates c) ∧ ∀ entry ∈ ops.symbols, ¬ entry.1 <:+: cs := by
  refine and_congr_right fun _ => ⟨fun hgoes => ⟨?_, ?_⟩, fun ⟨hfree, hnone⟩ => ?_⟩
  · intro c hc
    obtain ⟨before, after, rfl⟩ := List.append_of_mem hc
    have hends := hgoes (c :: after) (List.suffix_append before _) (List.cons_ne_nil _ _)
    exact (endsWord_cons_eq_false_iff.1 hends).1
  · intro entry hentry hpart
    obtain ⟨s, hpre, hsuffix⟩ := List.infix_iff_prefix_suffix.1 hpart
    obtain ⟨c, rest, hs⟩ := List.exists_cons_of_ne_nil
      (hpre.ne_nil (Operators.ne_nil_of_mem_symbols hentry))
    have hends := hgoes s hsuffix (by simp [hs])
    rw [hs] at hends hpre
    exact Operators.symbolAt?_eq_none_iff.1 (endsWord_cons_eq_false_iff.1 hends).2 entry hentry hpre
  · intro s hs hne
    obtain ⟨c, rest, rfl⟩ := List.exists_cons_of_ne_nil hne
    refine endsWord_cons_eq_false_iff.2 ⟨hfree c (hs.subset List.mem_cons_self), ?_⟩
    rw [Operators.symbolAt?_eq_none_iff]
    intro entry hentry hpre
    exact hnone entry hentry (hpre.isInfix.trans hs.isInfix)

/-- A part of a word at its end is a word. -/
theorem IsWord.of_isSuffix {s cs : List Char} (h : IsWord ops cs) (hs : s <:+ cs) (hne : s ≠ []) :
    IsWord ops s :=
  ⟨hne, fun t ht => h.2 t (ht.trans hs)⟩

/-- The characters of a word are none that separates. -/
theorem IsWord.ne_of_mem {cs : List Char} (h : IsWord ops cs) {c : Char} (hc : c ∈ cs) :
    Text.isWhitespace c = false ∧ c ≠ '(' ∧ c ≠ ')' ∧ c ≠ '`' :=
  not_separates_iff.1 ((isWord_iff.1 h).2.1 c hc)

/-! ## Pieces before the rest of a text -/

/-- **What a piece looks like before the rest of a text.** -/
inductive Fits (ops : Operators) : Piece → List Char → Prop
  | blank {c : Char} {rest : List Char} (hspace : Text.isWhitespace c = true) :
      Fits ops (.blank c) rest
  | opening {rest : List Char} : Fits ops .opening rest
  | closing {rest : List Char} : Fits ops .closing rest
  /-- Both runs of backticks are as long as possible. -/
  | segment {before : Nat} {body : List Char} {after : Nat} {rest : List Char}
      (hne : body ≠ []) (hbody : '`' ∉ body) (hrest : rest.head? ≠ some '`') :
      Fits ops (.segment before body after) rest
  | unclosed {before : Nat} {body : List Char} (hbody : '`' ∉ body) :
      Fits ops (.unclosed before body) []
  | symbol {c : Char} {cs rest : List Char} {combinator : Combinator} (hfirst : ¬ Separates c)
      (hsymbol : ops.symbolAt? (c :: (cs ++ rest)) = some (c :: cs, combinator)) :
      Fits ops (.symbol (c :: cs) combinator) rest
  /-- The word goes on over all its characters and ends before the rest. -/
  | word {text rest : List Char} (hne : text ≠ [])
      (hgoes : ∀ s, s <:+ text → s ≠ [] → endsWord ops (s ++ rest) = false)
      (hends : endsWord ops rest = true) : Fits ops (.word text) rest

/-- A piece that fits is not empty. -/
theorem Fits.text_ne_nil {piece : Piece} {rest : List Char} (h : piece.Fits ops rest) :
    piece.text ≠ [] := by
  cases h with
  | blank _ | opening | closing | symbol _ _ => exact List.cons_ne_nil _ _
  | segment _ _ _ | unclosed _ => simp [text, List.replicate_succ]
  | word hne _ _ => exact hne

/-! ### Keyword segments -/

/-- Backticks and a text without any are an open segment. -/
theorem segmentAt_unclosed {before : Nat} {body : List Char} (hbody : '`' ∉ body) :
    segmentAt (List.replicate before '`' ++ body) = .unclosed before body := by
  have hhead : body.head? ≠ some '`' := fun h => hbody (List.mem_of_mem_head? h)
  simp only [segmentAt, backticks, Text.takeWhile_run before hhead, Text.dropWhile_run before hhead,
    Text.takeWhile_of_not_mem hbody, Text.dropWhile_of_not_mem hbody, List.length_replicate]

/-- A text between two runs of backticks is a segment. -/
theorem segmentAt_segment {before after : Nat} {body rest : List Char} (hne : body ≠ [])
    (hbody : '`' ∉ body) (hrest : rest.head? ≠ some '`') :
    segmentAt (List.replicate before '`' ++ (body ++ '`' :: (List.replicate after '`' ++ rest))) =
      .segment before body after := by
  have hhead := Text.head?_append_ne hne hbody ('`' :: (List.replicate after '`' ++ rest))
  simp only [segmentAt, backticks, Text.takeWhile_run before hhead, Text.dropWhile_run before hhead,
    Text.takeWhile_until hbody, Text.dropWhile_until hbody, Text.takeWhile_run after hrest,
    List.length_replicate]

/-- **A backtick starts a segment**, which may be left open. -/
theorem exists_segment (rest : List Char) :
    ∃ (piece : Piece) (after : List Char),
      '`' :: rest = piece.text ++ after ∧ piece.Fits ops after := by
  obtain ⟨before, inside, rfl, hinside⟩ := Text.exists_run '`' rest
  by_cases htick : '`' ∈ inside
  · obtain ⟨body, t, rfl, hbody⟩ := List.eq_append_cons_of_mem htick
    obtain ⟨after, rest, rfl, hrest⟩ := Text.exists_run '`' t
    have hne : body ≠ [] := by
      rintro rfl
      exact hinside rfl
    refine ⟨.segment before body after, rest, ?_, .segment hne hbody hrest⟩
    simp [text, List.replicate_succ]
  · refine ⟨.unclosed before inside, [], ?_, .unclosed htick⟩
    simp [text, List.replicate_succ]

/-! ### Words -/

/-- A word is read up to where it ends. -/
theorem wordRest_append {text rest : List Char}
    (hgoes : ∀ s, s <:+ text → s ≠ [] → endsWord ops (s ++ rest) = false)
    (hends : endsWord ops rest = true) : wordRest ops (text ++ rest) = text := by
  induction text with
  | nil =>
    cases rest with
    | nil => rfl
    | cons c rest => rw [List.nil_append, wordRest, if_pos hends]
  | cons c text ih =>
    have hfirst : endsWord ops (c :: (text ++ rest)) = false :=
      hgoes (c :: text) List.suffix_rfl (List.cons_ne_nil _ _)
    have htext := ih fun s hs => hgoes s (hs.trans (List.suffix_cons c text))
    rw [List.cons_append, wordRest, if_neg (by simp [hfirst]), htext]

/-- **A word that has begun goes on** up to where another piece begins. -/
theorem exists_wordRest (ops : Operators) (cs : List Char) :
    ∃ text rest, cs = text ++ rest ∧
      (∀ s, s <:+ text → s ≠ [] → endsWord ops (s ++ rest) = false) ∧
      endsWord ops rest = true := by
  induction cs with
  | nil => exact ⟨[], [], rfl, fun s hs hne => absurd (List.suffix_nil.1 hs) hne, rfl⟩
  | cons c cs ih =>
    cases hc : endsWord ops (c :: cs) with
    | true => exact ⟨[], c :: cs, rfl, fun s hs hne => absurd (List.suffix_nil.1 hs) hne, hc⟩
    | false =>
      obtain ⟨text, rest, rfl, hgoes, hends⟩ := ih
      refine ⟨c :: text, rest, rfl, fun s hs hne => ?_, hends⟩
      rcases List.suffix_cons_iff.1 hs with rfl | hs
      · exact hc
      · exact hgoes s hs hne

/-! ### The head piece -/

/-- **Some piece fits at the head of a text.** -/
theorem exists_fits (ops : Operators) (c : Char) (cs : List Char) :
    ∃ (piece : Piece) (rest : List Char), c :: cs = piece.text ++ rest ∧ piece.Fits ops rest := by
  by_cases hc : Separates c
  · rcases hc with hspace | rfl | rfl | rfl
    · exact ⟨.blank c, cs, rfl, .blank hspace⟩
    · exact ⟨.opening, cs, rfl, .opening⟩
    · exact ⟨.closing, cs, rfl, .closing⟩
    · exact exists_segment cs
  · cases hsymbol : ops.symbolAt? (c :: cs) with
    | some found =>
      obtain ⟨literal, combinator⟩ := found
      obtain ⟨-, ⟨rest, hrest⟩, hne⟩ := Operators.symbolAt?_eq_some hsymbol
      obtain ⟨d, literal, rfl⟩ := List.exists_cons_of_ne_nil hne
      obtain ⟨rfl, rfl⟩ := List.cons.inj hrest
      exact ⟨.symbol (d :: literal) combinator, rest, rfl, .symbol hc hsymbol⟩
    | none =>
      have hfirst := endsWord_cons_eq_false_iff.2 ⟨hc, hsymbol⟩
      obtain ⟨text, rest, rfl, hgoes, hends⟩ := exists_wordRest ops cs
      refine ⟨.word (c :: text), rest, rfl, .word (List.cons_ne_nil _ _) (fun s hs hne => ?_) hends⟩
      rcases List.suffix_cons_iff.1 hs with rfl | hs
      · exact hfirst
      · exact hgoes s hs hne

/-- **The piece that fits is the head piece.** -/
theorem Fits.head_eq {piece : Piece} {rest : List Char} (h : piece.Fits ops rest) {c : Char}
    {cs : List Char} (htext : c :: cs = piece.text ++ rest) : head ops c cs = piece := by
  cases h with
  | @blank d _ hspace =>
    obtain ⟨rfl, rfl⟩ := List.cons.inj htext
    simp [head, hspace]
  | opening =>
    obtain ⟨rfl, rfl⟩ := List.cons.inj htext
    simp [head, show Text.isWhitespace '(' = false by decide]
  | closing =>
    obtain ⟨rfl, rfl⟩ := List.cons.inj htext
    simp [head, show Text.isWhitespace ')' = false by decide]
  | @segment before body after _ hne hbody hrest =>
    have hsplit : c = '`' ∧
        cs = List.replicate before '`' ++ (body ++ '`' :: (List.replicate after '`' ++ rest)) := by
      simpa [text, List.replicate_succ] using htext
    obtain ⟨rfl, rfl⟩ := hsplit
    simp [head, show Text.isWhitespace '`' = false by decide, segmentAt_segment hne hbody hrest]
  | @unclosed before body hbody =>
    have hsplit : c = '`' ∧ cs = List.replicate before '`' ++ body := by
      simpa [text, List.replicate_succ] using htext
    obtain ⟨rfl, rfl⟩ := hsplit
    simp [head, show Text.isWhitespace '`' = false by decide, segmentAt_unclosed hbody]
  | symbol hfirst hsymbol =>
    obtain ⟨rfl, rfl⟩ := List.cons.inj htext
    obtain ⟨hspace, hopen, hclose, htick⟩ := not_separates_iff.1 hfirst
    simp [head, hspace, hopen, hclose, htick, hsymbol]
-- a word fits only where nothing else does, and is read as far as it goes on
  | @word text _ hne hgoes hends =>
    obtain ⟨d, text, rfl⟩ := List.exists_cons_of_ne_nil hne
    obtain ⟨rfl, rfl⟩ := List.cons.inj htext
    have hword := wordRest_append (fun s hs => hgoes s (hs.trans (List.suffix_cons c text))) hends
    have hfirst : endsWord ops (c :: (text ++ rest)) = false :=
      hgoes (c :: text) List.suffix_rfl hne
    obtain ⟨hfree, hsymbol⟩ := endsWord_cons_eq_false_iff.1 hfirst
    obtain ⟨hspace, hopen, hclose, htick⟩ := not_separates_iff.1 hfree
    simp [head, hspace, hopen, hclose, htick, hsymbol, hword]

/-! ## All pieces of a text -/

/-- **Pieces that make up a text**, each of which fits before the rest. -/
inductive Munches (ops : Operators) : List Char → List Piece → Prop
  | nil : Munches ops [] []
  | cons {piece : Piece} {rest : List Char} {pieces : List Piece} (hfits : piece.Fits ops rest)
      (hrest : Munches ops rest pieces) : Munches ops (piece.text ++ rest) (piece :: pieces)

/-- A piece that fits is cut off first. -/
theorem cut_text_append_of_fits {piece : Piece} {rest : List Char} (h : piece.Fits ops rest) :
    cut ops (piece.text ++ rest) = piece :: cut ops rest := by
  obtain ⟨c, cs, htext⟩ := List.exists_cons_of_ne_nil
    (List.append_ne_nil_of_left_ne_nil h.text_ne_nil rest)
  rw [htext, cut, h.head_eq htext.symm, ← htext, List.drop_left]

/-- **Cutting is munching**: each piece is the one that fits at its place. -/
theorem munches_cut (ops : Operators) (input : List Char) : Munches ops input (cut ops input) := by
  fun_induction cut ops input with
  | case1 => exact .nil
  | case2 c cs first ih =>
    obtain ⟨piece, rest, htext, hfits⟩ := exists_fits ops c cs
    obtain rfl : first = piece := hfits.head_eq htext
    rw [htext, List.drop_left] at ih ⊢
    exact .cons hfits ih

/-- **The pieces of a text** are the only ones that make it up and each fit before the rest. -/
theorem munches_iff {input : List Char} {pieces : List Piece} :
    Munches ops input pieces ↔ cut ops input = pieces := by
  constructor
  · intro h
    induction h with
    | nil => rw [cut]
    | cons hfits _ ih => rw [cut_text_append_of_fits hfits, ih]
  · rintro rfl
    exact munches_cut ops input

/-- A piece of a munched input fits before some rest. -/
theorem Munches.exists_fits_of_mem {input : List Char} {pieces : List Piece}
    (h : Munches ops input pieces) {piece : Piece} (hpiece : piece ∈ pieces) :
    ∃ rest, piece.Fits ops rest := by
  induction h with
  | nil => cases hpiece
  | cons hfits _ ih =>
    rcases List.mem_cons.1 hpiece with rfl | hpiece
    · exact ⟨_, hfits⟩
    · exact ih hpiece

/-- A piece that a text is cut into fits before some rest. -/
theorem exists_fits_of_mem_cut {input : List Char} {piece : Piece} (h : piece ∈ cut ops input) :
    ∃ rest, piece.Fits ops rest :=
  (munches_cut ops input).exists_fits_of_mem h

/-! ## Pieces without what follows them -/

/-- **What a text can be cut into.** -/
inductive FromText (ops : Operators) : Piece → Prop
  | blank {c : Char} (hspace : Text.isWhitespace c = true) : FromText ops (.blank c)
  | opening : FromText ops .opening
  | closing : FromText ops .closing
  | segment (before : Nat) (body : List Char) (after : Nat) :
      FromText ops (.segment before body after)
  | unclosed (before : Nat) (body : List Char) : FromText ops (.unclosed before body)
  | symbol {literal : List Char} {combinator : Combinator}
      (hsymbol : (literal, combinator) ∈ ops.symbols) : FromText ops (.symbol literal combinator)
  | word {text : List Char} (hword : IsWord ops text) : FromText ops (.word text)

/-- What fits as a word is a word. -/
theorem Fits.isWord {text rest : List Char} (h : (Piece.word text).Fits ops rest) :
    IsWord ops text := by
  cases h with
  | word hne hgoes _ =>
    refine ⟨hne, fun s hs hs' => ?_⟩
    exact endsWord_of_isPrefix (hgoes s hs hs') (List.prefix_append s rest) hs'

/-- What fits anywhere is among what a text can be cut into. -/
theorem Fits.fromText {piece : Piece} {rest : List Char} (h : piece.Fits ops rest) :
    FromText ops piece := by
  cases h with
  | blank hspace => exact .blank hspace
  | opening => exact .opening
  | closing => exact .closing
  | segment _ _ _ => exact .segment _ _ _
  | unclosed _ => exact .unclosed _ _
  | symbol _ hsymbol => exact .symbol (Operators.symbolAt?_eq_some hsymbol).1
  | word hne hgoes hends => exact .word (Fits.word hne hgoes hends).isWord

/-- The pieces that a text is cut into are among those that it can be. -/
theorem fromText_of_mem_cut {input : List Char} {piece : Piece} (h : piece ∈ cut ops input) :
    FromText ops piece := by
  obtain ⟨rest, hfits⟩ := exists_fits_of_mem_cut h
  exact hfits.fromText

end Piece

end RecordFilter
