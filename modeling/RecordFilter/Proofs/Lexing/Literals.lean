import RecordFilter.Proofs.Lexing.Scanned

/-!
# What operator literals stand for

A literal stands for the combinator in whose list it is, whether it is a word or splits words. One
that is in both lists is read in two ways: as a word it goes by the first list, as a symbol by the
second.

* `Operators.literalsOf`, `Operators.Ambiguous` — the list of a combinator, and literals in both.
* `Operators.mem_symbols_iff` — the symbols of a combinator.
* `Operators.exists_split_of_longest?` — the longest entry and those before and after it.
* `Operators.length_le_of_symbolAt?` — what is found at the head of a text is the longest there.
* `Operators.symbolAt?_eq_some_all` — a symbol that is in both lists is taken from the second.
* `Piece.symbol_iff`, `Piece.word_iff` — which symbols and which words are operators.
* `Piece.combinator?_iff_iff`, `Piece.combinator?_of_ambiguous` — when a literal stands for the
  lists that it is in, and what one of both lists stands for.
* `Piece.filterMap_combinator?_tokens` — the operators of a text, in order.
-/

namespace RecordFilter

namespace Operators

variable {ops : Operators}

/-- The literals of a combinator. -/
def literalsOf (ops : Operators) : Combinator → List String
  | .all => ops.all
  | .any => ops.any

/-- **A literal of both combinators.** -/
def Ambiguous (ops : Operators) (literal : String) : Prop :=
  literal ∈ ops.all ∧ literal ∈ ops.any

/-! ## Symbols -/

/-- The symbols are the symbolic literals, each with its combinators. -/
theorem mem_symbols_iff {literal : List Char} {combinator : Combinator} :
    (literal, combinator) ∈ ops.symbols ↔
      String.ofList literal ∈ ops.literalsOf combinator ∧ isSymbolic literal = true := by
  have htext : ∀ op : String, op.toList = literal ↔ op = String.ofList literal := by
    intro op
    constructor
    · rintro rfl
      exact String.ofList_toList.symm
    · rintro rfl
      exact String.toList_ofList
  unfold symbols literals
  cases combinator <;> simp [literalsOf, htext]

/-- **The longest entry**: none before it is longer, and those after it are shorter. -/
theorem exists_split_of_longest? {entries : List (List Char × Combinator)}
    {best : List Char × Combinator} (h : longest? entries = some best) :
    ∃ before after, entries = before ++ best :: after ∧
      (∀ entry ∈ before, entry.1.length ≤ best.1.length) ∧
      ∀ entry ∈ after, entry.1.length < best.1.length := by
  induction entries generalizing best with
  | nil => cases h
  | cons first rest ih =>
    unfold longest? at h
    split at h
    next hrest =>
      rw [longest?_eq_none_iff] at hrest
      obtain rfl := Option.some.inj h
      exact ⟨[], [], by rw [hrest]; rfl, by simp, by simp⟩
    next last hrest =>
      obtain ⟨before, after, rfl, hbefore, hafter⟩ := ih hrest
-- the first entry takes the place of a shorter one that was the best of the rest
      split at h
      next hlt =>
        obtain rfl := Option.some.inj h
        refine ⟨[], _, rfl, by simp, ?_⟩
        intro entry hentry
        rcases List.mem_append.1 hentry with hmem | hmem
        · exact Nat.lt_of_le_of_lt (hbefore entry hmem) hlt
        · rcases List.mem_cons.1 hmem with rfl | hmem
          · exact hlt
          · exact Nat.lt_trans (hafter entry hmem) hlt
      next hle =>
        obtain rfl := Option.some.inj h
        exact ⟨first :: before, after, rfl,
          List.forall_mem_cons.2 ⟨Nat.not_lt.1 hle, hbefore⟩, hafter⟩

/-- **No symbol at the head of a text is longer** than the one that is found there. -/
theorem length_le_of_symbolAt? {input literal : List Char} {combinator : Combinator}
    (h : ops.symbolAt? input = some (literal, combinator)) {entry : List Char × Combinator}
    (hentry : entry ∈ ops.symbols) (hstarts : entry.1 <+: input) :
    entry.1.length ≤ literal.length := by
  obtain ⟨before, after, hsplit, hbefore, hafter⟩ := exists_split_of_longest? h
  have hmem : entry ∈ before ++ (literal, combinator) :: after := by
    rw [← hsplit]
    exact List.mem_filter.2 ⟨hentry, List.isPrefixOf_iff_prefix.2 hstarts⟩
  rcases List.mem_append.1 hmem with hmem | hmem
  · exact hbefore entry hmem
  · rcases List.mem_cons.1 hmem with rfl | hmem
    · exact Nat.le_refl _
    · exact Nat.le_of_lt (hafter entry hmem)

/-- The symbols of the first combinator come first. -/
theorem pairwise_symbols (ops : Operators) :
    ops.symbols.Pairwise fun a b => a.2 = .any → b.2 = .any := by
  unfold symbols literals
  apply List.Pairwise.filter
  refine List.pairwise_append.2 ⟨?_, ?_, ?_⟩
  · apply List.pairwise_map.2
    apply List.pairwise_of_forall
    intro a b hany
    cases hany
  · apply List.pairwise_map.2
    apply List.pairwise_of_forall
    intro a b _
    rfl
  · intro a _ b hb _
    obtain ⟨op, -, rfl⟩ := List.mem_map.1 hb
    rfl

/-- **A symbol of the first combinator is none of the second**: of two entries that are equally long
the later one is taken. -/
theorem symbolAt?_eq_some_all {input literal : List Char}
    (h : ops.symbolAt? input = some (literal, .all)) :
    String.ofList literal ∈ ops.all ∧ String.ofList literal ∉ ops.any := by
  obtain ⟨hsymbol, hprefix, -⟩ := symbolAt?_eq_some h
  obtain ⟨hall, hsymbolic⟩ := mem_symbols_iff.1 hsymbol
  refine ⟨hall, fun hany => ?_⟩
  obtain ⟨before, after, hsplit, -, hafter⟩ := exists_split_of_longest? h
  have hentry : (literal, Combinator.any) ∈ before ++ (literal, .all) :: after := by
    rw [← hsplit]
    refine List.mem_filter.2 ⟨mem_symbols_iff.2 ⟨hany, hsymbolic⟩, ?_⟩
    exact List.isPrefixOf_iff_prefix.2 hprefix
  have hordered := ops.pairwise_symbols.filter fun entry => entry.1.isPrefixOf input
  rw [hsplit] at hordered
  -- no entry of the second combinator is before one of the first, and those after it are shorter
  rcases List.mem_append.1 hentry with hmem | hmem
  · have hlater := (List.pairwise_append.1 hordered).2.2 _ hmem _ List.mem_cons_self rfl
    cases hlater
  · rcases List.mem_cons.1 hmem with heq | hmem
    · cases heq
    · exact absurd (hafter _ hmem) (Nat.lt_irrefl _)

end Operators

/-! ## Words and symbols of a text -/

/-- The combinator of an operator. -/
def Token.combinator? : Token → Option Combinator
  | .operator combinator => some combinator
  | _ => none

namespace Piece

variable {ops : Operators} {query : String}

/-- **A piece that can be a literal**: a symbol or a word. -/
def isLexeme : Piece → Bool
  | .symbol _ _ | .word _ => true
  | _ => false

/-- The text of a piece. -/
def literal (piece : Piece) : String := String.ofList piece.text

/-- A symbol among the pieces of a text is the one that stands at its place. -/
theorem exists_symbolAt?_of_mem_cut {input symbol : List Char} {combinator : Combinator}
    (h : Piece.symbol symbol combinator ∈ cut ops input) :
    ∃ rest, ops.symbolAt? rest = some (symbol, combinator) := by
  obtain ⟨rest, hfits⟩ := exists_fits_of_mem_cut h
  cases hfits with
  | symbol _ hsymbol => exact ⟨_, hsymbol⟩

/-- **A symbol stands for the second combinator if it is in its list**, and else for the first. -/
theorem symbol_iff (query : String) {input symbol : List Char} {combinator : Combinator}
    (h : Piece.symbol symbol combinator ∈ cut ops input) :
    ((Piece.symbol symbol combinator).token? ops query = .ok (some (.operator .all)) ↔
      String.ofList symbol ∈ ops.all ∧ String.ofList symbol ∉ ops.any) ∧
    ((Piece.symbol symbol combinator).token? ops query = .ok (some (.operator .any)) ↔
      String.ofList symbol ∈ ops.any) := by
  obtain ⟨rest, hrest⟩ := exists_symbolAt?_of_mem_cut h
  cases combinator with
  | all =>
    obtain ⟨hall, hany⟩ := Operators.symbolAt?_eq_some_all hrest
    simp [token?, hall, hany]
  | any =>
    have hany := (Operators.mem_symbols_iff.1 (Operators.symbolAt?_eq_some hrest).1).1
    change String.ofList symbol ∈ ops.any at hany
    simp [token?, hany]

/-- A literal that is one word is made of name characters: others split words. -/
theorem IsWord.isNameChar_of_mem {text : List Char} (h : IsWord ops text)
    {combinator : Combinator} (hliteral : String.ofList text ∈ ops.literalsOf combinator) :
    text.all Text.isNameChar = true := by
  by_contra hname
  have hsymbol : (text, combinator) ∈ ops.symbols := by
    refine Operators.mem_symbols_iff.2 ⟨hliteral, ?_⟩
    simpa [Operators.isSymbolic] using hname
  exact (isWord_iff.1 h).2.2 _ hsymbol List.infix_rfl

/-- **A word is an operator if and only if it is a literal.** -/
theorem IsWord.wordToken_eq_operator_iff {word : String} (h : IsWord ops word.toList)
    {combinator : Combinator} :
    wordToken ops word = .ok (.operator combinator) ↔
      ops.classify word = some combinator := by
  rw [wordToken_eq_ok_iff]
  constructor
  · intro hreads
    cases hreads with
    | operator _ hclassify => exact hclassify
  · intro hclassify
    have hliteral : String.ofList word.toList ∈ ops.literalsOf combinator := by
      rw [String.ofList_toList]
      cases combinator with
      | all => exact Operators.classify_eq_all_iff.1 hclassify
      | any => exact (Operators.classify_eq_any_iff.1 hclassify).1
    exact .operator (Marker.unmarked_of_isNameChar (h.isNameChar_of_mem hliteral)) hclassify

/-- **A word stands for the first combinator if it is in its list**, and else for the second if it
is in that. -/
theorem word_iff (query : String) {text : List Char} (h : IsWord ops text) :
    ((Piece.word text).token? ops query = .ok (some (.operator .all)) ↔
      String.ofList text ∈ ops.all) ∧
    ((Piece.word text).token? ops query = .ok (some (.operator .any)) ↔
      String.ofList text ∈ ops.any ∧ String.ofList text ∉ ops.all) := by
  have hword : IsWord ops (String.ofList text).toList := by rwa [String.toList_ofList]
  have htoken (combinator : Combinator) :
      (Piece.word text).token? ops query = .ok (some (.operator combinator)) ↔
        ops.classify (String.ofList text) = some combinator := by
    rw [token?_word_eq_ok_iff, ← hword.wordToken_eq_operator_iff]
    simp
  rw [htoken, htoken, Operators.classify_eq_all_iff, Operators.classify_eq_any_iff]
  exact ⟨Iff.rfl, Iff.rfl⟩

/-! ## Combinators of pieces -/

/-- **The combinator that a piece stands for**, if it is an operator. -/
def combinator? (ops : Operators) (query : String) (piece : Piece) : Option Combinator :=
  match piece.token? ops query with
  | .ok (some (.operator combinator)) => some combinator
  | _ => none

/-- A piece is read as a combinator exactly if its token is that operator. -/
theorem combinator?_eq_some_iff {piece : Piece} {combinator : Combinator} :
    piece.combinator? ops query = some combinator ↔
      piece.token? ops query = .ok (some (.operator combinator)) := by
  unfold combinator?
  split
  next found heq => simp [heq]
  next hne =>
    constructor
    · intro h
      cases h
    · intro h
      exact absurd h (hne combinator)

/-- **A literal of one list stands for its combinator**, as a word and as a symbol. -/
theorem combinator?_iff {input : List Char} {piece : Piece} (h : piece ∈ cut ops input)
    (hlexeme : piece.isLexeme = true) (hone : ¬ ops.Ambiguous piece.literal)
    (combinator : Combinator) :
    piece.combinator? ops query = some combinator ↔
      piece.literal ∈ ops.literalsOf combinator := by
  rw [combinator?_eq_some_iff]
  cases fromText_of_mem_cut h with
  | blank _ | opening | closing | segment _ _ _ | unclosed _ _ => cases hlexeme
  | symbol _ =>
    obtain ⟨hall, hany⟩ := symbol_iff query h
    cases combinator with
    | all =>
      rw [hall]
      exact and_iff_left_of_imp fun hmem hboth => hone ⟨hmem, hboth⟩
    | any => exact hany
  | word hword =>
    obtain ⟨hall, hany⟩ := word_iff query hword
    cases combinator with
    | all => exact hall
    | any =>
      rw [hany]
      exact and_iff_left_of_imp fun hmem hboth => hone ⟨hboth, hmem⟩

/-- **A literal of both lists is read in two ways**: a symbol stands for the second combinator, a
word for the first. -/
theorem combinator?_of_ambiguous {input : List Char} {piece : Piece} (h : piece ∈ cut ops input)
    (hlexeme : piece.isLexeme = true) (hboth : ops.Ambiguous piece.literal) :
    piece.combinator? ops query =
      some (if Operators.isSymbolic piece.text then .any else .all) := by
  rw [combinator?_eq_some_iff]
  cases fromText_of_mem_cut h with
  | blank _ | opening | closing | segment _ _ _ | unclosed _ _ => cases hlexeme
  | symbol hsymbol =>
    have htoken := (symbol_iff query h).2.2 hboth.2
    rwa [if_pos]
    exact (Operators.mem_symbols_iff.1 hsymbol).2
  | word hword =>
    have htoken := (word_iff query hword).1.2 hboth.1
    have hnames := hword.isNameChar_of_mem
      (show _ ∈ ops.literalsOf .all from hboth.1)
    rwa [if_neg]
    simpa [Operators.isSymbolic, text] using hnames

/-- **A word or a symbol stands for the lists that it is in if and only if these are not both.** -/
theorem combinator?_iff_iff {input : List Char} {piece : Piece} (h : piece ∈ cut ops input)
    (hlexeme : piece.isLexeme = true) :
    (∀ combinator, piece.combinator? ops query = some combinator ↔
      piece.literal ∈ ops.literalsOf combinator) ↔ ¬ ops.Ambiguous piece.literal := by
  constructor
  · intro hlists hboth
    have hall := (hlists .all).2 hboth.1
    have hany := (hlists .any).2 hboth.2
    rw [hall] at hany
    cases hany
  · intro hone combinator
    exact combinator?_iff h hlexeme hone combinator

/-- **Operators are literals**: only words and symbols are, and they are in the list of the
combinator. -/
theorem literal_mem_of_combinator? {input : List Char} {piece : Piece} (h : piece ∈ cut ops input)
    {combinator : Combinator} (hfound : piece.combinator? ops query = some combinator) :
    piece.isLexeme = true ∧ piece.literal ∈ ops.literalsOf combinator := by
  have htoken := combinator?_eq_some_iff.1 hfound
  cases fromText_of_mem_cut h with
  | blank _ | opening | closing | unclosed _ _ => cases htoken
  | segment _ _ _ => cases token?_eq_ok_iff.1 htoken
  | symbol hsymbol =>
    cases htoken
    exact ⟨rfl, (Operators.mem_symbols_iff.1 hsymbol).1⟩
  | word hword =>
    refine ⟨rfl, ?_⟩
    cases combinator with
    | all => exact (word_iff query hword).1.1 htoken
    | any => exact ((word_iff query hword).2.1 htoken).1

/-- **The operators among the tokens of a text** are those of its pieces. -/
theorem filterMap_combinator?_tokens {pieces : List Piece} {tokens : List Token}
    (h : Piece.tokens ops query pieces = .ok tokens) :
    tokens.filterMap Token.combinator? = pieces.filterMap (combinator? ops query) := by
  induction pieces generalizing tokens with
  | nil =>
    obtain rfl := Except.ok.inj h
    rfl
  | cons piece pieces ih =>
    obtain ⟨token?, rest, hpiece, hrest, rfl⟩ := tokens_cons_eq_ok_iff.1 h
    have hfirst : token?.toList.filterMap Token.combinator? =
        (combinator? ops query piece).toList := by
      unfold combinator?
      rw [hpiece]
      rcases token? with _ | token
      · rfl
      · cases token <;> rfl
    rw [List.filterMap_append, hfirst, ih hrest, List.filterMap_cons]
    cases combinator? ops query piece <;> rfl

end Piece

end RecordFilter
