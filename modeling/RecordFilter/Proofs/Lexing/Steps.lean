import RecordFilter.Proofs.Lexing.Scanned

/-!
# Scanning step by step

A text can be scanned from left to right without looking for its pieces, with the word that has
begun, the tokens before it and the rest of the text at hand. A step is over one more character of a
word, or it ends the word and is over another piece as a whole. Every step takes something from the
rest, so that there are no more steps than characters, and no step changes what the scan ends with.

* `Scanning`, `Scanning.step?` — a scan that is under way, and its next step.
* `Scanning.step?_cases` — all that a step can be over.
* `Scanning.exists_taken_of_step?` — **every step takes something from the rest.**
* `Scanning.outcome`, `Scanning.outcome_of_step?_eq_some` — what a scan ends with, which no step
  changes.
* `Scanning.Yields`, `Scanning.yields_iff` — **every scan ends, and with this result only.**
-/

namespace RecordFilter

/-- **A scan that is under way.** -/
structure Scanning where
  /-- The word that has begun, if any. -/
  word : List Char
  /-- The tokens before it. -/
  tokens : List Token
  /-- What is left of the text. -/
  rest : List Char

namespace Scanning

/-! ## Steps -/

/-- The scan of a text before its first step. -/
def start (query : String) : Scanning := ⟨[], [], query.toList⟩

/-- The tokens, with that of the word that has begun. -/
def close (ops : Operators) (s : Scanning) : Except Error (List Token) :=
  if s.word = [] then .ok s.tokens
  else (Piece.wordToken ops (String.ofList s.word)).map fun token => s.tokens ++ [token]

/-- The word has ended, and one more token at most comes before the rest. -/
def emit (ops : Operators) (s : Scanning) (token : Option Token) (rest : List Char) :
    Except Error Scanning :=
  (s.close ops).map fun tokens => ⟨[], tokens ++ token.toList, rest⟩

/-- The token of a keyword segment, unless it has no entries. -/
def keywords? (body : List Char) : Option Token :=
  match KeywordPair.ofSegment body with
  | [] => none
  | pairs => some (.keywords pairs)

/-- A step over a backtick that `rest` follows: over its run, the text up to the next backtick and
the run of that. -/
def overBacktick (ops : Operators) (query : String) (s : Scanning) (rest : List Char) :
    Except Error Scanning :=
  let inside := rest.dropWhile (· == '`')
  let closing := inside.dropWhile (· != '`')
  if closing = [] then (s.close ops).bind fun _ => .error (.oddBackticks query)
  else s.emit ops (keywords? (inside.takeWhile (· != '`'))) (closing.dropWhile (· == '`'))

/-- **The next step**, which may fail, unless the text is at its end. -/
def step? (ops : Operators) (query : String) (s : Scanning) : Option (Except Error Scanning) :=
  match s.rest with
  | [] => none
  | c :: rest =>
    if Text.isWhitespace c then some (s.emit ops none rest)
    else if c = '(' then some (s.emit ops (some .opening) rest)
    else if c = ')' then some (s.emit ops (some .closing) rest)
    else if c = '`' then some (s.overBacktick ops query rest)
    else
      match ops.symbolAt? (c :: rest) with
      | some (literal, combinator) =>
        some (s.emit ops (some (.operator combinator)) ((c :: rest).drop literal.length))
      | none => some (.ok ⟨s.word ++ [c], s.tokens, rest⟩)

variable {ops : Operators} {query : String} {s s' : Scanning}

/-- Where no word is begun, there is nothing to close. -/
theorem close_of_word_eq_nil (h : s.word = []) : s.close ops = .ok s.tokens := if_pos h

/-- A word that is begun becomes one more token when it is closed. -/
theorem close_of_word_ne_nil (h : s.word ≠ []) :
    s.close ops =
      (Piece.wordToken ops (String.ofList s.word)).map fun token => s.tokens ++ [token] :=
  if_neg h

/-- There is no step exactly at the end of the text. -/
theorem step?_eq_none_iff : s.step? ops query = none ↔ s.rest = [] := by
  unfold step?
  split
  next h => simp [h]
  next c rest h =>
    rw [h]
    repeat' split
    all_goals simp

/-! ## What a step is over -/

/-- Where a scan is once it is past a piece that is no word. -/
def past (ops : Operators) (query : String) (s : Scanning) (piece : Piece) (rest : List Char) :
    Except Error Scanning :=
  (s.close ops).bind fun tokens =>
    (piece.token? ops query).map fun token => ⟨[], tokens ++ token.toList, rest⟩

/-- Emitting the token of a piece is what a piece does. -/
theorem emit_eq_past {piece : Piece} {token : Option Token} (h : piece.token? ops query = .ok token)
    (rest : List Char) : s.emit ops token rest = s.past ops query piece rest := by
  rw [emit, past, h]
  cases s.close ops <;> rfl

/-- What follows a piece is left when it is passed. -/
theorem rest_of_past {piece : Piece} {rest : List Char}
    (h : s.past ops query piece rest = .ok s') : s'.rest = rest := by
  unfold past at h
  obtain ⟨tokens, -, h⟩ := exists_of_bind_eq_ok h
  cases htoken : piece.token? ops query with
  | error e =>
    rw [htoken] at h
    cases h
  | ok token =>
    rw [htoken] at h
    cases h
    rfl

/-- A segment stands for its keywords. -/
theorem token?_segment (before : Nat) (body : List Char) (after : Nat) :
    (Piece.segment before body after).token? ops query = .ok (keywords? body) := by
  rw [Piece.token?, keywords?]
  cases KeywordPair.ofSegment body <;> rfl

/-- Over backticks that enclose a text the scanner passes a segment. -/
theorem overBacktick_segment {before : Nat} {body : List Char} {after : Nat} {rest : List Char}
    (hne : body ≠ []) (hbody : '`' ∉ body) (hrest : rest.head? ≠ some '`') :
    s.overBacktick ops query
        (List.replicate before '`' ++ (body ++ '`' :: (List.replicate after '`' ++ rest))) =
      s.past ops query (.segment before body after) rest := by
  have hhead := Text.head?_append_ne hne hbody ('`' :: (List.replicate after '`' ++ rest))
  have hclosing : ('`' :: (List.replicate after '`' ++ rest)).dropWhile (· == '`') = rest := by
    rw [List.dropWhile_cons_of_pos (by simp), Text.dropWhile_run after hrest]
  simp only [overBacktick, Text.dropWhile_run before hhead, Text.dropWhile_until hbody,
    Text.takeWhile_until hbody, hclosing, if_neg (List.cons_ne_nil _ _)]
  exact emit_eq_past (token?_segment before body after) rest

/-- Over backticks that enclose nothing the scanner passes what is left. -/
theorem overBacktick_unclosed {before : Nat} {body : List Char} (hbody : '`' ∉ body) :
    s.overBacktick ops query (List.replicate before '`' ++ body) =
      s.past ops query (.unclosed before body) [] := by
  have hhead : body.head? ≠ some '`' := fun h => hbody (List.mem_of_mem_head? h)
  simp only [overBacktick, Text.dropWhile_run before hhead, Text.dropWhile_of_not_mem hbody, if_pos]
  rfl

/-- **A step over a piece that is no word.** -/
theorem step?_of_fits {piece : Piece} {rest : List Char} (h : piece.Fits ops rest)
    (hword : ∀ text, piece ≠ .word text) (hrest : s.rest = piece.text ++ rest) :
    s.step? ops query = some (s.past ops query piece rest) := by
  cases h with
  | blank hspace =>
    simp only [step?, hrest, Piece.text, List.cons_append, List.nil_append, hspace, if_true]
    exact congrArg some (emit_eq_past rfl rest)
  | opening =>
    simp only [step?, hrest, Piece.text, List.cons_append, List.nil_append, if_true,
      show Text.isWhitespace '(' = false by decide]
    exact congrArg some (emit_eq_past rfl rest)
  | closing =>
    simp only [step?, hrest, Piece.text, List.cons_append, List.nil_append, if_true,
      show Text.isWhitespace ')' = false by decide]
    exact congrArg some (emit_eq_past rfl rest)
  | @segment before body after _ hne hbody hafter =>
    have hsplit : s.rest = '`' ::
        (List.replicate before '`' ++ (body ++ '`' :: (List.replicate after '`' ++ rest))) := by
      simpa [Piece.text, List.replicate_succ] using hrest
    rw [← overBacktick_segment hne hbody hafter, step?, hsplit]
    rfl
  | @unclosed before body hbody =>
    have hsplit : s.rest = '`' :: (List.replicate before '`' ++ body) := by
      simpa [Piece.text, List.replicate_succ] using hrest
    rw [← overBacktick_unclosed hbody, step?, hsplit]
    rfl
  | @symbol c cs _ combinator hfirst hsymbol =>
    obtain ⟨hspace, hopen, hclose, htick⟩ := Piece.not_separates_iff.1 hfirst
    have hdrop : (c :: (cs ++ rest)).drop (c :: cs).length = rest := List.drop_left
    simp only [step?, hrest, Piece.text, List.cons_append, hspace, hopen, hclose, htick, if_false,
      hsymbol, hdrop]
    exact congrArg some (emit_eq_past rfl rest)
  | word _ _ _ => exact absurd rfl (hword _)

/-- **A step over a character of a word.** -/
theorem step?_of_endsWord {c : Char} {rest : List Char} (hrest : s.rest = c :: rest)
    (h : Piece.endsWord ops (c :: rest) = false) :
    s.step? ops query = some (.ok ⟨s.word ++ [c], s.tokens, rest⟩) := by
  obtain ⟨hfree, hsymbol⟩ := Piece.endsWord_cons_eq_false_iff.1 h
  obtain ⟨hspace, hopen, hclose, htick⟩ := Piece.not_separates_iff.1 hfree
  simp [step?, hrest, hspace, hopen, hclose, htick, hsymbol]

/-- **All that a step can be over**: a character of a word, or a piece where no word goes on. -/
theorem step?_cases {next : Except Error Scanning} (h : s.step? ops query = some next) :
    (∃ c rest, s.rest = c :: rest ∧ Piece.endsWord ops (c :: rest) = false ∧
      next = .ok ⟨s.word ++ [c], s.tokens, rest⟩) ∨
    ∃ piece rest, s.rest = piece.text ++ rest ∧ piece.Fits ops rest ∧
      Piece.endsWord ops s.rest = true ∧ next = s.past ops query piece rest := by
  cases hrest : s.rest with
  | nil =>
    rw [step?_eq_none_iff.2 hrest] at h
    cases h
  | cons c cs =>
    cases hends : Piece.endsWord ops (c :: cs) with
    | false =>
      rw [step?_of_endsWord hrest hends] at h
      exact .inl ⟨c, cs, rfl, hends, (Option.some.inj h).symm⟩
    | true =>
      obtain ⟨piece, rest, htext, hfits⟩ := Piece.exists_fits ops c cs
      -- A word would go on over its own first character.
      have hword : ∀ text, piece ≠ .word text := by
        rintro text rfl
        cases hfits with
        | word hne hgoes _ =>
          have hfalse : Piece.endsWord ops (c :: cs) = false := by
            rw [htext]
            exact hgoes text List.suffix_rfl hne
          rw [hends] at hfalse
          cases hfalse
      rw [step?_of_fits hfits hword (hrest.trans htext)] at h
      exact .inr ⟨piece, rest, htext, hfits, rfl, (Option.some.inj h).symm⟩

/-- **Every step takes something from the rest.** -/
theorem exists_taken_of_step? (h : s.step? ops query = some (.ok s')) :
    ∃ taken, taken ≠ [] ∧ s.rest = taken ++ s'.rest := by
  rcases step?_cases h with ⟨c, rest, hrest, -, hnext⟩ | ⟨piece, rest, hrest, hfits, -, hnext⟩
  · cases hnext
    exact ⟨[c], List.cons_ne_nil _ _, hrest⟩
  · rw [rest_of_past hnext.symm]
    exact ⟨piece.text, hfits.text_ne_nil, hrest⟩

/-- Every step takes a character of the text. -/
theorem length_lt_of_step? (h : s.step? ops query = some (.ok s')) :
    s'.rest.length < s.rest.length := by
  obtain ⟨taken, hne, hrest⟩ := exists_taken_of_step? h
  have hpos := List.length_pos_iff.2 hne
  rw [hrest, List.length_append]
  omega

/-! ## What no step changes -/

/-- **What a scan ends with**: the word that has begun goes on as far as it can, and what follows is
cut into pieces. -/
def outcome (ops : Operators) (query : String) (s : Scanning) : Except Error (List Token) :=
  let more := Piece.wordRest ops s.rest
  (close ops ⟨s.word ++ more, s.tokens, s.rest⟩).bind fun tokens =>
    (Piece.tokens ops query (Piece.cut ops (s.rest.drop more.length))).map (tokens ++ ·)

/-- Where a word ends, the outcome is what closing it and cutting the rest give. -/
theorem outcome_of_endsWord (h : Piece.endsWord ops s.rest = true) :
    s.outcome ops query = (s.close ops).bind fun tokens =>
      (Piece.tokens ops query (Piece.cut ops s.rest)).map (tokens ++ ·) := by
  have hmore : Piece.wordRest ops s.rest = [] := by
    cases hrest : s.rest with
    | nil => rfl
    | cons c cs => rw [Piece.wordRest, if_pos (hrest ▸ h)]
  simp only [outcome, hmore, List.append_nil, List.length_nil, List.drop_zero]

/-- Where no word has begun, a scan ends with the tokens so far and those of the rest. -/
theorem outcome_of_word_eq_nil (h : s.word = []) :
    s.outcome ops query =
      (Piece.tokens ops query (Piece.cut ops s.rest)).map (s.tokens ++ ·) := by
  cases hends : Piece.endsWord ops s.rest with
  | true =>
    rw [outcome_of_endsWord hends, close_of_word_eq_nil h]
    rfl
  | false =>
    -- The rest begins with a word, which is its first piece.
    obtain ⟨text, rest, hrest, hgoes, hafter⟩ := Piece.exists_wordRest ops s.rest
    have hne : text ≠ [] := by
      rintro rfl
      rw [hrest, List.nil_append, hafter] at hends
      cases hends
    have hcut : Piece.cut ops (text ++ rest) = .word text :: Piece.cut ops rest :=
      Piece.cut_text_append_of_fits (.word hne hgoes hafter)
    have hclose : close ops ⟨text, s.tokens, text ++ rest⟩ = _ := close_of_word_ne_nil hne
    simp only [outcome, h, hrest, Piece.wordRest_append hgoes hafter, List.nil_append,
      List.drop_left, hcut, hclose, Piece.tokens, Piece.token?]
    cases Piece.wordToken ops (String.ofList text) with
    | error e => rfl
    | ok token =>
      cases Piece.tokens ops query (Piece.cut ops rest) with
      | error e => rfl
      | ok tokens => simp [Except.map, Except.bind]

/-- The outcome from the start is that of the scan. -/
theorem outcome_start (ops : Operators) (query : String) :
    (start query).outcome ops query = Token.scan ops query := by
  rw [outcome_of_word_eq_nil rfl, Token.scan]
  cases h : Piece.tokens ops query (Piece.cut ops query.toList) <;> simp [start, h, Except.map]

/-- At the end of the text the tokens are complete. -/
theorem outcome_of_step?_eq_none (h : s.step? ops query = none) :
    s.outcome ops query = s.close ops := by
  have hrest := step?_eq_none_iff.1 h
  rw [outcome_of_endsWord (by rw [hrest]; rfl), hrest, Piece.cut]
  cases s.close ops with
  | error e => rfl
  | ok tokens => simp [Piece.tokens, Except.bind, Except.map]

/-- One more character of a word does not change the outcome. -/
theorem outcome_word {c : Char} {rest : List Char} (hrest : s.rest = c :: rest)
    (h : Piece.endsWord ops (c :: rest) = false) :
    s.outcome ops query = outcome ops query ⟨s.word ++ [c], s.tokens, rest⟩ := by
  have hmore : Piece.wordRest ops (c :: rest) = c :: Piece.wordRest ops rest := by
    rw [Piece.wordRest, if_neg (by simp [h])]
  simp only [outcome, hrest, hmore, List.append_assoc, List.singleton_append, List.length_cons,
    List.drop_succ_cons]
  rfl

/-- Passing a piece does not change the outcome. -/
theorem outcome_past {piece : Piece} {rest : List Char} (hrest : s.rest = piece.text ++ rest)
    (h : piece.Fits ops rest) (hends : Piece.endsWord ops s.rest = true) :
    s.outcome ops query = (s.past ops query piece rest).bind (outcome ops query) := by
  rw [outcome_of_endsWord hends, hrest, Piece.cut_text_append_of_fits h, past, Piece.tokens]
  cases s.close ops with
  | error e => rfl
  | ok tokens =>
    cases piece.token? ops query with
    | error e => rfl
    | ok token =>
      simp only [Except.bind, Except.map, outcome_of_word_eq_nil]
      cases Piece.tokens ops query (Piece.cut ops rest) <;> simp

/-- **A step does not change what a scan ends with.** -/
theorem outcome_of_step?_eq_some {next : Except Error Scanning}
    (h : s.step? ops query = some next) :
    s.outcome ops query = next.bind (outcome ops query) := by
  rcases step?_cases h with ⟨c, rest, hrest, hgoes, rfl⟩ | ⟨piece, rest, hrest, hfits, hends, rfl⟩
  · exact outcome_word hrest hgoes
  · exact outcome_past hrest hfits hends

/-! ## Runs -/

/-- **What a scan yields after a number of steps**, a step that fails among them. -/
inductive Yields (ops : Operators) (query : String) :
    Scanning → Nat → Except Error (List Token) → Prop
  | done {s : Scanning} (h : s.step? ops query = none) : Yields ops query s 0 (s.close ops)
  | failed {s : Scanning} {e : Error} (h : s.step? ops query = some (.error e)) :
      Yields ops query s 1 (.error e)
  | more {s s' : Scanning} {n : Nat} {result : Except Error (List Token)}
      (h : s.step? ops query = some (.ok s')) (hrest : Yields ops query s' n result) :
      Yields ops query s (n + 1) result

variable {n : Nat} {result : Except Error (List Token)}

/-- A run yields the outcome of the state it begins in. -/
theorem Yields.eq_outcome (h : Yields ops query s n result) : result = s.outcome ops query := by
  induction h with
  | done h => rw [outcome_of_step?_eq_none h]
  | failed h =>
    rw [outcome_of_step?_eq_some h]
    rfl
  | more h _ ih =>
    rw [ih, outcome_of_step?_eq_some h]
    rfl

/-- **There are no more steps than characters.** -/
theorem Yields.le_length (h : Yields ops query s n result) : n ≤ s.rest.length := by
  induction h with
  | done _ => exact Nat.zero_le _
  | @failed s e h =>
    refine List.length_pos_iff.2 fun hrest => ?_
    rw [step?_eq_none_iff.2 hrest] at h
    cases h
  | more h _ ih =>
    have hlt := length_lt_of_step? h
    omega

/-- **Every scan ends.** -/
theorem exists_yields (ops : Operators) (query : String) (s : Scanning) :
    ∃ n result, Yields ops query s n result := by
  cases hstep : s.step? ops query with
  | none => exact ⟨0, _, .done hstep⟩
  | some next =>
    cases next with
    | error e => exact ⟨1, _, .failed hstep⟩
    | ok s' =>
      have hlt := length_lt_of_step? hstep
      obtain ⟨n, result, hresult⟩ := exists_yields ops query s'
      exact ⟨n + 1, result, .more hstep hresult⟩
termination_by s.rest.length

/-- **Every scan ends, and with its outcome only.** -/
theorem yields_iff : (∃ n, Yields ops query s n result) ↔ result = s.outcome ops query := by
  constructor
  · rintro ⟨n, h⟩
    exact h.eq_outcome
  · rintro rfl
    obtain ⟨n, result, h⟩ := exists_yields ops query s
    exact ⟨n, h.eq_outcome ▸ h⟩

end Scanning

end RecordFilter
