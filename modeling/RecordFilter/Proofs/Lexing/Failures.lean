import RecordFilter.Proofs.Lexing.Backticks
import RecordFilter.Proofs.Lexing.Steps

/-!
# How scans fail

A scan fails at the first piece that cannot stand for anything: a keyword segment that is left open,
or a word that begins like a named marker and has an ill-formed name. Where the runs of backticks
pair there is no open segment, so that only the words are left.

* `Marker.IllFormed`, `Marker.ofWord?_eq_error_iff` — the words that are refused.
* `Piece.Refused`, `Piece.tokens_eq_error_iff` — **the error of some pieces is that of the first one
  that is refused.**
* `Piece.FirstIllFormed`, `Piece.tokens_eq_error_iff_of_closed` — the same where no segment is left
  open.
* `Normalized.ofQuery_eq_oddBackticks_iff` — the error about backticks comes before a query is cut.
* `Token.scan_ends` — **a scan takes something at every step and so ends**, and where the runs of
  backticks pair it fails for ill-formed markers only.
-/

namespace RecordFilter

/-! ## Words -/

namespace Marker

/-- **A text that begins like a named marker and has an ill-formed name**: there is a colon at its
beginning, and a character that is no letter, digit or underscore after its leading colons. -/
def IllFormed (text : List Char) : Prop :=
  text.head? = some ':' ∧
    ∃ c ∈ text.dropWhile (· == ':'), Text.isAlphanumeric c = false ∧ c ≠ '_'

/-- Whether a word is ill-formed can be told by a test over its own characters. -/
instance (text : List Char) : Decidable (IllFormed text) :=
  @instDecidableAnd _ _ _ (List.decidableBEx _ _)

/-- Colons and a rest that does not go on with them. -/
theorem illFormed_colons_iff {colons : Nat} {name : List Char} (hname : name.head? ≠ some ':') :
    IllFormed (List.replicate colons ':' ++ name) ↔
      colons ≠ 0 ∧ name.all Text.isNameChar = false := by
  have hfirst : (List.replicate colons ':' ++ name).head? = some ':' ↔ colons ≠ 0 := by
    cases colons with
    | zero => simpa using hname
    | succ colons => simp [List.replicate_succ]
  rw [IllFormed, hfirst, Text.dropWhile_run colons hname]
  simp [Text.isNameChar]

/-- **Which words are refused.** -/
theorem ofWord?_eq_error_iff {word : String} {e : Error} :
    ofWord? word = .error e ↔ IllFormed word.toList ∧ e = .invalidMarker word := by
  by_cases hquestion : word = "?"
  · rw [hquestion, ofWord?_question]
    exact iff_of_false (by simp) fun h => absurd h.1.1 (by simp)
  · obtain ⟨colons, name, hword, hname⟩ := Text.exists_run ':' word.toList
    rw [ofWord?_colons hword hname hquestion, hword, illFormed_colons_iff hname]
    split_ifs with hnone hall
    · refine iff_of_false (by simp) ?_
      rintro ⟨⟨hcolons, hill⟩, -⟩
      rcases hnone with hzero | rfl
      · exact hcolons hzero
      · cases hill
    · simp [hall]
    · obtain ⟨hcolons, -⟩ := not_or.1 hnone
      simp [hcolons, hall, eq_comm]

end Marker

/-! ## Pieces -/

namespace Piece

variable {ops : Operators} {query : String} {pieces : List Piece} {e : Error}

/-- **A piece that cannot stand for anything**, and what it is refused with. -/
inductive Refused (query : String) : Piece → Error → Prop
  | unclosed {before : Nat} {body : List Char} :
      Refused query (.unclosed before body) (.oddBackticks query)
  | word {text : List Char} (h : Marker.IllFormed text) :
      Refused query (.word text) (.invalidMarker (String.ofList text))

/-- A word fails as a token exactly if it fails as a marker, with the same error. -/
theorem wordToken_eq_error_iff {word : String} :
    wordToken ops word = .error e ↔ Marker.ofWord? word = .error e := by
  unfold wordToken
  split
  next hmarker => simp [hmarker]
  next hmarker => simp [hmarker]
  next hmarker => simp [hmarker]
  next hmarker =>
    rw [hmarker]
    split <;> simp

/-- A piece fails to stand for a token exactly if it is refused. -/
theorem token?_eq_error_iff {piece : Piece} :
    piece.token? ops query = .error e ↔ piece.Refused query e := by
  constructor
  · intro h
    cases piece with
    | blank _ | opening | closing | symbol _ _ => cases h
    | segment before body after =>
      rw [token?] at h
      split at h <;> cases h
    | unclosed before body =>
      cases h
      exact .unclosed
    | word text =>
      rw [token?] at h
      cases hword : wordToken ops (String.ofList text) with
      | ok token =>
        rw [hword] at h
        cases h
      | error e' =>
        rw [hword] at h
        cases h
        obtain ⟨hill, rfl⟩ := Marker.ofWord?_eq_error_iff.1 (wordToken_eq_error_iff.1 hword)
        rw [String.toList_ofList] at hill
        exact .word hill
  · intro h
    cases h with
    | unclosed => rfl
    | @word text hill =>
      have hmarker : Marker.ofWord? (String.ofList text) = .error (.invalidMarker _) :=
        Marker.ofWord?_eq_error_iff.2 ⟨by rwa [String.toList_ofList], rfl⟩
      rw [token?, wordToken_eq_error_iff.2 hmarker]
      rfl

/-- Pieces fail with the error of the first, or with that of the others if the first has none. -/
theorem tokens_cons_eq_error_iff {piece : Piece} :
    Piece.tokens ops query (piece :: pieces) = .error e ↔
      piece.Refused query e ∨
        (∀ e, ¬ piece.Refused query e) ∧ Piece.tokens ops query pieces = .error e := by
  simp only [← @token?_eq_error_iff ops query]
  rw [Piece.tokens]
  cases piece.token? ops query with
  | error e' => simp
  | ok token =>
    cases Piece.tokens ops query pieces with
    | error e' => simp
    | ok rest => simp

/-- **The error of some pieces is that of the first one that is refused.** -/
theorem tokens_eq_error_iff :
    Piece.tokens ops query pieces = .error e ↔
      ∃ before piece after, pieces = before ++ piece :: after ∧ piece.Refused query e ∧
        ∀ earlier ∈ before, ∀ e, ¬ earlier.Refused query e := by
  induction pieces with
  | nil => simp [Piece.tokens]
  | cons first pieces ih =>
    rw [tokens_cons_eq_error_iff, ih]
    constructor
    · rintro (hrefused | ⟨hfirst, before, piece, after, rfl, hrefused, hbefore⟩)
      · exact ⟨[], first, pieces, rfl, hrefused, by simp⟩
      · exact ⟨first :: before, piece, after, rfl, hrefused,
          List.forall_mem_cons.2 ⟨hfirst, hbefore⟩⟩
    · rintro ⟨before, piece, after, heq, hrefused, hbefore⟩
      cases before with
      | nil =>
        obtain ⟨rfl, rfl⟩ := List.cons.inj heq
        exact .inl hrefused
      | cons earlier before =>
        obtain ⟨rfl, rfl⟩ := List.cons.inj heq
        obtain ⟨hfirst, hbefore⟩ := List.forall_mem_cons.1 hbefore
        exact .inr ⟨hfirst, before, piece, after, rfl, hrefused, hbefore⟩

/-- **Pieces fail if and only if one of them is refused.** -/
theorem exists_tokens_eq_error_iff :
    (∃ e, Piece.tokens ops query pieces = .error e) ↔
      ∃ piece ∈ pieces, ∃ e, piece.Refused query e := by
  induction pieces with
  | nil => simp [Piece.tokens]
  | cons first pieces ih =>
    simp only [tokens_cons_eq_error_iff, exists_or, exists_and_left, ih, List.exists_mem_cons_iff]
    by_cases hfirst : ∃ e, first.Refused query e
    · simp [hfirst]
    · simp [not_exists.1 hfirst]

/-! ## Where no segment is left open -/

/-- **The first word that is an ill-formed marker.** -/
def FirstIllFormed (pieces : List Piece) (text : List Char) : Prop :=
  ∃ before after, pieces = before ++ .word text :: after ∧ Marker.IllFormed text ∧
    ∀ earlier, .word earlier ∈ before → ¬ Marker.IllFormed earlier

/-- A piece that is no open segment is refused for its name. -/
theorem refused_iff_of_isClosed {piece : Piece} (h : piece.isClosed = true) :
    piece.Refused query e ↔
      ∃ text, piece = .word text ∧ Marker.IllFormed text ∧
        e = .invalidMarker (String.ofList text) := by
  constructor
  · rintro (_ | hill)
    · cases h
    · exact ⟨_, rfl, hill, rfl⟩
  · rintro ⟨text, rfl, hill, rfl⟩
    exact .word hill

/-- **Where no segment is left open**, the error of some pieces is that of the first word that is
an ill-formed marker. -/
theorem tokens_eq_error_iff_of_closed (h : ∀ piece ∈ pieces, piece.isClosed = true) :
    Piece.tokens ops query pieces = .error e ↔
      ∃ text, FirstIllFormed pieces text ∧ e = .invalidMarker (String.ofList text) := by
  rw [tokens_eq_error_iff]
  constructor
  · rintro ⟨before, piece, after, rfl, hrefused, hbefore⟩
    obtain ⟨text, rfl, hill, rfl⟩ :=
      (refused_iff_of_isClosed (h piece (by simp))).1 hrefused
    exact ⟨text, ⟨before, after, rfl, hill, fun earlier hearlier hill' =>
      hbefore _ hearlier _ (.word hill')⟩, rfl⟩
  · rintro ⟨text, ⟨before, after, rfl, hill, hbefore⟩, rfl⟩
    refine ⟨before, .word text, after, rfl, .word hill, fun earlier hearlier e hrefused => ?_⟩
    obtain ⟨text', rfl, hill', -⟩ :=
      (refused_iff_of_isClosed (h earlier (List.mem_append_left _ hearlier))).1 hrefused
    exact hbefore text' hearlier hill'

/-- Without open segments, tokens fail exactly where a word is ill-formed. -/
theorem exists_tokens_eq_error_iff_of_closed (h : ∀ piece ∈ pieces, piece.isClosed = true) :
    (∃ e, Piece.tokens ops query pieces = .error e) ↔
      ∃ text, .word text ∈ pieces ∧ Marker.IllFormed text := by
  rw [exists_tokens_eq_error_iff]
  constructor
  · rintro ⟨piece, hpiece, e, hrefused⟩
    obtain ⟨text, rfl, hill, -⟩ := (refused_iff_of_isClosed (h piece hpiece)).1 hrefused
    exact ⟨text, hpiece, hill⟩
  · rintro ⟨text, htext, hill⟩
    exact ⟨_, htext, _, .word hill⟩

end Piece

/-! ## Texts -/

/-- With an even number of backtick runs, the error is that of the first ill-formed word. -/
theorem Token.scan_eq_error_iff_of_even {ops : Operators} {query : String} {e : Error}
    (hops : ops.Without '`') (hruns : Normalized.backtickRuns query.toList % 2 = 0) :
    Token.scan ops query = .error e ↔
      ∃ text, Piece.FirstIllFormed (Piece.cut ops query.toList) text ∧
        e = .invalidMarker (String.ofList text) :=
  Piece.tokens_eq_error_iff_of_closed ((Piece.even_backtickRuns_iff hops).1 hruns)

/-- **The error about backticks comes before a query is cut**, from the count of their runs. -/
theorem Normalized.ofQuery_eq_oddBackticks_iff {ops : Operators} {query shown : String}
    (hops : ops.Without '`') :
    ofQuery ops query = .error (.oddBackticks shown) ↔
      Text.isBlank query = false ∧ Parens.balanced query.toList = true ∧
        backtickRuns query.toList % 2 ≠ 0 ∧ shown = query := by
  cases hblank : Text.isBlank query with
  | true => simp [ofQuery, hblank]
  | false =>
    cases hparens : Parens.balanced query.toList with
    | false => simp [ofQuery, hblank, hparens]
    | true =>
      by_cases hruns : backtickRuns query.toList % 2 = 0
      · cases hscan : Token.scan ops query with
        | error e =>
          obtain ⟨text, -, rfl⟩ := (Token.scan_eq_error_iff_of_even hops hruns).1 hscan
          simp [ofQuery, hblank, hparens, hruns, hscan]
        | ok tokens => cases tokens <;> simp [ofQuery, hblank, hparens, hruns, hscan]
      · simp [ofQuery, hblank, hparens, hruns, eq_comm]

namespace Token

/-- **How a scan ends.** Whatever the literals are, every step takes something from the rest of the
text, so that there are no more steps than characters. The scan ends with the tokens of the text or
with the error that it has instead. If no literal has a backtick in it and the runs of backticks of
the text pair, then this error is never about backticks: it is about the first word that is an
ill-formed marker, and there is an error if and only if there is such a word. -/
theorem scan_ends (ops : Operators) (query : String) :
    (∀ s s' : Scanning, s.step? ops query = some (.ok s') →
      ∃ taken, taken ≠ [] ∧ s.rest = taken ++ s'.rest) ∧
    (∀ n result, Scanning.Yields ops query (.start query) n result → n ≤ query.toList.length) ∧
    (∀ result, (∃ n, Scanning.Yields ops query (.start query) n result) ↔
      result = scan ops query) ∧
    (ops.Without '`' → Normalized.backtickRuns query.toList % 2 = 0 →
      (∀ shown, scan ops query ≠ .error (.oddBackticks shown)) ∧
      (∀ e, scan ops query = .error e ↔
        ∃ text, Piece.FirstIllFormed (Piece.cut ops query.toList) text ∧
          e = .invalidMarker (String.ofList text)) ∧
      ((∃ e, scan ops query = .error e) ↔
        ∃ text, .word text ∈ Piece.cut ops query.toList ∧ Marker.IllFormed text)) := by
  refine ⟨?_, ?_, ?_, ?_⟩
  · intro s s' hstep
    exact Scanning.exists_taken_of_step? hstep
  · intro n result hyields
    exact hyields.le_length
  · intro result
    rw [Scanning.yields_iff, Scanning.outcome_start]
  · intro hops hruns
    refine ⟨?_, fun e => scan_eq_error_iff_of_even hops hruns, ?_⟩
    · intro shown hscan
      obtain ⟨text, -, herror⟩ := (scan_eq_error_iff_of_even hops hruns).1 hscan
      cases herror
    · have hclosed := (Piece.even_backtickRuns_iff hops).1 hruns
      exact Piece.exists_tokens_eq_error_iff_of_closed hclosed

/-- Literals that no configuration may have: empty, with whitespace, twice, or begun by others. -/
def looseOperators : Operators := ⟨["", "and", "&", "a b"], ["&&", "and", " |"]⟩

/-- A text with runs of symbols, runs of backticks and two ill-formed markers. -/
def misnamedText : String := "x&&&a b``k=v`::my-name and ? :n :-"

/-- The case of that text: the first of its two ill-formed markers is the error. -/
theorem scan_ends_sample :
    looseOperators.Without '`' ∧ Normalized.backtickRuns misnamedText.toList % 2 = 0 ∧
      (∃ n ≤ misnamedText.toList.length,
        Scanning.Yields looseOperators misnamedText (.start misnamedText) n
          (.error (.invalidMarker "::my-name"))) ∧
      scan looseOperators misnamedText = .error (.invalidMarker "::my-name") := by
  have hops : looseOperators.Without '`' := by
    simp [Operators.Without, looseOperators]
  have hruns : Normalized.backtickRuns misnamedText.toList % 2 = 0 := by decide +kernel
  obtain ⟨-, hsteps, hyields, hfails⟩ := scan_ends looseOperators misnamedText
  obtain ⟨-, herror, -⟩ := hfails hops hruns
  have hcut : Piece.cut looseOperators misnamedText.toList =
      [.word ['x'], .symbol "&&".toList .any, .symbol ['&'] .all, .symbol "a b".toList .all,
        .segment 1 "k=v".toList 0] ++
      .word "::my-name".toList ::
        [.blank ' ', .word "and".toList, .blank ' ', .word ['?'], .blank ' ', .word ":n".toList,
          .blank ' ', .word ":-".toList] := by
    decide +kernel
  have hfirst : Piece.FirstIllFormed (Piece.cut looseOperators misnamedText.toList)
      "::my-name".toList := by
    refine ⟨_, _, hcut, by decide +kernel, fun earlier hearlier => ?_⟩
    obtain rfl : earlier = ['x'] := by simpa using hearlier
    decide
  have hscan : scan looseOperators misnamedText = .error (.invalidMarker "::my-name") :=
    (herror _).2 ⟨_, hfirst, rfl⟩
  obtain ⟨n, hn⟩ := (hyields _).2 hscan.symm
  exact ⟨hops, hruns, ⟨n, hsteps _ _ hn, hn⟩, hscan⟩

end Token

end RecordFilter
