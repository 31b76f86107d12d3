import RecordFilter.Proofs.Config.Checked
import RecordFilter.Proofs.Lexing.Literals
import RecordFilter.Proofs.Parens.Confluence
import RecordFilter.Proofs.Session.Recomputation

/-!
# Operators of compiled requests

A document whose lists share a literal is no configuration, but a request can replace either list,
and what it puts in place is not compared with the other one. So a literal of a compiled request can
be in both lists, and only then it does not stand for all the lists that it is in.

* `Config.not_ambiguous_of_parse` — the lists of a document share no literal.
* `Token.filterMap_combinator?_stripParens`, `Token.filterMap_combinator?_enclose` — normalizing
  keeps the operators and their order.
* `Session.compiled_operators` — **which operators a compiled request has**.
* `Session.exists_ambiguous_operators` — a request whose lists share a word and a symbol.
-/

namespace RecordFilter

/-! ## Configurations -/

namespace Config

variable {config : Config}

/-- **The lists of a document share no literal.** -/
theorem not_ambiguous_of_parse {text : String} (h : parse text = .ok config) (literal : String) :
    ¬ Operators.Ambiguous ⟨config.andOps, config.orOps⟩ literal := by
  intro hboth
  exact (checked_of_parse h).distinct literal hboth.1 hboth.2

end Config

/-! ## Operators of a token list -/

namespace Token

/-- Operators are among the tokens that no removal takes. -/
theorem filterMap_combinator?_filter_isKept (tokens : List Token) :
    (tokens.filter isKept).filterMap combinator? = tokens.filterMap combinator? := by
  rw [List.filterMap_filter]
  congr 1
  funext token
  cases token <;> rfl

/-- **Removing redundant pairs keeps the operators.** -/
theorem filterMap_combinator?_stripParens (tokens : List Token) :
    (stripParens tokens).2.filterMap combinator? = tokens.filterMap combinator? := by
  have hkept := kept_eq_of_drops (drops_stripParens tokens)
  rw [← filterMap_combinator?_filter_isKept, hkept, filterMap_combinator?_filter_isKept]

/-- An outer group adds no operator. -/
theorem filterMap_combinator?_enclose (tokens : List Token) :
    (enclose tokens).filterMap combinator? = tokens.filterMap combinator? := by
  rw [enclose]
  split
  · rfl
  · simp [List.filterMap_cons, combinator?]

end Token

/-- The operators of a normalized query are those of its text, in order. -/
theorem Normalized.filterMap_combinator?_tokens {ops : Operators} {query : String} {n : Normalized}
    (h : ofQuery ops query = .ok n) :
    n.tokens.filterMap Token.combinator? =
      (Piece.cut ops query.toList).filterMap (Piece.combinator? ops query) := by
  obtain ⟨-, -, -, tokens, hscan, -, rfl⟩ := ofQuery_eq_ok_iff.1 h
  rw [Token.filterMap_combinator?_enclose, Token.filterMap_combinator?_stripParens]
  exact Piece.filterMap_combinator?_tokens hscan

/-! ## Compiled requests -/

namespace Session

variable {registry : Registry} {config : Config} {records : List Json} {request : Request}
  {s : Session}

/-- A request without lists of its own has the lists of the configuration. -/
theorem not_ambiguous_of_parse {text : String} (hconfig : Config.parse text = .ok config)
    (hand : request.options.opAnd = none) (hor : request.options.opOr = none) (literal : String) :
    ¬ (operators config request.options).Ambiguous literal := by
  rw [operators, hand, hor]
  exact Config.not_ambiguous_of_parse hconfig literal

/-- **Which operators a compiled request has**: those of the words and symbols of its text that are
literals, in order. A literal stands for a combinator if and only if it is in its list, unless it is
in both lists: then a symbol stands for "any" and a word for "all". Lists of a configuration share
no literal, so it takes a list of the request for that. -/
theorem compiled_operators {text : String} (hconfig : Config.parse text = .ok config)
    (h : compile registry config records request = .ok s) :
    let ops := operators config request.options
    let pieces := Piece.cut ops request.query.toList
    (request.options.opAnd = none → request.options.opOr = none →
      ∀ literal, ¬ ops.Ambiguous literal) ∧
    s.normalized.tokens.filterMap Token.combinator? =
      pieces.filterMap (Piece.combinator? ops request.query) ∧
    (∀ piece ∈ pieces, ∀ combinator, piece.combinator? ops request.query = some combinator →
      piece.isLexeme = true ∧ piece.literal ∈ ops.literalsOf combinator) ∧
    ∀ piece ∈ pieces, piece.isLexeme = true →
      ((∀ combinator, piece.combinator? ops request.query = some combinator ↔
        piece.literal ∈ ops.literalsOf combinator) ↔ ¬ ops.Ambiguous piece.literal) ∧
      (ops.Ambiguous piece.literal → piece.combinator? ops request.query =
        some (if Operators.isSymbolic piece.text then .any else .all)) := by
  intro ops pieces
  refine ⟨?_, ?_, ?_, ?_⟩
  · intro hand hor literal
    exact not_ambiguous_of_parse hconfig hand hor literal
  · exact Normalized.filterMap_combinator?_tokens (compile_eq_ok h).2.1
  · intro piece hpiece combinator hfound
    exact Piece.literal_mem_of_combinator? hpiece hfound
  · intro piece hpiece hlexeme
    exact ⟨Piece.combinator?_iff_iff hpiece hlexeme, Piece.combinator?_of_ambiguous hpiece hlexeme⟩

/-! ### Requests with lists of their own -/

/-- A request with another symbol for "any". -/
def barRequest : Request :=
  { Request.ofQuery "a eq 1 and b eq 2 | c eq 3" with options := { opOr := some ["|"] } }

/-- The case of a query with a symbol for `or`. -/
theorem compiled_operators_sample :
    Config.parse "" = .ok {} ∧
    ∃ s, compile .empty {} [] barRequest = .ok s ∧
      s.normalized.tokens.filterMap Token.combinator? = [.all, .any] ∧
      ∀ combinator,
        (Piece.symbol ['|'] .any).combinator? (operators {} barRequest.options) barRequest.query =
            some combinator ↔
          "|" ∈ (operators {} barRequest.options).literalsOf combinator := by
  have hconfig : Config.parse "" = .ok {} := rfl
  have hok : (compile .empty {} [] barRequest).isOk = true := by decide +kernel
  obtain ⟨s, hs⟩ := exists_of_isOk hok
  obtain ⟨-, hoperators, -, hlexemes⟩ := compiled_operators hconfig hs
  have hbar : Piece.symbol ['|'] .any ∈
      Piece.cut (operators {} barRequest.options) barRequest.query.toList := by
    decide +kernel
  have hone : ¬ (operators {} barRequest.options).Ambiguous "|" := by
    intro hboth
    exact absurd hboth.1 (by decide)
  refine ⟨hconfig, s, hs, ?_, (hlexemes _ hbar rfl).1.2 hone⟩
  rw [hoperators]
  decide +kernel

/-- A request whose literals for "any" are a word and a symbol that stand for "all". -/
def sharedRequest : Request :=
  { Request.ofQuery "a eq 1 and b eq 2 && c eq 3" with options := { opOr := some ["and", "&&"] } }

/-- **Compiled requests can have ambiguous literals**: the word is read as "all" and the symbol as
"any", though both are in both lists. -/
theorem exists_ambiguous_operators :
    Config.parse "" = .ok {} ∧
    (Request.ofQuery "a eq 1 and b eq 2 && c eq 3").withMap
      [("op_or", .array [.string "and", .string "&&"])] = .ok sharedRequest ∧
    (∃ s, compile .empty {} [] sharedRequest = .ok s) ∧
    let ops := operators {} sharedRequest.options
    let word := Piece.word ['a', 'n', 'd']
    let symbol := Piece.symbol ['&', '&'] .any
    (word ∈ Piece.cut ops sharedRequest.query.toList ∧ ops.Ambiguous "and" ∧
      ¬ (word.combinator? ops sharedRequest.query = some .any ↔ "and" ∈ ops.literalsOf .any)) ∧
    symbol ∈ Piece.cut ops sharedRequest.query.toList ∧ ops.Ambiguous "&&" ∧
      ¬ (symbol.combinator? ops sharedRequest.query = some .all ↔ "&&" ∈ ops.literalsOf .all) := by
  have hok : (compile .empty {} [] sharedRequest).isOk = true := by decide +kernel
  refine ⟨rfl, rfl, exists_of_isOk hok, ⟨?_, ?_, ?_⟩, ?_, ?_, ?_⟩
  · decide +kernel
  · exact ⟨by decide, by decide⟩
  · decide +kernel
  · decide +kernel
  · exact ⟨by decide, by decide⟩
  · decide +kernel

end Session

end RecordFilter
