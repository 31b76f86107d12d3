import RecordFilter.Proofs.Lexing.Pieces
import RecordFilter.Query.Normalized

/-!
# Runs of backticks

The runs of backticks of a text are the ends of its keyword segments: a segment has two of them, and
one that is left open has one. So the runs pair if and only if no segment is left open. This needs
that no backtick is part of an operator literal.

* `Operators.Without` — no literal has a character in it.
* `Normalized.backtickRunsFrom_append_cons` — runs are counted apart on the two sides of a character
  that is no backtick.
* `Piece.runs`, `Piece.Fits.backtickRuns_append` — the runs of a piece, at the place where it fits.
* `Piece.even_backtickRuns_iff` — **the runs of a text pair if and only if all its segments are
  closed.**
-/

namespace RecordFilter

/-- **No literal has a character in it.** -/
def Operators.Without (ops : Operators) (c : Char) : Prop :=
  ∀ op ∈ ops.all ++ ops.any, c ∉ op.toList

/-- No operator contains a character that the literals are without. -/
theorem Operators.Without.not_mem {ops : Operators} {c : Char} (h : ops.Without c)
    {entry : List Char × Combinator} (hentry : entry ∈ ops.symbols) : c ∉ entry.1 := by
  obtain ⟨⟨op, hop, hliteral⟩, -⟩ := exists_of_mem_symbols hentry
  exact hliteral ▸ h op hop

/-! ## Counting runs -/

namespace Normalized

/-- A character that is no backtick ends a run. -/
theorem backtickRunsFrom_append {cs : List Char} (hne : cs ≠ []) (h : ∀ c ∈ cs, c ≠ '`')
    (inRun : Bool) (t : List Char) :
    backtickRunsFrom inRun (cs ++ t) = backtickRunsFrom false t := by
  induction cs generalizing inRun with
  | nil => exact absurd rfl hne
  | cons c rest ih =>
    rw [List.cons_append, backtickRunsFrom, if_neg (h c List.mem_cons_self)]
    cases rest with
    | nil => rfl
    | cons d rest =>
      exact ih (List.cons_ne_nil _ _) (fun c hc => h c (List.mem_cons_of_mem _ hc)) false

/-- A text without backticks in front adds no run of them. -/
theorem backtickRuns_append {cs : List Char} (h : ∀ c ∈ cs, c ≠ '`') (t : List Char) :
    backtickRuns (cs ++ t) = backtickRuns t := by
  by_cases hne : cs = []
  · rw [hne, List.nil_append]
  · exact backtickRunsFrom_append hne h false t

/-- **Runs are counted apart** on the two sides of a character that is no backtick. -/
theorem backtickRunsFrom_append_cons {c : Char} (hc : c ≠ '`') (inRun : Bool)
    (before after : List Char) :
    backtickRunsFrom inRun (before ++ c :: after) =
      backtickRunsFrom inRun before + backtickRuns after := by
  induction before generalizing inRun with
  | nil => simp [backtickRuns, backtickRunsFrom, hc]
  | cons d before ih =>
    simp only [List.cons_append, backtickRunsFrom, ih]
    split <;> omega

/-- A run counts once, up to where it ends. -/
theorem backtickRuns_run {rest : List Char} (n : Nat) (hrest : rest.head? ≠ some '`') :
    backtickRuns (List.replicate (n + 1) '`' ++ rest) = backtickRuns rest + 1 := by
  have hgoes : backtickRunsFrom true (List.replicate n '`' ++ rest) = backtickRuns rest := by
    induction n with
    | zero =>
      cases rest with
      | nil => rfl
      | cons c rest =>
        have hc : c ≠ '`' := by simpa using hrest
        simp [backtickRuns, backtickRunsFrom, hc]
    | succ n ih => simpa [List.replicate_succ, backtickRunsFrom] using ih
  rw [List.replicate_succ, List.cons_append, backtickRuns, backtickRunsFrom, if_pos rfl, hgoes]
  exact Nat.add_comm _ _

end Normalized

/-! ## Runs of pieces -/

namespace Piece

open Normalized (backtickRuns)

variable {ops : Operators}

/-- The runs of backticks at the ends of a piece. -/
def runs : Piece → Nat
  | .segment _ _ _ => 2
  | .unclosed _ _ => 1
  | _ => 0

/-- Whether a piece is anything but a segment that is left open. -/
def isClosed : Piece → Bool
  | .unclosed _ _ => false
  | _ => true

/-- **A piece adds its own runs** to those of the rest before which it fits. -/
theorem Fits.backtickRuns_append (hops : ops.Without '`') {piece : Piece} {rest : List Char}
    (h : piece.Fits ops rest) :
    backtickRuns (piece.text ++ rest) = backtickRuns rest + piece.runs := by
  cases h with
  | @blank c _ hspace =>
    refine Normalized.backtickRuns_append (fun d hd => ?_) rest
    rintro rfl
    rw [← List.mem_singleton.1 hd] at hspace
    exact absurd hspace (by decide)
  | opening => exact Normalized.backtickRuns_append (by simp [text]) rest
  | closing => exact Normalized.backtickRuns_append (by simp [text]) rest
  | @segment before body after _ hne hbody hrest =>
    obtain ⟨c, body, rfl⟩ := List.exists_cons_of_ne_nil hne
    have hc : c ≠ '`' := (List.ne_of_not_mem_cons hbody).symm
    have hinside : ∀ d ∈ c :: body, d ≠ '`' := fun d hd => ne_of_mem_of_not_mem hd hbody
    calc backtickRuns (List.replicate (before + 1) '`' ++ c :: body ++
            List.replicate (after + 1) '`' ++ rest)
        = backtickRuns (c :: body ++ (List.replicate (after + 1) '`' ++ rest)) + 1 := by
          rw [List.append_assoc, List.append_assoc]
          exact Normalized.backtickRuns_run before (by simpa using hc)
      _ = backtickRuns rest + 2 := by
          rw [Normalized.backtickRuns_append hinside, Normalized.backtickRuns_run after hrest]
  | @unclosed before body hbody =>
    have hinside : ∀ d ∈ body, d ≠ '`' := fun d hd => ne_of_mem_of_not_mem hd hbody
    have hhead : body.head? ≠ some '`' := fun hd => hbody (List.mem_of_mem_head? hd)
    have hnone : backtickRuns body = 0 := by
      rw [← List.append_nil body, Normalized.backtickRuns_append hinside]
      rfl
    rw [List.append_nil, text, Normalized.backtickRuns_run before hhead, hnone]
    rfl
  | symbol _ hsymbol =>
    have hmem := (Operators.symbolAt?_eq_some hsymbol).1
    exact Normalized.backtickRuns_append
      (fun d hd => ne_of_mem_of_not_mem hd (hops.not_mem hmem)) rest
  | @word text _ hne hgoes hends =>
    have hword := Fits.isWord (.word hne hgoes hends)
    exact Normalized.backtickRuns_append (fun d hd => (hword.ne_of_mem hd).2.2.2) rest

/-- The number of backtick runs is even exactly if no segment is left open. -/
theorem Munches.even_backtickRuns_iff (hops : ops.Without '`') {input : List Char}
    {pieces : List Piece} (h : Munches ops input pieces) :
    backtickRuns input % 2 = 0 ↔ ∀ piece ∈ pieces, piece.isClosed = true := by
  induction h with
  | nil => simp [backtickRuns, Normalized.backtickRunsFrom]
  | @cons piece rest pieces hfits _ ih =>
    rw [hfits.backtickRuns_append hops, List.forall_mem_cons, ← ih]
    cases hfits with
    | unclosed _ => simp [runs, isClosed, backtickRuns, Normalized.backtickRunsFrom]
    | blank _ | opening | closing | segment _ _ _ | symbol _ _ | word _ _ _ =>
      simp [runs, isClosed]

/-- **The runs of backticks of a text pair if and only if all its segments are closed.** Only the
last piece of a text can be open. -/
theorem even_backtickRuns_iff (hops : ops.Without '`') {input : List Char} :
    backtickRuns input % 2 = 0 ↔ ∀ piece ∈ cut ops input, piece.isClosed = true :=
  (munches_cut ops input).even_backtickRuns_iff hops

end Piece

end RecordFilter
