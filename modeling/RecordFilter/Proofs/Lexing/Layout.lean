import RecordFilter.Proofs.Builder.Core
import RecordFilter.Proofs.Lexing.Scanned
import RecordFilter.Proofs.Lexing.Separators
import RecordFilter.Proofs.Parens.Balance
import RecordFilter.Query.Session

/-!
# Layout

Outside of keyword segments whitespace only separates: how much of it there is does not matter, nor
whether there is any next to a parenthesis or at the ends of a query.

* `Piece.StandsAlone`, `Piece.cut_gap` — whitespace and parentheses between two texts are pieces by
  themselves, and the texts are cut as if they stood alone.
* `Piece.isSolid`, `Piece.tokens_filter_isSolid` — the tokens of a text are those of its pieces
  without whitespace.
* `Normalized.SamePieces`, `Normalized.agree_ofQuery` — queries with the same pieces but for
  whitespace agree.
* `Normalized.Relaid` — queries that differ in layout only.
* `Normalized.agree_of_relaid` — **these have the same tokens, or errors of one kind.**
-/

namespace RecordFilter

/-! ## Gaps between texts -/

/-- A text without its whitespace. -/
def Text.visible (cs : List Char) : List Char := cs.filter fun c => !isWhitespace c

/-- Nothing of a text is visible exactly if it is all whitespace. -/
theorem Text.visible_eq_nil_iff {cs : List Char} :
    visible cs = [] ↔ cs.all isWhitespace = true := by
  simp [visible]

/-- What is visible of two texts, one after the other. -/
theorem Text.visible_append (xs ys : List Char) : visible (xs ++ ys) = visible xs ++ visible ys :=
  List.filter_append xs ys

namespace Piece

open Normalized (backtickRuns backtickRuns_append)

variable {ops : Operators} {before gap after : List Char}

/-- **A character that is a piece by itself**, wherever it stands outside of segments. -/
def StandsAlone (c : Char) : Prop := Text.isWhitespace c = true ∨ c = '(' ∨ c = ')'

/-- The piece that such a character is. -/
def ofChar (c : Char) : Piece :=
  if c = '(' then .opening else if c = ')' then .closing else .blank c

/-- A character that stands alone separates words. -/
theorem StandsAlone.separates {c : Char} (h : StandsAlone c) : Separates c := by
  rcases h with hspace | hopen | hclose
  · exact .inl hspace
  · exact .inr (.inl hopen)
  · exact .inr (.inr (.inl hclose))

/-- A backtick does not stand alone. -/
theorem StandsAlone.ne_backtick {c : Char} (h : StandsAlone c) : c ≠ '`' := by
  rintro rfl
  rcases h with hspace | hopen | hclose
  · exact absurd hspace (by decide)
  · exact absurd hopen (by decide)
  · exact absurd hclose (by decide)

/-- Characters that stand alone are cut off one by one, and the rest after them. -/
theorem cut_gap_append (hgap : ∀ c ∈ gap, StandsAlone c) (after : List Char) :
    cut ops (gap ++ after) = gap.map ofChar ++ cut ops after := by
  induction gap with
  | nil => rfl
  | cons c gap ih =>
    obtain ⟨hc, hrest⟩ := List.forall_mem_cons.1 hgap
    have hfits : (ofChar c).Fits ops (gap ++ after) ∧ (ofChar c).text = [c] := by
      unfold ofChar
      split
      next hopen => exact ⟨.opening, by rw [hopen]; rfl⟩
      next hopen =>
        split
        next hclose => exact ⟨.closing, by rw [hclose]; rfl⟩
        next hclose =>
          rcases hc with hspace | hparen | hparen
          · exact ⟨.blank hspace, rfl⟩
          · exact absurd hparen hopen
          · exact absurd hparen hclose
    have hcut := cut_text_append_of_fits hfits.1
    rw [hfits.2, List.singleton_append] at hcut
    rw [List.cons_append, hcut, ih hrest, List.map_cons, List.cons_append]

/-- **A gap keeps two texts apart**: there is something in it, or nothing on one side of it. -/
def Apart (before gap after : List Char) : Prop := gap ≠ [] ∨ before = [] ∨ after = []

/-- **The texts on both sides of a gap are cut as if they stood alone**, if the gap is outside of
segments. -/
theorem cut_gap (hops : ops.WithoutSeparators) (hgap : ∀ c ∈ gap, StandsAlone c)
    (hapart : Apart before gap after) (hbefore : backtickRuns before % 2 = 0) :
    cut ops (before ++ (gap ++ after)) = cut ops before ++ (gap.map ofChar ++ cut ops after) := by
  rw [← cut_gap_append hgap after]
  cases gap with
  | nil => rcases hapart with hne | rfl | rfl <;> simp_all [cut]
  | cons c gap =>
    have hc := hgap c List.mem_cons_self
    exact cut_append_cons hops hc.separates hc.ne_backtick hbefore (gap ++ after)

/-- **Runs of backticks are counted apart** on the two sides of a gap. -/
theorem backtickRuns_gap (hgap : ∀ c ∈ gap, StandsAlone c) (hapart : Apart before gap after) :
    backtickRuns (before ++ (gap ++ after)) = backtickRuns before + backtickRuns after := by
  cases gap with
  | nil =>
    have hnone : backtickRuns [] = 0 := rfl
    rcases hapart with hne | rfl | rfl <;> simp_all
  | cons c gap =>
    obtain ⟨hc, hrest⟩ := List.forall_mem_cons.1 fun d hd => (hgap d hd).ne_backtick
    have happend := Normalized.backtickRunsFrom_append_cons hc false before (gap ++ after)
    rw [backtickRuns_append hrest] at happend
    exact happend

/-! ## Pieces without whitespace -/

/-- Whether a piece is anything but whitespace. -/
def isSolid : Piece → Bool
  | .blank _ => false
  | _ => true

/-- Of the characters that stand alone the parentheses are solid. -/
theorem isSolid_ofChar {c : Char} (hc : StandsAlone c) :
    (ofChar c).isSolid = !Text.isWhitespace c := by
  unfold ofChar
  split
  next hopen => rw [hopen]; rfl
  next hopen =>
    split
    next hclose => rw [hclose]; rfl
    next hclose =>
      rcases hc with hspace | hparen | hparen
      · rw [hspace]; rfl
      · exact absurd hparen hopen
      · exact absurd hparen hclose

/-- What is visible of a gap are its parentheses. -/
theorem only_gap (hgap : ∀ c ∈ gap, StandsAlone c) : Parens.only gap = Text.visible gap := by
  refine List.filter_congr fun c hc => ?_
  rcases hgap c hc with hspace | rfl | rfl
  · have hopen : c ≠ '(' := by rintro rfl; exact absurd hspace (by decide)
    have hclose : c ≠ ')' := by rintro rfl; exact absurd hspace (by decide)
    simp [hspace, hopen, hclose]
  · decide
  · decide

/-- The pieces of a gap but for whitespace are those of its parentheses. -/
theorem filter_isSolid_gap (hgap : ∀ c ∈ gap, StandsAlone c) :
    (gap.map ofChar).filter isSolid = (Text.visible gap).map ofChar := by
  rw [List.filter_map, Text.visible]
  exact congrArg _ (List.filter_congr fun c hc => isSolid_ofChar (hgap c hc))

variable {query query' : String}

/-- **Whitespace stands for nothing.** -/
theorem tokens_filter_isSolid (pieces : List Piece) :
    Piece.tokens ops query (pieces.filter isSolid) = Piece.tokens ops query pieces := by
  induction pieces with
  | nil => rfl
  | cons piece pieces ih =>
    cases piece with
    | blank c =>
      have hblank :
          Piece.tokens ops query (.blank c :: pieces) = Piece.tokens ops query pieces := by
        rw [Piece.tokens, token?]
        cases Piece.tokens ops query pieces <;> rfl
      rw [hblank, ← ih]
      rfl
    | opening | closing | segment _ _ _ | unclosed _ _ | symbol _ _ | word _ =>
      rw [List.filter_cons_of_pos rfl, Piece.tokens, Piece.tokens, ih]

/-- Pieces stand for the same tokens whatever query an error would show. -/
theorem agree_tokens (pieces : List Piece) :
    Agree Eq (Piece.tokens ops query pieces) (Piece.tokens ops query' pieces) := by
  induction pieces with
  | nil => exact .ok rfl
  | cons piece pieces ih =>
    have hpiece : Agree Eq (piece.token? ops query) (piece.token? ops query') := by
      cases piece with
      | unclosed _ _ => exact .error rfl
      | blank _ | opening | closing | segment _ _ _ | symbol _ _ | word _ =>
        exact Agree.refl (fun _ => rfl) _
    rw [Piece.tokens, Piece.tokens]
    rcases hpiece.eq_or_eq with ⟨token, _, h, h', rfl⟩ | ⟨e, e', h, h', hkind⟩
    · rw [h, h']
      rcases ih.eq_or_eq with ⟨tokens, _, h, h', rfl⟩ | ⟨e, e', h, h', hkind⟩
      · rw [h, h']
        exact .ok rfl
      · rw [h, h']
        exact .error hkind
    · rw [h, h']
      exact .error hkind

end Piece

/-! ## Queries with the same pieces -/

namespace Normalized

variable {ops : Operators} {query query' : String}

/-- **Two texts have the same pieces but for whitespace**, and the checks before cutting them turn
out alike. -/
structure SamePieces (ops : Operators) (s t : List Char) : Prop where
  blank : s.all Text.isWhitespace = t.all Text.isWhitespace
  parens : Parens.only s = Parens.only t
  runs : backtickRuns s % 2 = backtickRuns t % 2
  /-- Where a segment is left open the texts are refused before they are cut. -/
  solid : backtickRuns s % 2 = 0 →
    (Piece.cut ops s).filter Piece.isSolid = (Piece.cut ops t).filter Piece.isSolid

/-- **Queries with the same pieces but for whitespace agree**: they have the same tokens, or errors
of one kind. -/
theorem agree_ofQuery (h : SamePieces ops query.toList query'.toList) :
    Agree Eq (ofQuery ops query) (ofQuery ops query') := by
  have hparens : Parens.balanced query.toList = Parens.balanced query'.toList := by
    rw [← Parens.balanced_only, h.parens, Parens.balanced_only]
  unfold ofQuery Text.isBlank
  rw [h.blank, hparens, h.runs]
  split_ifs with hblank hbalanced hruns
  · exact .error rfl
  · exact .error rfl
  · exact .error rfl
  · have hsolid := h.solid (by rw [h.runs]; exact not_not.1 hruns)
    have hscan : Agree Eq (Token.scan ops query) (Token.scan ops query') := by
      rw [Token.scan, Token.scan, ← Piece.tokens_filter_isSolid,
        ← Piece.tokens_filter_isSolid (Piece.cut ops query'.toList), hsolid]
      exact Piece.agree_tokens _
    rcases hscan.eq_or_eq with ⟨tokens, _, h, h', rfl⟩ | ⟨e, e', h, h', hkind⟩
    · rw [h, h']
      exact Agree.refl (fun _ => rfl) _
    · rw [h, h']
      exact .error hkind

/-- **A gap can be exchanged** for one with the same parentheses. After a segment that is left open
there must be nothing but the gap. -/
theorem samePieces_of_gap (hops : ops.WithoutSeparators) (before x y after : List Char)
    (hplace : backtickRuns before % 2 = 0 ∨ after = [])
    (hx : ∀ c ∈ x, Piece.StandsAlone c) (hy : ∀ c ∈ y, Piece.StandsAlone c)
    (hxapart : Piece.Apart before x after) (hyapart : Piece.Apart before y after)
    (hvisible : Text.visible x = Text.visible y) :
    SamePieces ops (before ++ (x ++ after)) (before ++ (y ++ after)) where
  blank := by
    rw [Bool.eq_iff_iff, ← Text.visible_eq_nil_iff, ← Text.visible_eq_nil_iff]
    simp only [Text.visible_append, hvisible]
  parens := by
    rw [Parens.only_append, Parens.only_append, Parens.only_append, Parens.only_append,
      Piece.only_gap hx, Piece.only_gap hy, hvisible]
  runs := by rw [Piece.backtickRuns_gap hx hxapart, Piece.backtickRuns_gap hy hyapart]
  solid hruns := by
    have hbefore : backtickRuns before % 2 = 0 := by
      rcases hplace with hbefore | rfl
      · exact hbefore
      · rwa [Piece.backtickRuns_gap hx hxapart] at hruns
    rw [Piece.cut_gap hops hx hxapart hbefore, Piece.cut_gap hops hy hyapart hbefore]
    simp only [List.filter_append, Piece.filter_isSolid_gap hx, Piece.filter_isSolid_gap hy,
      hvisible]

/-! ## Layout -/

/-- **Two queries differ in layout only.** Where runs of backticks pair no segment is left open. -/
inductive Relaid : String → String → Prop
  /-- There is other whitespace at a place where there was some. -/
  | blank {before s t after : String} (hbefore : backtickRuns before.toList % 2 = 0) (hs : s ≠ "")
      (ht : t ≠ "") (hsblank : Text.isBlank s = true) (htblank : Text.isBlank t = true) :
      Relaid (before ++ s ++ after) (before ++ t ++ after)
  /-- There is whitespace, or none, on either side of a parenthesis. -/
  | paren {before s paren t after : String} (hbefore : backtickRuns before.toList % 2 = 0)
      (hparen : paren = "(" ∨ paren = ")") (hsblank : Text.isBlank s = true)
      (htblank : Text.isBlank t = true) :
      Relaid (before ++ (s ++ paren ++ t) ++ after) (before ++ paren ++ after)
  /-- There is whitespace, or none, at either end. -/
  | ends {s query t : String} (hsblank : Text.isBlank s = true) (htblank : Text.isBlank t = true) :
      Relaid (s ++ query ++ t) query

/-- The default literals are free of separators. -/
theorem withoutSeparators_operators : (Session.operators {} {}).WithoutSeparators := by
  simp [Session.operators, Operators.WithoutSeparators, Piece.Separates, Text.isWhitespace]

/-- The characters of a blank text stand alone. -/
theorem standsAlone_of_isBlank {s : String} (h : Text.isBlank s = true) :
    ∀ c ∈ s.toList, Piece.StandsAlone c :=
  fun c hc => .inl (List.all_eq_true.1 h c hc)

/-- Nothing of a blank text is visible. -/
theorem visible_of_isBlank {s : String} (h : Text.isBlank s = true) : Text.visible s.toList = [] :=
  Text.visible_eq_nil_iff.2 h

/-- Whitespace around a parenthesis does not matter. -/
theorem samePieces_of_paren (hops : ops.WithoutSeparators) {before : List Char}
    (hbefore : backtickRuns before % 2 = 0) {paren : Char} (hparen : paren = '(' ∨ paren = ')')
    {s t : String} (hs : Text.isBlank s = true) (ht : Text.isBlank t = true) (after : List Char) :
    SamePieces ops (before ++ (s.toList ++ paren :: t.toList ++ after))
      (before ++ ([paren] ++ after)) := by
  have halone : ∀ c ∈ [paren], Piece.StandsAlone c := by
    intro c hc
    rw [List.mem_singleton.1 hc]
    exact .inr hparen
  have hgap : ∀ c ∈ s.toList ++ paren :: t.toList, Piece.StandsAlone c := by
    intro c hc
    rcases List.mem_append.1 hc with hc | hc
    · exact standsAlone_of_isBlank hs c hc
    · rcases List.mem_cons.1 hc with rfl | hc
      · exact .inr hparen
      · exact standsAlone_of_isBlank ht c hc
  have hvisible : Text.visible (s.toList ++ paren :: t.toList) = Text.visible [paren] := by
    rw [List.append_cons, Text.visible_append, Text.visible_append, visible_of_isBlank hs,
      visible_of_isBlank ht, List.nil_append, List.append_nil]
  exact samePieces_of_gap hops before _ _ after (.inl hbefore) hgap halone (.inl (by simp))
    (.inl (by simp)) hvisible

/-- **Layout does not matter**: queries that differ in it only have the same tokens, with outer
parentheses that are written in both or added in both, or they have errors of one kind. -/
theorem agree_of_relaid (hops : ops.WithoutSeparators) (h : Relaid query query') :
    Agree Eq (ofQuery ops query) (ofQuery ops query') := by
  have hnone : ∀ c ∈ [], Piece.StandsAlone c := fun c hc => absurd hc List.not_mem_nil
  cases h with
  | @blank before s t after hbefore hs ht hsblank htblank =>
    have hvisible : Text.visible s.toList = Text.visible t.toList := by
      rw [visible_of_isBlank hsblank, visible_of_isBlank htblank]
    have hpieces := samePieces_of_gap hops before.toList s.toList t.toList after.toList
      (.inl hbefore) (standsAlone_of_isBlank hsblank) (standsAlone_of_isBlank htblank)
      (.inl (by simpa using hs)) (.inl (by simpa using ht)) hvisible
    exact agree_ofQuery (by simpa [String.toList_append] using hpieces)
  | @paren before s paren t after hbefore hparen hsblank htblank =>
    rcases hparen with rfl | rfl
    · have hpieces := samePieces_of_paren hops hbefore (.inl rfl) hsblank htblank after.toList
      exact agree_ofQuery (by simpa [String.toList_append] using hpieces)
    · have hpieces := samePieces_of_paren hops hbefore (.inr rfl) hsblank htblank after.toList
      exact agree_ofQuery (by simpa [String.toList_append] using hpieces)
  | @ends s _ t hsblank htblank =>
    -- without the whitespace at the beginning, and then without that at the end
    have hfirst := samePieces_of_gap hops [] s.toList [] (query' ++ t).toList (.inl rfl)
      (standsAlone_of_isBlank hsblank) hnone (.inr (.inl rfl)) (.inr (.inl rfl))
      (visible_of_isBlank hsblank)
    have hlast := samePieces_of_gap hops query'.toList t.toList [] [] (.inr rfl)
      (standsAlone_of_isBlank htblank) hnone (.inr (.inr rfl)) (.inr (.inr rfl))
      (visible_of_isBlank htblank)
    have hmiddle : Agree Eq (ofQuery ops (s ++ query' ++ t)) (ofQuery ops (query' ++ t)) :=
      agree_ofQuery (by simpa [String.toList_append] using hfirst)
    exact hmiddle.trans Eq.trans (agree_ofQuery (by simpa [String.toList_append] using hlast))

/-- Half an operator before other whitespace and half after it, behind a segment with parentheses
and whitespace of its own. -/
theorem agree_of_relaid_sample :
    (Session.operators {} {}).WithoutSeparators ∧
      Relaid ("b in `k=)  (`&" ++ " " ++ "& ?") ("b in `k=)  (`&" ++ "\t\n" ++ "& ?") ∧
      Agree Eq (ofQuery (Session.operators {} {}) ("b in `k=)  (`&" ++ " " ++ "& ?"))
        (ofQuery (Session.operators {} {}) ("b in `k=)  (`&" ++ "\t\n" ++ "& ?")) := by
  have hops := withoutSeparators_operators
  have hrelaid : Relaid ("b in `k=)  (`&" ++ " " ++ "& ?") ("b in `k=)  (`&" ++ "\t\n" ++ "& ?") :=
    .blank (by decide) (by decide) (by decide) (by decide) (by decide)
  exact ⟨hops, hrelaid, agree_of_relaid hops hrelaid⟩

end Normalized

end RecordFilter
