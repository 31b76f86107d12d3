import Mathlib.Data.List.TakeWhile
import RecordFilter.Proofs.Pattern.Steady

/-!
# Steady reading of characters and escapes

The readers below a class or an expression are steady: skipping of whitespace and comments, single
characters, names up to a sign, sets by name and escapes.

* `dropVerbose_append` — where a comment may take the parenthesis with it.
* `Steady.upTo` — a name up to a sign that ends it.
* `steady_escape` — an escape, after its backslash.
-/

namespace RecordFilter.Pattern

namespace Reading

variable {α : Type} {j k : Nat}

/-! ## Whitespace and comments -/

/-- What is taken of a text does not reach past its end if the parenthesis ends it. -/
theorem takeWhile_append_paren {p : Char → Bool} (hp : p ')' = false) (cs : List Char) :
    (cs ++ [')']).takeWhile p = cs.takeWhile p := by
  induction cs with
  | nil => simp [hp]
  | cons c cs ih => by_cases hc : p c <;> simp [hc, ih]

/-- What is dropped of a text does not reach past its end if the parenthesis ends it. -/
theorem dropWhile_append_paren {p : Char → Bool} (hp : p ')' = false) (cs : List Char) :
    (cs ++ [')']).dropWhile p = cs.dropWhile p ++ [')'] := by
  induction cs with
  | nil => simp [hp]
  | cons c cs ih => by_cases hc : p c <;> simp [hc, ih]

/-- Leading whitespace does not reach past the end of the text. -/
theorem dropWhile_isWhitespace_append_paren (cs : List Char) :
    (cs ++ [')']).dropWhile Text.isWhitespace = cs.dropWhile Text.isWhitespace ++ [')'] :=
  dropWhile_append_paren (by decide +kernel) cs

/-- An empty text has nothing to skip. -/
theorem dropVerbose_nil (n : Nat) : dropVerbose n [] = [] := by
  cases n <;> rfl

/-- Skipping never makes a text longer. -/
theorem length_dropVerbose_le (n : Nat) (cs : List Char) :
    (dropVerbose n cs).length ≤ cs.length := by
  induction n generalizing cs with
  | zero => exact le_rfl
  | succ n ih =>
    have hspace := (cs.dropWhile_sublist Text.isWhitespace).length_le
    unfold dropVerbose
    split
    next rest h =>
      have hline := (rest.dropWhile_sublist (· != '\n')).length_le
      rw [h, List.length_cons] at hspace
      have := ih (rest.dropWhile (· != '\n'))
      omega
    · exact hspace

/-- The bound on the number of lines does not matter once it exceeds the length of the text. -/
theorem dropVerbose_eq {n m : Nat} {cs : List Char} (hn : cs.length < n) (hm : cs.length < m) :
    dropVerbose n cs = dropVerbose m cs := by
  induction n generalizing m cs with
  | zero => omega
  | succ n ih =>
    obtain ⟨m, rfl⟩ := Nat.exists_eq_succ_of_ne_zero (by omega : m ≠ 0)
    have hspace := (cs.dropWhile_sublist Text.isWhitespace).length_le
    unfold dropVerbose
    split
    next rest h =>
      have hline := (rest.dropWhile_sublist (· != '\n')).length_le
      rw [h, List.length_cons] at hspace
      exact ih (by omega) (by omega)
    · rfl

/-- A parenthesis behind the text stays behind what is left, unless a comment takes it. -/
theorem dropVerbose_append (n : Nat) (cs : List Char) :
    dropVerbose n (cs ++ [')']) = dropVerbose n cs ++ [')'] ∨
    dropVerbose n cs = [] ∧ dropVerbose n (cs ++ [')']) = [] := by
  induction n generalizing cs with
  | zero => exact .inl rfl
  | succ n ih =>
    unfold dropVerbose
    rw [dropWhile_isWhitespace_append_paren]
    generalize cs.dropWhile Text.isWhitespace = rest
    rcases rest with _ | ⟨c, rest⟩
    · exact .inl rfl
    · by_cases hc : c = '#'
      · subst hc
        show dropVerbose n ((rest ++ [')']).dropWhile _) = _ ∨
          dropVerbose n (rest.dropWhile _) = [] ∧ dropVerbose n ((rest ++ [')']).dropWhile _) = []
        rw [List.dropWhile_append]
        split
        next h =>
          rw [List.isEmpty_iff.1 h]
          exact .inr ⟨dropVerbose_nil n, dropVerbose_nil n⟩
        · exact ih _
      · left
        rw [List.cons_append]
        split
        · simp_all
        · split
          · simp_all
          · rfl

/-- Which character other than the parenthesis comes next is the same with the parenthesis. -/
theorem head?_append_paren {c : Char} (hc : c ≠ ')') (cs : List Char) :
    (cs ++ [')']).head? = some c ↔ cs.head? = some c := by
  cases cs with
  | nil => simpa using Ne.symm hc
  | cons d cs => rfl

/-- Nor does skipping change which character other than the parenthesis comes next. -/
theorem head?_dropVerbose_append {c : Char} (hc : c ≠ ')') (cs : List Char) :
    (dropVerbose ((cs ++ [')']).length + 1) (cs ++ [')'])).head? = some c ↔
      (dropVerbose (cs.length + 1) cs).head? = some c := by
  have hlength : (cs ++ [')']).length = cs.length + 1 := List.length_append
  have hbound : dropVerbose (cs.length + 1) cs = dropVerbose (cs.length + 1 + 1) cs :=
    dropVerbose_eq (by omega) (by omega)
  rw [hlength, hbound]
  rcases dropVerbose_append (cs.length + 1 + 1) cs with h | ⟨h, h'⟩
  · rw [h, head?_append_paren hc]
  · rw [h, h']

/-- What is skipped, by whether the flag for it is set. -/
theorem run_skipVerbose (s : ReadState) :
    skipVerbose.run s = some ((), if s.flags.verbose then
      { s with rest := dropVerbose (s.rest.length + 1) s.rest } else s) := by
  unfold skipVerbose
  rw [run_bind, run_flags]
  show (if s.flags.verbose then ahead >>= _ else pure _ : Reading Unit).run s = _
  split
  · rfl
  · rfl

/-- Skipping is steady: only a comment that reaches to the end takes the parenthesis with it. -/
theorem steady_skipVerbose : Steady 0 k skipVerbose := by
  intro s
  by_cases hverbose : s.flags.verbose
  · have hclosed : s.closed.flags.verbose := hverbose
    have hfuel : dropVerbose (s.closed.rest.length + 1) s.closed.rest =
        dropVerbose (s.rest.length + 2) (s.rest ++ [')']) :=
      dropVerbose_eq (by omega) (by simp [ReadState.closed])
    have hsame : dropVerbose (s.rest.length + 1) s.rest =
        dropVerbose (s.rest.length + 2) s.rest :=
      dropVerbose_eq (by omega) (by omega)
    constructor
    · intro a t hrun
      rw [run_skipVerbose, if_pos hverbose] at hrun
      cases hrun
      exact length_dropVerbose_le _ _
    · rw [run_skipVerbose, run_skipVerbose, if_pos hverbose, if_pos hclosed, hfuel, hsame]
      rcases dropVerbose_append (s.rest.length + 2) s.rest with h | ⟨h, h'⟩
      · rw [h]
        exact .both () .closed
      · rw [h, h']
        exact .both () (.ended rfl)
  · have hclosed : ¬ s.closed.flags.verbose := hverbose
    refine .of_some (a := ()) (t := s) ?_ ?_ le_rfl
    · rw [run_skipVerbose, if_neg hverbose]
    · rw [run_skipVerbose, if_neg hclosed]

/-! ## Characters -/

/-- The next character of a text. -/
theorem run_next_cons {s : ReadState} {c : Char} {rest : List Char} (h : s.rest = c :: rest) :
    next.run s = some (c, { s with rest }) := by
  unfold next
  rw [run_bind, run_ahead, h]
  rfl

/-- At the end of a text there is no next character. -/
theorem run_next_nil {s : ReadState} (h : s.rest = []) : next.run s = none := by
  unfold next
  rw [run_bind, run_ahead, h]
  rfl

/-- Only at the end of the text the parenthesis is the next character. -/
theorem steady_next : Steady 1 k next := by
  intro s
  rcases hs : s.rest with _ | ⟨c, rest⟩
  · apply Steps.of_none (run_next_nil hs)
    intro a t hrun
    have hparen : next.run s.closed = some (')', { s.closed with rest := [] }) :=
      run_next_cons (by simp [ReadState.closed, hs])
    rw [hparen] at hrun
    cases hrun
    exact Nat.zero_le k
  · apply Steps.of_some (run_next_cons hs)
    · exact run_next_cons (by simp [ReadState.closed, hs])
    · simp [hs]

/-- An expected character uses itself up. -/
theorem steady_expect (c : Char) : Steady 1 k (expect c) := by
  unfold expect
  exact steady_next.bind fun d => steady_guard _

/-! ## Names -/

/-- At the end of a text nothing is as expected. -/
theorem run_expect_nil {s : ReadState} (c : Char) (h : s.rest = []) : (expect c).run s = none := by
  unfold expect
  rw [run_bind, run_next_nil h]
  rfl

/-- A text that has a sign, cut before it. -/
theorem upTo_of_mem {c : Char} {cs : List Char} (h : c ∈ cs) :
    (cs ++ [')']).takeWhile (· != c) = cs.takeWhile (· != c) ∧
    (cs ++ [')']).dropWhile (· != c) = cs.dropWhile (· != c) ++ [')'] ∧
    (cs.dropWhile (· != c)).length ≤ cs.length := by
  obtain ⟨before, after, rfl, hbefore⟩ := List.eq_append_cons_of_mem h
  have hall : ∀ d ∈ before, (d != c) = true := by
    intro d hd
    rw [bne_iff_ne]
    rintro rfl
    exact hbefore hd
  refine ⟨?_, ?_, (List.dropWhile_sublist _).length_le⟩
  · rw [List.append_assoc, List.takeWhile_append_of_pos hall, List.takeWhile_append_of_pos hall]
    simp
  · rw [List.append_assoc, List.dropWhile_append_of_pos hall, List.dropWhile_append_of_pos hall]
    simp

/-- A text that lacks a sign has nothing from it on, with the parenthesis as without. -/
theorem upTo_of_not_mem {c : Char} {cs : List Char} (hc : c ≠ ')') (h : c ∉ cs) :
    cs.dropWhile (· != c) = [] ∧ (cs ++ [')']).dropWhile (· != c) = [] := by
  constructor
  · rw [List.dropWhile_eq_nil_iff]
    intro d hd
    rw [bne_iff_ne]
    rintro rfl
    exact h hd
  · rw [List.dropWhile_eq_nil_iff]
    intro d hd
    rw [bne_iff_ne]
    rintro rfl
    rcases List.mem_append.1 hd with hd | hd
    · exact h hd
    · exact hc (List.mem_singleton.1 hd)

/-- A name up to a sign other than the parenthesis: where the sign is missing the reading fails,
with the parenthesis as without. -/
theorem Steps.upTo {s : ReadState} {c : Char} {rest : List Char} {f : List Char → Reading α}
    (hc : c ≠ ')') (hrest : rest.length ≤ s.rest.length) (hf : ∀ name, Steady 0 k (f name)) :
    Steps 0 k s
      (Reading.goTo (rest.dropWhile (· != c)) >>= fun _ => expect c >>= fun _ =>
        f (rest.takeWhile (· != c)))
      (Reading.goTo ((rest ++ [')']).dropWhile (· != c)) >>= fun _ => expect c >>= fun _ =>
        f ((rest ++ [')']).takeWhile (· != c))) := by
  by_cases hmem : c ∈ rest
  · obtain ⟨hname, hafter, hlength⟩ := upTo_of_mem hmem
    rw [hname, hafter]
    apply Steps.goTo (((steady_expect c).bind fun _ => hf _).relax _)
    omega
  · obtain ⟨hshort, hlong⟩ := upTo_of_not_mem hc hmem
    rw [hshort, hlong]
    apply Steps.of_none
    · rw [run_bind, run_goTo, Option.bind_some, run_bind, run_expect_nil c rfl]
      rfl
    · intro a t hrun
      rw [run_bind, run_goTo, Option.bind_some, run_bind, run_expect_nil c rfl] at hrun
      cases hrun

/-! ## Sets by name -/

/-- Closing a set under case does not look at the text. -/
theorem steady_cased (set : CharSet) : Steady 0 k (cased set) := by
  unfold cased
  apply steady_flags.bind
  intro f
  split
  · exact .pure _
  · split
    · exact .pure _
    · exact .pure _

/-- Nor does inverting it. -/
theorem steady_negated (negate : Bool) (set : CharSet) : Steady 0 k (negated negate set) := by
  unfold negated
  split
  · apply steady_flags.bind
    intro f
    apply (steady_guard _).bind
    intro _
    exact .pure _
  · exact .pure _

/-- Nor does the class of a letter. -/
theorem steady_perlClass (c : Char) : Steady 0 k (perlClass c) := by
  unfold perlClass
  apply steady_flags.bind
  intro f
  exact steady_negated _ _

/-- Nor does the class of a property that has been named. -/
theorem steady_property (cs : List Char) : Steady 0 k (property cs) := by
  unfold property
  extract_lets isMark before
  split
  · exact steady_getM _
  · extract_lets ofValue
    have hvalue : ∀ find, Steady 0 k (ofValue find) := by
      intro find
      apply (steady_guard _).bind
      intro _
      apply (steady_getM _).bind
      intro set
      exact .pure _
    split
    · exact (Steady.pure _).bind hvalue
    · split
      · exact (Steady.pure _).bind hvalue
      · exact Steady.failure.bind hvalue

/-- The name of a property ends before the parenthesis. -/
theorem steady_unicodeClass (inverse : Bool) : Steady 0 k (unicodeClass inverse) := by
  unfold unicodeClass
  apply steady_flags.bind
  intro f
  apply (steady_guard _).bind
  intro _
  apply steady_skipVerbose.bind
  intro _
  apply steady_next.relax.bind
  intro c
  have hname : ∀ name : List Char, Steady 0 k (do
      guard (!name.isEmpty)
      let set ← cased (← property name)
      negated inverse set) := by
    intro name
    apply (steady_guard _).bind
    intro _
    apply (steady_property name).bind
    intro set
    apply (steady_cased set).bind
    intro set
    exact steady_negated inverse set
  split
  · apply steady_skipVerbose.bind
    intro _ s
    apply Steps.look
    exact Steps.upTo (by decide) le_rfl hname
  · apply (steady_guard _).bind
    intro _
    exact hname [c]

/-! ## Escapes -/

/-- Whether a code is that of a character does not depend on the text. -/
theorem steady_charOfCode (code : Nat) : Steady 0 k (charOfCode code) := by
  unfold charOfCode
  apply (steady_guard _).bind
  intro _
  exact .pure _

/-- Nor does the set of word characters. -/
theorem steady_wordSet : Steady 0 k wordSet := by
  unfold wordSet
  apply steady_flags.bind
  intro f
  exact .pure _

/-- The parenthesis is no digit. -/
theorem number?_append_paren (cs : List Char) : Hex.number? (cs ++ [')']) = none := by
  unfold Hex.number?
  rw [List.foldlM_append]
  apply Option.bind_eq_none_iff.2
  intro n _
  rfl

/-- A given number of characters, among which the parenthesis is not allowed. -/
theorem Steps.taken {s : ReadState} {f : List Char → Reading α} (n : Nat)
    (hf : ∀ cs, Steady 0 k (f cs)) (hparen : ∀ cs t, (f (cs ++ [')'])).run t = none) :
    Steps 0 k s
      (guard (n ≤ s.rest.length) >>= fun _ => Reading.goTo (s.rest.drop n) >>= fun _ =>
        f (s.rest.take n))
      (guard (n ≤ (s.rest ++ [')']).length) >>= fun _ =>
        Reading.goTo ((s.rest ++ [')']).drop n) >>= fun _ => f ((s.rest ++ [')']).take n)) := by
  have hlength : (s.rest ++ [')']).length = s.rest.length + 1 := List.length_append
  by_cases hfits : n ≤ s.rest.length
  · rw [List.drop_append_of_le_length hfits, List.take_append_of_le_length hfits, guard, guard,
      if_pos hfits, if_pos (by omega), pure_bind, pure_bind]
    apply Steps.goTo (hf _ _)
    rw [List.length_drop]
    omega
  · apply Steps.of_none
    · rw [guard, if_neg hfits]
      rfl
    · intro a t hrun
      by_cases hnext : n = s.rest.length + 1
      · rw [guard, if_pos (by omega), pure_bind, List.take_of_length_le (by omega), run_bind,
          run_goTo, Option.bind_some, hparen] at hrun
        cases hrun
      · rw [guard, if_neg (by omega)] at hrun
        cases hrun

/-- A code in braces does not depend on what follows them. -/
theorem steady_bracedCode (code : List Char) : Steady 0 k (do
    let verbose := (← flags).verbose
    let code := if verbose then code.filter fun c => !Text.isWhitespace c else code
    guard !code.isEmpty
    charOfCode (← (Hex.number? code).getM)) := by
  apply steady_flags.bind
  intro f
  apply (steady_guard _).bind
  intro _
  apply (steady_getM _).bind
  intro number
  exact steady_charOfCode number

/-- A code of so many digits does not depend on what follows them. -/
theorem steady_digitCode (digits : Nat) (cs : List Char) : Steady 0 k (do
    let code ← (Hex.number? cs).getM
    guard ((← flags).unicode || digits != 2 || code < 128)
    charOfCode code) := by
  apply (steady_getM _).bind
  intro code
  apply steady_flags.bind
  intro f
  apply (steady_guard _).bind
  intro _
  exact steady_charOfCode code

/-- The digits of a code end before the parenthesis. -/
theorem steady_hexEscape (digits : Nat) : Steady 0 k (hexEscape digits) := by
  unfold hexEscape
  apply steady_skipVerbose.bind
  intro _ s
  apply Steps.look
  by_cases hbrace : ∃ rest, s.rest = '{' :: rest
  · obtain ⟨rest, hs⟩ := hbrace
    rw [hs]
    exact Steps.upTo (by decide) (by simp [hs]) steady_bracedCode
  · -- the parenthesis is no brace either
    have hlong : ∀ rest, s.rest ++ [')'] ≠ '{' :: rest := by
      intro rest h
      have hhead : (s.rest ++ [')']).head? = some '{' := by rw [h, List.head?_cons]
      rw [head?_append_paren (by decide), List.head?_eq_some_iff] at hhead
      exact hbrace hhead
    split
    next rest h => exact absurd ⟨rest, h⟩ hbrace
    apply Steps.taken digits (steady_digitCode digits)
    intro cs t
    rw [number?_append_paren]
    rfl

/-- The boundary of a name, after the name. -/
def boundaryOfName (name : List Char) : Reading (Option Assertion) := do
  expect '}'
  let word ← wordSet
  match String.ofList name with
  | "start" => return some (.wordStart word)
  | "end" => return some (.wordEnd word)
  | "start-half" => return some (.wordStartHalf word)
  | "end-half" => return some (.wordEndHalf word)
  | _ => failure

/-- Which boundary a name stands for does not depend on the text. -/
theorem steady_boundaryOfName (name : List Char) : Steady 0 k (boundaryOfName name) := by
  unfold boundaryOfName
  apply (steady_expect '}').relax.bind
  intro _
  apply steady_wordSet.bind
  intro word
  split
  · exact .pure _
  · exact .pure _
  · exact .pure _
  · exact .pure _
  · exact .failure

/-- A boundary by name; with the parenthesis or without, none is read where no name follows. -/
theorem steady_namedBoundary? : Steady 0 k namedBoundary? := by
  unfold namedBoundary?
  intro s
  apply Steps.peek
  · intro _
    exact Steady.pure none s
  · intro c rest hs
    by_cases hc : c = '{'
    · subst hc
      simp only
      rw [takeWhile_append_paren (by decide)]
      split
      · exact Steady.pure none s
      · rw [List.drop_append_of_le_length (List.takeWhile_sublist _).length_le]
        apply Steps.goTo (steady_boundaryOfName _ _)
        simp only [hs, List.length_drop, List.length_cons]
        omega
    · have hother : ∀ cs, ∀ rest, c :: cs ≠ '{' :: rest := by
        intro cs rest h
        exact hc (List.cons.inj h).1
      split
      next rest h => exact absurd h (hother _ _)
      split
      next rest h => exact absurd h (hother _ _)
      exact Steady.pure none s

/-- **An escape is steady.** -/
theorem steady_escape : Steady 0 k escape := by
  unfold escape
  apply steady_next.relax.bind
  intro c
  split
  case h_1 => exact (steady_hexEscape 2).map
  case h_2 => exact (steady_hexEscape 4).map
  case h_3 => exact (steady_hexEscape 8).map
  case h_4 => exact (steady_unicodeClass false).map
  case h_5 => exact (steady_unicodeClass true).map
  case h_6 | h_7 | h_8 | h_9 | h_10 | h_11 => exact (steady_perlClass _).map
  case h_12 | h_13 | h_14 | h_15 | h_16 | h_17 | h_18 | h_19 => exact .pure _
  case h_20 | h_22 | h_23 => exact steady_wordSet.map
  case h_21 =>
    apply steady_namedBoundary?.bind
    intro boundary
    split
    · exact .pure _
    · exact steady_wordSet.map
  case h_24 => exact (steady_guard _).bind fun _ => .pure _

end Reading

end RecordFilter.Pattern
