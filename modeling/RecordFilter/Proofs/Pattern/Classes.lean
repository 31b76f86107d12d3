import RecordFilter.Proofs.Pattern.Escapes

/-!
# Steady reading of bracketed classes

A class that lacks its closing bracket is no class, and a parenthesis behind it does not supply one.
Its parts may read the parenthesis as a character, which leaves nothing to go on with.

* `steady_classRange` — a member or a range; alone it may leave one character, the parenthesis.
* `bracketed_eq` — a larger bound on the depth changes nothing.
* `steady_bracketed` — **a class is steady**.
-/

namespace RecordFilter.Pattern

namespace Reading

variable {α : Type} {j k : Nat}

/-! ## Members -/

/-- A member of a class uses up a character. -/
theorem steady_classMember : Steady 1 k classMember := by
  unfold classMember
  apply steady_next.bind
  intro c
  split
  · exact steady_escape
  · exact .pure _

/-- What a member gives as the end of a range does not depend on the text. -/
theorem steady_classChar (first : Escape) : Steady 0 k (classChar first) := by
  unfold classChar
  split
  · apply steady_flags.bind
    intro f
    apply (steady_guard _).bind
    intro _
    exact .pure _
  · exact .failure

/-- Nor does the set that an operation completes. -/
theorem steady_complete (left : Option (SetOperation × CharSet)) (right : CharSet) :
    Steady 0 k (complete left right) := by
  unfold complete
  split
  · exact .pure _
  · apply (steady_cased _).bind
    intro left
    apply (steady_cased _).bind
    intro right
    exact .pure _

/-- A member that begins no range. -/
def alone (first : Escape) : Reading CharSet :=
  match first with
  | .set set => return set
  | _ => return .single (← classChar first)

/-- The other end of a range, after the hyphen. -/
def rangeTo (first : Escape) : Reading CharSet := do
  skipVerbose
  let last ← classMember
  let low ← classChar first
  let high ← classChar last
  guard (low ≤ high)
  return .range low high

/-- What a hyphen after a member leads to, by what follows the hyphen. -/
def afterHyphen (first : Escape) (rest : List Char) : List Char → Reading CharSet
  | ']' :: _ | '-' :: _ => alone first
  | _ => do
    goTo rest
    rangeTo first

/-- A member or a range from the text after the first member on. -/
def rangeFrom (first : Escape) : List Char → Reading CharSet
  | '-' :: rest => do
    let f ← flags
    afterHyphen first rest (if f.verbose then dropVerbose (rest.length + 1) rest else rest)
  | _ => alone first

/-- A member that begins no range is given as it is. -/
theorem steady_alone (first : Escape) : Steady 0 k (alone first) := by
  unfold alone
  split
  · exact .pure _
  · exact (steady_classChar _).map

/-- The other end of a range may be followed by the parenthesis. -/
theorem steady_rangeTo (first : Escape) : Steady 0 k (rangeTo first) := by
  unfold rangeTo
  apply steady_skipVerbose.bind
  intro _
  apply steady_classMember.relax.bind
  intro last
  apply (steady_classChar first).bind
  intro low
  apply (steady_classChar last).bind
  intro high
  apply (steady_guard _).bind
  intro _
  exact .pure _

/-- A hyphen before a bracket or another hyphen begins no range. -/
theorem afterHyphen_eq (first : Escape) (rest cs : List Char) :
    afterHyphen first rest cs =
      if cs.head? = some ']' ∨ cs.head? = some '-' then alone first
      else goTo rest >>= fun _ => rangeTo first := by
  unfold afterHyphen
  split
  · exact (if_pos (.inl rfl)).symm
  · exact (if_pos (.inr rfl)).symm
  next hbracket hhyphen =>
    rw [if_neg]
    rintro (h | h)
    · obtain ⟨rest', rfl⟩ := List.head?_eq_some_iff.1 h
      exact hbracket rest' rfl
    · obtain ⟨rest', rfl⟩ := List.head?_eq_some_iff.1 h
      exact hhyphen rest' rfl

/-- After a hyphen only the next character counts, which is the same with the parenthesis. -/
theorem steps_afterHyphen (first : Escape) {s : ReadState} {rest cs cs' : List Char}
    (hcs : ∀ d, d ≠ ')' → (cs'.head? = some d ↔ cs.head? = some d))
    (hrest : rest.length ≤ s.rest.length) :
    Steps 0 k s (afterHyphen first rest cs) (afterHyphen first (rest ++ [')']) cs') := by
  rw [afterHyphen_eq, afterHyphen_eq]
  simp only [hcs ']' (by decide), hcs '-' (by decide)]
  split
  · exact steady_alone first s
  · apply Steps.goTo (steady_rangeTo first _)
    exact hrest

/-- Without a hyphen behind it a member begins no range. -/
theorem rangeFrom_cons_of_ne {c : Char} (hc : c ≠ '-') (first : Escape) (rest : List Char) :
    rangeFrom first (c :: rest) = alone first := by
  unfold rangeFrom
  split
  next h => exact absurd (List.cons.inj h).1 hc
  · rfl

/-- A member or a range, as the first member and what goes on from it. -/
theorem classRange_eq : classRange = (do
    let first ← classMember
    skipVerbose
    let cs ← ahead
    guard !cs.isEmpty
    rangeFrom first cs) := rfl

/-- A member or a range uses up a character. Where the text ends it is refused, and the parenthesis
behind the text is what it then leaves. -/
theorem steady_classRange : Steady 1 (k + 1) classRange := by
  rw [classRange_eq]
  apply steady_classMember.bind
  intro first
  apply steady_skipVerbose.bind
  intro _ s
  apply Steps.peek
  · intro hs
    apply Steps.of_none rfl
    intro set t hrun
    have hleft := (steady_alone (k := 0) first s.closed).shrinks set t hrun
    simp only [ReadState.closed, hs] at hleft
    exact hleft.trans (by simp)
  · intro c rest hs
    show Steps 0 (k + 1) s (rangeFrom first (c :: rest)) (rangeFrom first (c :: (rest ++ [')'])))
    by_cases hc : c = '-'
    · subst hc
      apply Steps.flags
      apply steps_afterHyphen
      · intro d hd
        split
        · exact head?_dropVerbose_append hd rest
        · exact head?_append_paren hd rest
      · simp [hs]
    · rw [rangeFrom_cons_of_ne hc, rangeFrom_cons_of_ne hc]
      exact steady_alone first s

/-! ## Hyphens -/

/-- Leading hyphens may be followed by the parenthesis, which is none of them. -/
theorem steady_leadingHyphens (n : Nat) (set : CharSet) :
    Steady 0 (k + 1) (leadingHyphens n set) := by
  induction n generalizing set with
  | zero => exact .pure set
  | succ n ih =>
    unfold leadingHyphens
    intro s
    apply Steps.peek
    · intro hs
      apply Steps.of_none rfl
      intro set' t hrun
      cases hrun
      simp [ReadState.closed, hs]
    · intro c rest hs
      by_cases hc : c = '-'
      · subst hc
        apply Steps.goTo ((steady_skipVerbose.bind fun _ => ih _) _)
        simp [hs]
      · split
        next rest' h => exact absurd (List.cons.inj h).1 hc
        next h => cases h
        split
        next rest' h => exact absurd (List.cons.inj h).1 hc
        next h => cases h
        exact Steady.pure set s

/-- The bound on the number of hyphens does not matter once it exceeds the length of the text. -/
theorem leadingHyphens_eq {n m : Nat} {s : ReadState} (hn : s.rest.length < n)
    (hm : s.rest.length < m) (set : CharSet) :
    (leadingHyphens n set).run s = (leadingHyphens m set).run s := by
  induction n generalizing m s set with
  | zero => omega
  | succ n ih =>
    obtain ⟨m, rfl⟩ := Nat.exists_eq_succ_of_ne_zero (by omega : m ≠ 0)
    unfold leadingHyphens
    rw [run_bind, run_bind, run_ahead, Option.bind_some, Option.bind_some]
    split
    next rest hs =>
      have hlength : s.rest.length = rest.length + 1 := congrArg List.length hs
      rw [run_bind, run_bind, run_goTo]
      apply (steady_skipVerbose (k := 0)).run_congr
      intro _ t ht
      simp only at ht
      exact ih (by omega) (by omega) _
    · rfl
    · rfl

/-! ## Classes -/

/-- A hat at the head of a class, which inverts it. -/
def hat : Reading Bool := do
  let cs ← ahead
  if cs.head? = some '^' then
    goTo cs.tail
    skipVerbose
    return true
  else return false

/-- A bracket that comes first in a class, which stands for itself; `length` is that of the text
before the hyphens. -/
def bracketFirst (length : Nat) (hyphens : CharSet) : Reading CharSet := do
  match ← ahead with
  | [] => failure
  | c :: rest =>
    if c == ']' && rest.length + 1 == length then
      goTo rest
      skipVerbose
      guard !(← ahead).isEmpty
      return CharSet.single ']'
    else return hyphens

/-- Hyphens or a bracket at the head of a class, which stand for themselves. -/
def classStart : Reading CharSet := do
  let cs ← ahead
  let hyphens ← leadingHyphens (cs.length + 1) .none
  bracketFirst cs.length hyphens

/-- A class in brackets, as its parts one after the other. -/
theorem bracketed_succ (n : Nat) : bracketed (n + 1) = (do
    skipVerbose
    let inverse ← hat
    let start ← classStart
    let set ← members n none start
    negated inverse (← cased set)) := by
  have hstart : ∀ inverse, (do
      let cs ← ahead
      let hyphens ← leadingHyphens (cs.length + 1) .none
      let start ← match ← ahead with
        | [] => failure
        | c :: rest =>
          let isFirst := rest.length + 1 == cs.length
          if c == ']' && isFirst then do
            goTo rest
            skipVerbose
            guard !(← ahead).isEmpty
            pure (CharSet.single ']')
          else pure hyphens
      let set ← members n none start
      negated inverse (← cased set)) = (do
      let start ← classStart
      let set ← members n none start
      negated inverse (← cased set)) := by
    intro inverse
    unfold classStart bracketFirst
    simp only [bind_assoc]
    congr! with cs hyphens cs'
    split
    · rfl
    · split
      · simp only [bind_assoc, pure_bind]
      · rfl
  rw [bracketed]
  unfold hat
  refine congrArg (skipVerbose >>= ·) (funext fun _ => ?_)
  rw [bind_assoc]
  refine congrArg (ahead >>= ·) (funext fun cs => ?_)
  extract_lets withStart
  have hjoin : ∀ inverse, withStart inverse = _ := hstart
  split
  next rest =>
    rw [if_pos List.head?_cons, bind_assoc]
    refine congrArg (goTo rest >>= ·) (funext fun _ => ?_)
    rw [bind_assoc]
    exact congrArg (skipVerbose >>= ·) (funext fun _ => hjoin true)
  next hother =>
    have hhead : cs.head? ≠ some '^' := by
      intro hhead
      obtain ⟨rest, rfl⟩ := List.head?_eq_some_iff.1 hhead
      exact hother rest rfl
    rw [if_neg hhead]
    exact hjoin false

/-- The hat of a class may be followed by the parenthesis. -/
theorem steady_hat : Steady 0 k hat := by
  unfold hat
  apply Steady.peek_char (c := '^') (by decide)
  · intro rest
    rfl
  · intro cs hcs
    exact if_neg hcs
  · exact steady_skipVerbose.map
  · exact .pure false

/-- A class has to go on behind its start. -/
theorem run_bracketFirst_nil {s : ReadState} (hs : s.rest = []) (length : Nat)
    (hyphens : CharSet) : (bracketFirst length hyphens).run s = none := by
  unfold bracketFirst
  rw [run_bind, run_ahead, hs]
  rfl

/-- Both lengths grow by the parenthesis. -/
theorem steps_bracketFirst (length : Nat) (hyphens : CharSet) (s : ReadState) :
    Steps 0 (k + 1) s (bracketFirst length hyphens) (bracketFirst (length + 1) hyphens) := by
  have hfirst : Steady 0 (k + 1) (do
      skipVerbose
      guard !(← ahead).isEmpty
      return CharSet.single ']') := by
    apply steady_skipVerbose.bind
    intro _ s
    apply Steps.peek
    · intro hs
      apply Steps.of_none rfl
      intro set t hrun
      cases hrun
      simp [ReadState.closed, hs]
    · intro c rest hs
      exact Steady.pure (CharSet.single ']') s
  unfold bracketFirst
  apply Steps.peek
  · intro hs
    apply Steps.of_none rfl
    intro set t hrun
    cases hrun
    simp [ReadState.closed, hs]
  · intro c rest hs
    have hlength : (rest ++ [')']).length + 1 == length + 1 ↔ rest.length + 1 == length := by
      simp
    simp only [Bool.and_eq_true, hlength]
    split
    · apply Steps.goTo (hfirst _)
      simp [hs]
    · exact Steady.pure hyphens s

/-- The start of a class may be followed by the parenthesis. -/
theorem steady_classStart : Steady 0 (k + 1) classStart := by
  intro s
  unfold classStart
  apply Steps.look
  have hlength : (s.rest ++ [')']).length = s.rest.length + 1 := List.length_append
  rw [hlength]
  apply Steps.bind_related (i := 0) (j := 0) (k := k + 1)
  · exact (steady_leadingHyphens _ _ s).congr_left (leadingHyphens_eq (by omega) (by omega) _)
  · intro hyphens t
    exact steps_bracketFirst _ _ _
  · intro hyphens t ht
    rw [run_bracketFirst_nil ht, run_bracketFirst_nil ht]
  · intro hyphens t set u hrun
    exact (steps_bracketFirst (k := k) _ hyphens t).shrinks set u hrun
  · exact le_rfl

/-! ### ASCII classes and operations -/

/-- The name of an ASCII class, up to the signs that end it. -/
def asciiName? (inverse : Bool) (rest : List Char) : Option (Bool × CharSet × List Char) :=
  match rest.dropWhile (· != ':') with
  | ':' :: ']' :: after =>
    (CharSet.ofAsciiName? (String.ofList (rest.takeWhile (· != ':')))).map
      fun set => (inverse, set, after)
  | _ => none

/-- Whether a hat stands before the name of an ASCII class, and what follows it. -/
def asciiHat (cs : List Char) : Bool × List Char :=
  match cs with
  | '^' :: rest => (true, rest)
  | _ => (false, cs)

/-- Without a hat a class of ASCII characters is not inverted. -/
theorem asciiHat_cons_of_ne {c : Char} (hc : c ≠ '^') (cs : List Char) :
    asciiHat (c :: cs) = (false, c :: cs) := by
  unfold asciiHat
  split
  next h => exact absurd (List.cons.inj h).1 hc
  · rfl

/-- The name of a class of ASCII characters comes after its hat. -/
theorem asciiClass?_open (cs : List Char) :
    asciiClass? ('[' :: ':' :: cs) = asciiName? (asciiHat cs).1 (asciiHat cs).2 := rfl

/-- Without a hat the name comes at once. -/
theorem asciiClass?_colon {c : Char} (hc : c ≠ '^') (cs : List Char) :
    asciiClass? ('[' :: ':' :: c :: cs) = asciiName? false (c :: cs) := by
  rw [asciiClass?_open, asciiHat_cons_of_ne hc]

/-- Every class of ASCII characters begins with a bracket and a colon. -/
theorem asciiClass?_other {cs : List Char} (h : ∀ rest, cs ≠ '[' :: ':' :: rest) :
    asciiClass? cs = none := by
  unfold asciiClass?
  split
  next rest => exact absurd rfl (h rest)
  · rfl

/-- A parenthesis behind a class of ASCII characters is left over. -/
theorem asciiName?_append (inverse : Bool) (cs : List Char) :
    asciiName? inverse (cs ++ [')']) =
      (asciiName? inverse cs).map fun (inverse, set, rest) => (inverse, set, rest ++ [')']) := by
  unfold asciiName?
  by_cases hmem : ':' ∈ cs
  · obtain ⟨hname, hafter, -⟩ := upTo_of_mem hmem
    rw [hname, hafter]
    generalize cs.dropWhile (· != ':') = rest
    generalize String.ofList (cs.takeWhile (· != ':')) = name
    split
    next after h =>
      rcases rest with _ | ⟨c, _ | ⟨d, rest⟩⟩
      · simp at h
      · simp at h
      · obtain ⟨rfl, rfl, rfl⟩ := by simpa using h
        show _ = Option.map _ ((CharSet.ofAsciiName? name).map fun set => (inverse, set, rest))
        rw [Option.map_map]
        rfl
    next h =>
      split
      next after => exact (h (after ++ [')']) rfl).elim
      · rfl
  · obtain ⟨hshort, hlong⟩ := upTo_of_not_mem (by decide) hmem
    rw [hshort, hlong]
    rfl

/-- The parenthesis makes or undoes no class of ASCII characters. -/
theorem asciiClass?_append (cs : List Char) :
    asciiClass? (cs ++ [')']) =
      (asciiClass? cs).map fun (inverse, set, rest) => (inverse, set, rest ++ [')']) := by
  by_cases hopen : ∃ rest, cs = '[' :: ':' :: rest
  · obtain ⟨rest, rfl⟩ := hopen
    rcases rest with _ | ⟨c, rest⟩
    · rfl
    · by_cases hc : c = '^'
      · subst hc
        exact asciiName?_append true rest
      · rw [asciiClass?_colon hc]
        exact (asciiClass?_colon hc _).trans (asciiName?_append false (c :: rest))
  · rw [not_exists] at hopen
    rw [asciiClass?_other hopen, asciiClass?_other]
    · rfl
    · intro rest h
      rcases cs with _ | ⟨c, _ | ⟨d, cs⟩⟩
      · simp at h
      · simp at h
      · obtain ⟨rfl, rfl, rfl⟩ := by simpa using h
        exact hopen cs rfl

/-- The name of a class of ASCII characters takes up text. -/
theorem length_of_asciiName? {cs rest : List Char} {inverse inverse' : Bool} {set : CharSet}
    (h : asciiName? inverse cs = some (inverse', set, rest)) : rest.length < cs.length := by
  unfold asciiName? at h
  have hlength := (cs.dropWhile_sublist (· != ':')).length_le
  split at h
  next after hafter =>
    obtain ⟨set', -, heq⟩ := Option.map_eq_some_iff.1 h
    cases heq
    rw [hafter] at hlength
    simp only [List.length_cons] at hlength
    omega
  · cases h

/-- A class of ASCII characters takes up text. -/
theorem length_of_asciiClass? {cs rest : List Char} {inverse : Bool} {set : CharSet}
    (h : asciiClass? cs = some (inverse, set, rest)) : rest.length < cs.length := by
  by_cases hopen : ∃ rest, cs = '[' :: ':' :: rest
  · obtain ⟨cs, rfl⟩ := hopen
    simp only [List.length_cons]
    rcases cs with _ | ⟨c, cs⟩
    · cases h
    · by_cases hc : c = '^'
      · subst hc
        have := length_of_asciiName? h
        simp only [List.length_cons]
        omega
      · rw [asciiClass?_colon hc] at h
        have := length_of_asciiName? h
        omega
  · rw [not_exists] at hopen
    rw [asciiClass?_other hopen] at h
    cases h

/-- The parenthesis makes or undoes no operation between sets. -/
theorem setOperation?_append (cs : List Char) :
    setOperation? (cs ++ [')']) =
      (setOperation? cs).map fun (operation, rest) => (operation, rest ++ [')']) := by
  unfold setOperation?
  rcases cs with _ | ⟨c, _ | ⟨d, cs⟩⟩
  · rfl
  · split
    all_goals simp_all
  · simp only [List.cons_append]
    split <;> simp_all

/-- An operation between sets takes up text. -/
theorem length_of_setOperation? {cs rest : List Char} {operation : SetOperation}
    (h : setOperation? cs = some (operation, rest)) : rest.length < cs.length := by
  unfold setOperation? at h
  split at h <;> cases h <;> simp

section

variable {n : Nat} (hbracketed : ∀ k, Steady 1 k (bracketed n))
  (hmembers : ∀ k left set, Steady 1 k (members n left set))

include hmembers

/-- A class is steady if its members are. -/
theorem steady_bracketed_succ (k : Nat) : Steady 1 k (bracketed (n + 1)) := by
  rw [bracketed_succ]
  apply steady_skipVerbose.bind_next
  intro _
  apply steady_hat.bind_next
  intro inverse
  apply steady_classStart.bind_next
  intro start
  apply (hmembers k none start).bind
  intro set
  apply (steady_cased set).bind
  intro set
  exact steady_negated inverse set

variable (left : Option (SetOperation × CharSet)) (set : CharSet)

/-- A class of ASCII characters and the members behind it. -/
theorem steady_ascii_members (inverse : Bool) (ascii : CharSet) : Steady 1 k (do
    let ascii ← negated inverse (← cased ascii)
    members n left (set.union ascii)) := by
  apply (steady_cased ascii).bind_next
  intro ascii
  apply (steady_negated inverse ascii).bind_next
  intro ascii
  exact hmembers k left _

/-- An operation between sets and the members behind it. -/
theorem steady_operation_members (operation : SetOperation) : Steady 1 k (do
    let left ← complete left set
    members n (some (operation, left)) .none) := by
  apply (steady_complete left set).bind_next
  intro left
  exact hmembers k _ _

/-- A range and the members behind it. -/
theorem steady_range_members : Steady 1 k (do
    let range ← classRange
    members n left (set.union range)) := by
  apply steady_classRange.relax.bind_next
  intro range
  exact hmembers k left _

include hbracketed

/-- A class inside of a class and the members behind it. -/
theorem steady_inner_members : Steady 1 k (do
    let inner ← bracketed n
    members n left (set.union inner)) := by
  apply (hbracketed (k + 1)).relax.bind_next
  intro inner
  exact hmembers k left _

/-- Members are steady if shorter members and classes are. -/
theorem steady_members_succ (k : Nat) : Steady 1 k (members (n + 1) left set) := by
  rw [members]
  apply steady_skipVerbose.bind_next
  intro _ s
  apply Steps.look
  rw [asciiClass?_append, setOperation?_append]
  rcases hascii : asciiClass? s.rest with _ | ⟨inverse, ascii, rest⟩
  · rcases hoperation : setOperation? s.rest with _ | ⟨operation, rest⟩
    · have hrange : Steady 1 k _ := steady_range_members hmembers left set
      rcases hs : s.rest with _ | ⟨c, rest⟩
      · apply Steps.of_none rfl
        intro set' t hrun
        have hleft := (hrange s.closed).shrinks set' t hrun
        simp only [ReadState.closed, hs, List.nil_append, List.length_singleton] at hleft
        omega
      · by_cases hclose : c = ']'
        · subst hclose
          apply Steps.goTo (steady_complete left set _)
          simp [hs]
        · by_cases hopen : c = '['
          · subst hopen
            apply Steps.goTo (steady_inner_members hbracketed hmembers left set _)
            simp [hs]
          · simp only [Option.map_none, List.cons_append]
            split
            next h => cases h
            next h => exact absurd (List.cons.inj h).1 hclose
            next h => exact absurd (List.cons.inj h).1 hopen
            split
            next h => cases h
            next h => exact absurd (List.cons.inj h).1 hclose
            next h => exact absurd (List.cons.inj h).1 hopen
            exact hrange s
    · apply Steps.goTo (steady_operation_members hmembers left set operation _)
      have hlength := length_of_setOperation? hoperation
      omega
  · apply Steps.goTo (steady_ascii_members hmembers left set inverse ascii _)
    have hlength := length_of_asciiClass? hascii
    omega

end

/-- **A class and its members are steady**, and use up the closing bracket. -/
theorem steady_bracketed_members (n : Nat) :
    (∀ k, Steady 1 k (bracketed n)) ∧ ∀ k left set, Steady 1 k (members n left set) := by
  induction n with
  | zero =>
    constructor
    · intro k
      rw [bracketed]
      exact .failure
    · intro k left set
      rw [members]
      exact .failure
  | succ n ih =>
    obtain ⟨hbracketed, hmembers⟩ := ih
    constructor
    · exact steady_bracketed_succ hmembers
    · intro k left set
      exact steady_members_succ hbracketed hmembers left set k

/-- A class is steady, and uses up its brackets. -/
theorem steady_bracketed (n : Nat) : Steady 1 k (bracketed n) :=
  (steady_bracketed_members n).1 k

/-! ### The bound on the depth -/

/-- A bound on the depth of a class that exceeds twice the length of a text may be exchanged for any
other such bound. -/
structure EnoughDepth (n : Nat) : Prop where
  bracketed : ∀ m s, 2 * s.rest.length + 2 ≤ n → 2 * s.rest.length + 2 ≤ m →
    (bracketed n).run s = (bracketed m).run s
  members : ∀ m s left set, 2 * s.rest.length + 1 ≤ n → 2 * s.rest.length + 1 ≤ m →
    (members n left set).run s = (members m left set).run s

variable {n m : Nat} {s : ReadState}

/-- One level more of a class, whose members are bounded already. -/
theorem EnoughDepth.bracketed_succ (h : EnoughDepth n) (hn : 2 * s.rest.length + 1 ≤ n)
    (hm : 2 * s.rest.length + 1 ≤ m) :
    (Reading.bracketed (n + 1)).run s = (Reading.bracketed (m + 1)).run s := by
  rw [Reading.bracketed_succ, Reading.bracketed_succ]
  apply (steady_skipVerbose (k := 0)).run_congr
  intro _ s₁ h₁
  apply (steady_hat (k := 0)).run_congr
  intro inverse s₂ h₂
  apply (steady_classStart (k := 0)).run_congr
  intro start s₃ h₃
  rw [run_bind, run_bind, h.members m s₃ none start (by omega) (by omega)]

/-- One member more, behind which the members are bounded already. -/
theorem EnoughDepth.members_succ (h : EnoughDepth n) (hn : 2 * s.rest.length ≤ n)
    (hm : 2 * s.rest.length ≤ m) (left : Option (SetOperation × CharSet)) (set : CharSet) :
    (Reading.members (n + 1) left set).run s = (Reading.members (m + 1) left set).run s := by
  rw [Reading.members, Reading.members]
  apply (steady_skipVerbose (k := 0)).run_congr
  intro _ t ht
-- every way on uses up a character before the later members, so that the bound holds for them
  have hlater : ∀ (u : ReadState) left set, u.rest.length < t.rest.length →
      (Reading.members n left set).run u = (Reading.members m left set).run u := by
    intro u left set hu
    exact h.members m u left set (by omega) (by omega)
  rw [run_look, run_look]
  rcases hascii : asciiClass? t.rest with _ | ⟨inverse, ascii, rest⟩
  · rcases hoperation : setOperation? t.rest with _ | ⟨operation, rest⟩
    · simp only
      split
      · rfl
      · rfl
      next rest hs =>
        have hlength := congrArg List.length hs
        rw [List.length_cons] at hlength
        rw [run_goTo_bind, run_goTo_bind, run_bind, run_bind,
          h.bracketed m { t with rest } (by simp only; omega) (by simp only; omega)]
        rcases hrun : (Reading.bracketed m).run { t with rest } with _ | ⟨inner, u⟩
        · rfl
        · have hu := (steady_bracketed (k := 0) m _).shrinks inner u hrun
          simp only at hu
          exact hlater u _ _ (by omega)
      · apply (steady_classRange (k := 0)).run_congr
        intro range u hu
        exact hlater u _ _ (by omega)
    · have hlength := length_of_setOperation? hoperation
      simp only
      rw [run_goTo_bind, run_goTo_bind]
      apply (steady_complete (k := 0) left set).run_congr
      intro left u hu
      simp only at hu
      exact hlater u _ _ (by omega)
  · have hlength := length_of_asciiClass? hascii
    simp only
    rw [run_goTo_bind, run_goTo_bind]
    apply (steady_cased (k := 0) ascii).run_congr
    intro ascii u hu
    apply (steady_negated (k := 0) inverse ascii).run_congr
    intro ascii v hv
    simp only at hu
    exact hlater v _ _ (by omega)

/-- **Every large bound on the depth does.** By induction on the bound, one level for each step. -/
theorem enoughDepth (n : Nat) : EnoughDepth n := by
  induction n with
  | zero =>
    constructor
    · intro m s hn
      omega
    · intro m s left set hn
      omega
  | succ n ih =>
    constructor
    · rintro (_ | m) s hn hm
      · omega
      · exact ih.bracketed_succ (by omega) (by omega)
    · rintro (_ | m) s left set hn hm
      · omega
      · exact ih.members_succ (by omega) (by omega) left set

/-- **The bound on the depth of a class does not matter** once it exceeds twice the length of the
text. -/
theorem bracketed_eq (hn : 2 * s.rest.length + 2 ≤ n) (hm : 2 * s.rest.length + 2 ≤ m) :
    (bracketed n).run s = (bracketed m).run s :=
  (enoughDepth n).bracketed m s hn hm

end Reading

end RecordFilter.Pattern
