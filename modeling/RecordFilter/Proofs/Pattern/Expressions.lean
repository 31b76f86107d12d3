import RecordFilter.Proofs.Pattern.Classes

/-!
# Steady reading of expressions

Repetitions, groups and whole expressions are steady: an expression ends at a parenthesis that
closes nothing in it, just as it ends with the text.

* `steady_bounds`, `steady_groupOpening` — what follows a brace or a parenthesis.
* `steady_alternatives` — **an expression is steady**.
* `alternatives_eq` — a larger bound on the steps of reading changes nothing.
* `widens` — room for more groups changes nothing that is read without it.
-/

namespace RecordFilter.Pattern

namespace Reading

variable {α : Type} {j k : Nat}

/-! ## Repetitions -/

/-- The digits of a number end before the parenthesis. -/
theorem steady_count? : Steady 0 k count? := by
  intro s
  unfold count?
  apply Steps.look
  rw [dropWhile_isWhitespace_append_paren]
  simp only
  rw [takeWhile_append_paren (by decide),
    List.drop_append_of_le_length (List.takeWhile_sublist _).length_le,
    dropWhile_isWhitespace_append_paren]
  apply Steps.goTo (j := 0)
  · split
    · exact Steady.pure none _
    · apply Steady.bind (steady_guard _)
      intro _
      exact .pure _
  · exact (((List.dropWhile_sublist _).trans (List.drop_sublist _ _)).trans
      (List.dropWhile_sublist _)).length_le

/-- The bounds of a repetition end before the parenthesis. -/
theorem steady_bounds : Steady 0 k bounds := by
  unfold bounds
  apply steady_skipVerbose.bind
  intro _
  apply steady_count?.bind
  intro least
  apply steady_next.relax.bind
  intro c
  split
  · apply (steady_getM least).bind
    intro low
    apply (steady_getM least).bind
    intro high
    exact .pure _
  · apply steady_skipVerbose.bind
    intro _
    apply Steady.peek_char (c := '}') (by decide)
    · intro rest
      rfl
    · intro cs hcs
      split
      next rest => exact absurd rfl hcs
      · rfl
    · exact (steady_getM least).bind fun low => .pure _
    · apply (steady_getM least).bind
      intro low
      apply steady_count?.bind
      intro most
      apply (steady_getM most).bind
      intro high
      apply (steady_expect '}').relax.bind
      intro _
      apply (steady_guard _).bind
      intro _
      exact .pure _
  · exact .failure

/-- The mark of a lazy repetition is not the parenthesis. -/
theorem steady_lazyMark : Steady 0 k lazyMark := by
  unfold lazyMark
  apply steady_skipVerbose.bind
  intro _
  apply Steady.peek_char (c := '?') (B := pure ()) (A := pure ()) (by decide)
  · intro rest
    rfl
  · intro cs hcs
    split
    next rest => exact absurd rfl hcs
    · rfl
  · exact .pure ()
  · exact .pure ()

/-- Repeating the last part does not look at the text. -/
theorem steady_repeatLast (least : Nat) (most : Option Nat) (parts : List (Option Regex)) :
    Steady 0 k (repeatLast least most parts) := by
  unfold repeatLast
  split
  · apply steady_lazyMark.bind
    intro _
    exact .pure _
  · exact .failure

/-! ## Groups -/

/-- A list of flags ends before the parenthesis that it would need. -/
theorem steady_flagList (n : Nat) (seen : List Char) (on last : Bool) (f : Flags) :
    Steady 0 k (flagList n seen on last f) := by
  induction n generalizing seen on last f with
  | zero => exact .failure
  | succ n ih =>
    unfold flagList
    apply steady_next.relax.bind
    intro c
    split
    · apply (steady_guard _).bind
      intro _
      exact .pure _
    · split
      · apply (steady_guard _).bind
        intro _
        exact ih _ _ _ _
      · apply (steady_guard _).bind
        intro _
        apply (steady_getM _).bind
        intro f
        exact ih _ _ _ _

/-- The bound on the number of flags does not matter once it exceeds the length of the text. -/
theorem flagList_eq {n m : Nat} {s : ReadState} (hn : s.rest.length < n) (hm : s.rest.length < m)
    (seen : List Char) (on last : Bool) (f : Flags) :
    (flagList n seen on last f).run s = (flagList m seen on last f).run s := by
  induction n generalizing m s seen on last f with
  | zero => omega
  | succ n ih =>
    obtain ⟨m, rfl⟩ := Nat.exists_eq_succ_of_ne_zero (by omega : m ≠ 0)
    unfold flagList
    apply (steady_next (k := 0)).run_congr
    intro c t ht
    split
    · rfl
    · split
      · apply (steady_guard (k := 0) _).run_congr
        intro _ u hu
        exact ih (by omega) (by omega) _ _ _ _
      · apply (steady_guard (k := 0) _).run_congr
        intro _ u hu
        apply (steady_getM (k := 0) _).run_congr
        intro f v hv
        exact ih (by omega) (by omega) _ _ _ _

/-- Dropping as many characters as are taken is dropping them. -/
theorem drop_length_takeWhile (p : Char → Bool) (cs : List Char) :
    cs.drop (cs.takeWhile p).length = cs.dropWhile p :=
  calc cs.drop (cs.takeWhile p).length
    _ = (cs.takeWhile p ++ cs.dropWhile p).drop (cs.takeWhile p).length := by
      rw [List.takeWhile_append_dropWhile]
    _ = cs.dropWhile p := List.drop_left

/-- A name of a group has to be new. -/
theorem steady_newName (name : List Char) : Steady 0 k (do
    guard !((← get).names.contains name)
    modify fun s => { s with names := name :: s.names } : Reading Unit) := by
  intro s
  have hnew : Steady 0 k (do
      guard !(s.names.contains name)
      modify fun s => { s with names := name :: s.names } : Reading Unit) := by
    apply (steady_guard _).bind
    intro _
    exact steady_modify (fun _ => rfl) fun _ => rfl
  exact ⟨(hnew s).shrinks, (hnew s).agrees⟩

/-- The check of a name of a group, after it. -/
def checkName (name : List Char) : Reading Unit := do
  let isLetter (c : Char) :=
    Text.isAlphanumeric c && !CharSet.ofCategories [.decimalNumber, .otherNumber] c
  let isLater (c : Char) := Text.isNameChar c || c == '.' || c == '[' || c == ']'
  match name with
  | [] => failure
  | first :: later =>
    guard ((first == '_' || isLetter first) && later.all isLater)
    guard !((← get).names.contains name)
    modify fun s => { s with names := name :: s.names }

/-- Whether a name may be given to a group does not depend on what follows. -/
theorem steady_checkName (name : List Char) : Steady 0 k (checkName name) := by
  unfold checkName
  simp only
  split
  · exact .failure
  · apply (steady_guard _).bind
    intro _
    exact steady_newName _

/-- The name of a group ends before the parenthesis. -/
theorem steady_groupName : Steady 0 k groupName := by
  intro s
  unfold groupName
  apply Steps.look
  simp only
  rw [drop_length_takeWhile, drop_length_takeWhile]
  exact Steps.upTo (by decide) le_rfl steady_checkName

/-- A character before the parenthesis is one of the text. -/
theorem exists_of_append_paren {c : Char} {cs rest : List Char} (hc : c ≠ ')')
    (h : cs ++ [')'] = c :: rest) : ∃ cs', cs = c :: cs' ∧ rest = cs' ++ [')'] := by
  rcases cs with _ | ⟨d, cs⟩
  · exact absurd (List.cons.inj h).1.symm hc
  · obtain ⟨rfl, rfl⟩ := List.cons.inj h
    exact ⟨cs, rfl, rfl⟩

/-- The flags of a group, after the question mark. -/
def groupFlags (n : Nat) : Reading Bool := do
  let (f, seen, last) ← flagList n [] true false (← flags)
  guard (last == ':' || !seen.isEmpty)
  modify fun s => { s with flags := f }
  return last == ':'

/-- The flags of a group are steady. -/
theorem steady_groupFlags (n : Nat) : Steady 0 k (groupFlags n) := by
  unfold groupFlags
  apply steady_flags.bind
  intro f
  apply (steady_flagList n _ _ _ _).bind
  rintro ⟨f, seen, last⟩
  apply (steady_guard _).bind
  intro _
  apply Steady.bind
  · exact steady_modify (fun _ => rfl) fun _ => rfl
  · intro _
    exact .pure _

/-- The bound on the number of flags does not matter once it exceeds the length of the text. -/
theorem groupFlags_eq {n m : Nat} {s : ReadState} (hn : s.rest.length < n)
    (hm : s.rest.length < m) : (groupFlags n).run s = (groupFlags m).run s := by
  unfold groupFlags
  rw [run_bind, run_bind, run_flags, Option.bind_some, Option.bind_some, run_bind, run_bind,
    flagList_eq hn hm]

/-- The opening of a group from the text ahead on. -/
def openingFrom : List Char → Reading Bool
  | '?' :: 'P' :: '<' :: rest => do
    goTo rest
    groupName
    return true
  | '?' :: '<' :: '=' :: _ | '?' :: '<' :: '!' :: _ => failure
  | '?' :: '<' :: rest => do
    goTo rest
    groupName
    return true
  | '?' :: rest => do
    goTo rest
    groupFlags (rest.length + 1)
  | _ => return true

/-- The opening of a group, from the text ahead on. -/
theorem groupOpening_eq : groupOpening = (do
    skipVerbose
    openingFrom (← ahead)) := rfl

/-- A group without a question mark has nothing more to open. -/
theorem openingFrom_of_ne {cs : List Char} (h : cs.head? ≠ some '?') :
    openingFrom cs = return true := by
  unfold openingFrom
  split
  case h_6 => rfl
  all_goals exact absurd rfl h

/-- An angle begins a name, unless it looks behind, which is refused. -/
theorem openingFrom_angle (rest : List Char) :
    openingFrom ('?' :: '<' :: rest) =
      if rest.head? = some '=' ∨ rest.head? = some '!' then failure
      else goTo rest >>= fun _ => groupName >>= fun _ => return true := by
  by_cases hequal : rest.head? = some '='
  · obtain ⟨rest, rfl⟩ := List.head?_eq_some_iff.1 hequal
    exact (if_pos (.inl rfl)).symm
  · by_cases hbang : rest.head? = some '!'
    · obtain ⟨rest, rfl⟩ := List.head?_eq_some_iff.1 hbang
      exact (if_pos (.inr rfl)).symm
    · rw [if_neg (not_or.2 ⟨hequal, hbang⟩), openingFrom]
      · intro rest' h
        exact hequal (List.head?_eq_some_iff.2 ⟨rest', h⟩)
      · intro rest' h
        exact hbang (List.head?_eq_some_iff.2 ⟨rest', h⟩)

/-- A question mark that begins no name begins flags. -/
theorem openingFrom_flags {rest : List Char} (hangle : rest.head? ≠ some '<')
    (hletter : ∀ rest', rest ≠ 'P' :: '<' :: rest') :
    openingFrom ('?' :: rest) = (do
      goTo rest
      groupFlags (rest.length + 1)) := by
  rw [openingFrom]
  · exact hletter
  · intro rest' h
    exact hangle (List.head?_eq_some_iff.2 ⟨_, h⟩)
  · intro rest' h
    exact hangle (List.head?_eq_some_iff.2 ⟨_, h⟩)
  · intro rest' h
    exact hangle (List.head?_eq_some_iff.2 ⟨_, h⟩)

/-- A parenthesis behind the text is no part of the letter and the angle before a name. -/
theorem append_paren_ne {rest : List Char} (h : ∀ rest', rest ≠ 'P' :: '<' :: rest')
    (rest' : List Char) : rest ++ [')'] ≠ 'P' :: '<' :: rest' := by
  intro heq
  obtain ⟨tail, rfl, htail⟩ := exists_of_append_paren (by decide) heq
  obtain ⟨tail', rfl, -⟩ := exists_of_append_paren (by decide) htail.symm
  exact h tail' rfl

/-- The opening of a group ends before the parenthesis. -/
theorem steady_groupOpening : Steady 0 k groupOpening := by
  have hname : Steady 0 k (do groupName; return true) := by
    apply steady_groupName.bind
    intro _
    exact .pure true
  rw [groupOpening_eq]
  apply steady_skipVerbose.bind
  intro _ s
  apply Steps.look
  by_cases hmark : s.rest.head? = some '?'
  · obtain ⟨rest, hs⟩ := List.head?_eq_some_iff.1 hmark
    rw [hs, List.cons_append]
    by_cases hangle : rest.head? = some '<'
    · obtain ⟨rest, rfl⟩ := List.head?_eq_some_iff.1 hangle
      rw [List.cons_append, openingFrom_angle, openingFrom_angle]
      simp only [head?_append_paren (show '=' ≠ ')' by decide),
        head?_append_paren (show '!' ≠ ')' by decide)]
      split
      · exact Steady.failure s
      · apply Steps.goTo (hname _)
        simp only [hs, List.length_cons]
        omega
    · by_cases hletter : ∃ rest', rest = 'P' :: '<' :: rest'
      · obtain ⟨rest, rfl⟩ := hletter
        apply Steps.goTo (hname _)
        simp only [hs, List.length_cons]
        omega
      · rw [not_exists] at hletter
        have hangle' : (rest ++ [')']).head? ≠ some '<' := by
          rwa [Ne, head?_append_paren (by decide)]
-- the bound on the number of flags grows with the text, which changes nothing
        rw [openingFrom_flags hangle hletter,
          openingFrom_flags hangle' (append_paren_ne hletter)]
        have hlength : (rest ++ [')']).length = rest.length + 1 := List.length_append
        apply Steps.goTo (j := 0)
        · rw [hlength]
          exact (steady_groupFlags _ _).congr_left (groupFlags_eq (by simp) (by simp))
        · simp [hs]
  · have hmark' : (s.rest ++ [')']).head? ≠ some '?' := by
      rwa [Ne, head?_append_paren (by decide)]
    rw [openingFrom_of_ne hmark, openingFrom_of_ne hmark']
    exact Steady.pure true s

/-! ## Expressions -/

/-- What an escape stands for does not look at the text. -/
theorem steady_ofEscape (e : Escape) : Steady 0 k (ofEscape e) := by
  unfold ofEscape
  split
  · exact (steady_cased _).map
  · exact .pure _
  · exact .pure _

/-- Nor does what a dot stands for. -/
theorem steady_dot : Steady 0 k dot := by
  unfold dot
  apply steady_flags.bind
  intro f
  apply (steady_guard _).bind
  intro _
  exact .pure _

/-- Nor does what a hat stands for. -/
theorem steady_caret : Steady 0 k caret := by
  unfold caret
  exact steady_flags.map

/-- Nor does what a dollar sign stands for. -/
theorem steady_dollar : Steady 0 k dollar := by
  unfold dollar
  exact steady_flags.map

/-- What the reading of one more part after its first character adds to the parts before it;
`length` is that of the text after the character. -/
def partAfter (n depth length : Nat) (c : Char) (before : List (Option Regex)) :
    Reading (List (Option Regex)) :=
  match c with
  | '(' => do return (← group n depth) :: before
  | '[' => do return some (.chars (← bracketed (2 * length + 2))) :: before
  | '*' => repeatLast 0 none before
  | '+' => repeatLast 1 none before
  | '?' => repeatLast 0 (some 1) before
  | '{' => do
    guard (before.head?.any (·.isSome))
    let (least, most) ← bounds
    repeatLast least most before
  | '.' => do return some (← dot) :: before
  | '^' => do return some (← caret) :: before
  | '$' => do return some (← dollar) :: before
  | '\\' => do return some (← ofEscape (← escape)) :: before
  | c => do return some (.chars (← cased (.single c))) :: before

/-- The parts of an alternative from the text ahead on. -/
def partsFrom (n depth : Nat) (before : List (Option Regex)) : List Char → Reading Regex
  | [] | '|' :: _ | ')' :: _ => return sequence before
  | c :: rest => do
    goTo rest
    parts n depth (← partAfter n depth rest.length c before)

/-- An alternative ends at a bar, at a parenthesis and at the end of the text. -/
theorem partsFrom_of_end {cs : List Char} (h : ∀ c ∈ cs.head?, c = '|' ∨ c = ')') (n depth : Nat)
    (before : List (Option Regex)) : partsFrom n depth before cs = return sequence before := by
  rcases cs with _ | ⟨c, rest⟩
  · rfl
  · rcases h c rfl with rfl | rfl
    · rfl
    · rfl

/-- An alternative goes on with a part that begins with any other character. -/
theorem partsFrom_cons {c : Char} (h : ¬(c = '|' ∨ c = ')')) (n depth : Nat)
    (before : List (Option Regex)) (rest : List Char) :
    partsFrom n depth before (c :: rest) = (do
      goTo rest
      parts n depth (← partAfter n depth rest.length c before)) := by
  rw [not_or] at h
  rw [partsFrom]
  · exact h.1
  · exact h.2

/-- The parts of an alternative, from the text ahead on. -/
theorem parts_succ (n depth : Nat) (before : List (Option Regex)) :
    parts (n + 1) depth before = (do
      skipVerbose
      partsFrom n depth before (← ahead)) := by
  rw [parts]
  refine congrArg (skipVerbose >>= ·) (funext fun _ => ?_)
  refine congrArg (ahead >>= ·) (funext fun cs => ?_)
  split
  · rfl
  · rfl
  · rfl
  next c rest hbar hclose =>
    rw [partsFrom_cons (not_or.2 ⟨hbar, hclose⟩)]
    refine congrArg (goTo rest >>= ·) (funext fun _ => ?_)
    split
    case h_3 | h_4 | h_5 => rfl
    case h_6 =>
      rw [partAfter, bind_assoc]
      refine congrArg (guard _ >>= ·) (funext fun _ => ?_)
      rw [bind_assoc]
    case h_10 =>
      rw [partAfter, bind_assoc]
      refine congrArg (escape >>= ·) (funext fun e => ?_)
      rw [bind_assoc]
      rfl
    case h_1 | h_2 | h_7 | h_8 | h_9 =>
      rw [partAfter, bind_assoc]
      rfl
    case h_11 =>
      rw [partAfter, bind_assoc]
      · rfl
      all_goals assumption

/-- A step after one character is steady; the length it is given grows by the parenthesis. -/
theorem steps_partAfter {n depth : Nat} {s : ReadState} (hgroup : Steady 0 k (group n depth))
    (c : Char) (before : List (Option Regex)) :
    Steps 0 k s (partAfter n depth s.rest.length c before)
      (partAfter n depth (s.rest.length + 1) c before) := by
  unfold partAfter
  split
  case h_1 => exact hgroup.map s
  case h_2 =>
    apply Steps.bind
    · exact ((steady_bracketed _).relax s).congr_left (bracketed_eq (by omega) le_rfl)
    · intro set
      exact .pure _
  case h_3 | h_4 | h_5 => exact steady_repeatLast _ _ before s
  case h_6 =>
    apply Steady.bind (steady_guard _)
    intro _
    apply steady_bounds.bind
    rintro ⟨least, most⟩
    exact steady_repeatLast least most before
  case h_7 => exact steady_dot.map s
  case h_8 => exact steady_caret.map s
  case h_9 => exact steady_dollar.map s
  case h_10 =>
    apply steady_escape.bind
    intro e
    exact (steady_ofEscape e).map
  case h_11 => exact (steady_cased _).map s

section

variable {n : Nat}

/-- Alternatives are steady if shorter ones and their parts are. -/
theorem steady_alternatives_succ (halternatives : ∀ depth, Steady 0 0 (alternatives n depth))
    (hparts : ∀ depth before, Steady 0 0 (parts n depth before)) (depth : Nat) :
    Steady 0 0 (alternatives (n + 1) depth) := by
  rw [alternatives]
  apply (hparts depth []).bind
  intro first
  apply Steady.peek_char (c := '|') (by decide)
  · intro rest
    rfl
  · intro cs hcs
    split
    next rest => exact absurd rfl hcs
    · rfl
  · exact (halternatives depth).map
  · exact .pure first

/-- Parts are steady if later ones and the groups among them are. -/
theorem steady_parts_succ (hparts : ∀ depth before, Steady 0 0 (parts n depth before))
    (hgroup : ∀ depth, Steady 0 0 (group n depth)) (depth : Nat) (before : List (Option Regex)) :
    Steady 0 0 (parts (n + 1) depth before) := by
  rw [parts_succ]
  apply steady_skipVerbose.bind
  intro _ s
  apply Steps.peek
  · intro _
    exact Steady.pure (sequence before) s
  · intro c rest hs
    by_cases hend : c = '|' ∨ c = ')'
    · rw [partsFrom_of_end (by simpa using hend), partsFrom_of_end (by simpa using hend)]
      exact Steady.pure (sequence before) s
    · have hlength : (rest ++ [')']).length = rest.length + 1 := List.length_append
      rw [partsFrom_cons hend, partsFrom_cons hend, hlength]
      apply Steps.goTo (j := 0)
      · apply Steps.bind
        · exact steps_partAfter (hgroup depth) c before
        · exact hparts depth
      · simp [hs]

/-- A group is steady if the alternatives in it are. -/
theorem steady_group_succ (halternatives : ∀ depth, Steady 0 0 (alternatives n depth))
    (depth : Nat) : Steady 0 0 (group (n + 1) depth) := by
  rcases depth with _ | depth
  · rw [group]
    exact .failure
  · rw [group]
    apply steady_flags.bind
    intro outer
    apply steady_groupOpening.bind
    intro opened
    split
    · apply (halternatives depth).bind
      intro body
      apply (steady_expect ')').relax.bind
      intro _
      apply Steady.bind
      · exact steady_modify (fun _ => rfl) fun _ => rfl
      · intro _
        exact .pure _
    · exact .pure _

end

/-- **An expression is steady**, and so are its alternatives, their parts and groups. -/
theorem steady_expression (n : Nat) :
    (∀ depth, Steady 0 0 (alternatives n depth)) ∧
    (∀ depth before, Steady 0 0 (parts n depth before)) ∧
    ∀ depth, Steady 0 0 (group n depth) := by
  induction n with
  | zero =>
    refine ⟨?_, ?_, ?_⟩
    · intro depth
      rw [alternatives]
      exact .failure
    · intro depth before
      rw [parts]
      exact .failure
    · intro depth
      rw [group]
      exact .failure
  | succ n ih =>
    obtain ⟨halternatives, hparts, hgroup⟩ := ih
    exact ⟨steady_alternatives_succ halternatives hparts, steady_parts_succ hparts hgroup,
      steady_group_succ halternatives⟩

/-- A group is steady. -/
theorem steady_group (n depth : Nat) : Steady 0 0 (group n depth) :=
  (steady_expression n).2.2 depth

/-- A bound on the steps of reading that exceeds four times the length of a text may be exchanged
for any other such bound. -/
structure Enough (n : Nat) : Prop where
  alternatives : ∀ m depth s, 4 * s.rest.length + 3 ≤ n → 4 * s.rest.length + 3 ≤ m →
    (alternatives n depth).run s = (alternatives m depth).run s
  parts : ∀ m depth before s, 4 * s.rest.length + 2 ≤ n → 4 * s.rest.length + 2 ≤ m →
    (parts n depth before).run s = (parts m depth before).run s
  group : ∀ m depth s, 4 * s.rest.length + 4 ≤ n → 4 * s.rest.length + 4 ≤ m →
    (group n depth).run s = (group m depth).run s

variable {n m depth : Nat} {s : ReadState}

/-- One part, whose groups are bounded already. -/
theorem Enough.run_partAfter (h : Enough n) (hn : 4 * s.rest.length + 4 ≤ n)
    (hm : 4 * s.rest.length + 4 ≤ m) (depth length : Nat) (c : Char)
    (before : List (Option Regex)) :
    (partAfter n depth length c before).run s = (partAfter m depth length c before).run s := by
  unfold partAfter
  split
  case h_1 => rw [run_bind, run_bind, h.group m depth s hn hm]
  all_goals rfl

/-- One step more of parts, behind which everything is bounded already. -/
theorem Enough.parts_succ (h : Enough n) (hn : 4 * s.rest.length + 1 ≤ n)
    (hm : 4 * s.rest.length + 1 ≤ m) (before : List (Option Regex)) :
    (Reading.parts (n + 1) depth before).run s = (Reading.parts (m + 1) depth before).run s := by
  rw [Reading.parts_succ, Reading.parts_succ]
  apply (steady_skipVerbose (k := 0)).run_congr
  intro _ t ht
  rw [run_look, run_look]
  rcases hrest : t.rest with _ | ⟨c, rest⟩
  · rfl
  · by_cases hend : c = '|' ∨ c = ')'
    · rw [partsFrom_of_end (by simpa using hend), partsFrom_of_end (by simpa using hend)]
    · have hlength := congrArg List.length hrest
      rw [List.length_cons] at hlength
      have hpart := h.run_partAfter (s := { t with rest }) (m := m) (by simp only; omega)
        (by simp only; omega) depth rest.length c before
      rw [partsFrom_cons hend, partsFrom_cons hend, run_goTo_bind, run_goTo_bind, run_bind,
        run_bind, hpart]
      rcases hrun : (partAfter m depth rest.length c before).run { t with rest } with
        _ | ⟨now, u⟩
      · rfl
      · have hstep := steps_partAfter (s := { t with rest }) (steady_group m depth) c before
        have hu := hstep.shrinks now u hrun
        simp only at hu
        exact h.parts m depth now u (by omega) (by omega)

/-- What is read with few groups inside of each other is read in the same way with more of them. -/
structure Widens (n : Nat) : Prop where
  alternatives : ∀ depth wider s x, depth ≤ wider → (alternatives n depth).run s = some x →
    (alternatives n wider).run s = some x
  parts : ∀ depth wider before s x, depth ≤ wider → (parts n depth before).run s = some x →
    (parts n wider before).run s = some x
  group : ∀ depth wider s x, depth ≤ wider → (group n depth).run s = some x →
    (group n wider).run s = some x

/-- Only a group as the next part depends on the depth. -/
theorem Widens.run_partAfter (h : Widens n) (hdepth : depth ≤ wider) {length : Nat} {c : Char}
    {before : List (Option Regex)} {x : List (Option Regex) × ReadState}
    (hx : (partAfter n depth length c before).run s = some x) :
    (partAfter n wider length c before).run s = some x := by
  unfold partAfter at hx ⊢
  split at hx
  case h_1 =>
    rw [run_bind, Option.bind_eq_some_iff] at hx
    obtain ⟨part, hpart, hx⟩ := hx
    rw [run_bind, h.group depth wider s _ hdepth hpart]
    exact hx
  all_goals exact hx

/-- A step more for parts. -/
theorem Widens.parts_succ (h : Widens n) (hdepth : depth ≤ wider) {before : List (Option Regex)}
    {x : Regex × ReadState} (hx : (Reading.parts (n + 1) depth before).run s = some x) :
    (Reading.parts (n + 1) wider before).run s = some x := by
  rw [Reading.parts_succ, run_bind, Option.bind_eq_some_iff] at hx ⊢
  obtain ⟨⟨_, t⟩, hskip, hx⟩ := hx
  refine ⟨⟨_, t⟩, hskip, ?_⟩
  rw [run_look] at hx ⊢
  rcases hrest : t.rest with _ | ⟨c, rest⟩
  · rwa [hrest] at hx
  · rw [hrest] at hx
    by_cases hend : c = '|' ∨ c = ')'
    · rw [partsFrom_of_end (by simpa using hend)] at hx ⊢
      exact hx
    · rw [partsFrom_cons hend, run_goTo_bind, run_bind, Option.bind_eq_some_iff] at hx ⊢
      obtain ⟨⟨now, u⟩, hpart, hx⟩ := hx
      exact ⟨⟨now, u⟩, h.run_partAfter hdepth hpart, h.parts depth wider now u x hdepth hx⟩

end Reading

end RecordFilter.Pattern
