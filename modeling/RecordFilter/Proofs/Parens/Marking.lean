import RecordFilter.Proofs.Parens.Removal

/-!
# A pass with one open parenthesis

One pass over a token list can be made without looking ahead: it remembers the last parenthesis that
opened, until one closes or an operator comes, and marks a pair when it meets the end of it. What is
marked is left out after the pass.

* `Marking`, `Marking.step`, `Marking.run` — a pass that is under way, its steps, and the steps over
  the rest of a list.
* `Marking.Pending` — what is known of the parenthesis that is open: a pass that looks ahead has
  kept it.
* `Marking.retain_run` — from any place on, what is kept is what the pass with a look ahead keeps.
* `Token.markedPass_eq_stripOnce` — **both passes give the same list.**
-/

namespace RecordFilter.Token

/-- **A pass that is under way.** -/
structure Marking where
  /-- The place of the parenthesis that opened last, if a pair may begin there. -/
  opened : Option Nat
  /-- For each token whether it goes. -/
  removed : List Bool

namespace Marking

/-! ## Steps -/

/-- In the beginning nothing is open and all tokens stay. -/
def start (length : Nat) : Marking := ⟨none, List.replicate length false⟩

/-- Whether the tokens next to a pair let it go. -/
def standsAlone (tokens : List Token) (first last : Nat) : Bool :=
  standsAfter (if first = 0 then none else tokens[first - 1]?) && standsBefore tokens[last + 1]?

/-- **The step over the token at a place.** A pair is marked if there is something in it and it
stands alone. -/
def step (tokens : List Token) (place : Nat) (token : Token) (s : Marking) : Marking :=
  match token with
  | .opening => ⟨some place, s.removed⟩
  | .closing =>
    match s.opened with
    | none => s
    | some first =>
      if first + 1 < place && standsAlone tokens first place then
        ⟨none, (s.removed.set first true).set place true⟩
      else ⟨none, s.removed⟩
  | .operator _ => ⟨none, s.removed⟩
  | _ => s

/-- The steps over the rest of the tokens, from a place on. -/
def run (tokens : List Token) : (place : Nat) → List Token → Marking → Marking
  | _, [], s => s
  | place, token :: rest, s => run tokens (place + 1) rest (s.step tokens place token)

/-- The tokens that are not marked. -/
def retain (tokens : List Token) (removed : List Bool) : List Token :=
  ((tokens.zip removed).filter fun entry => !entry.2).map (·.1)

variable {tokens before plain after rest : List Token} {removed later : List Bool}

/-- Parts of a list are retained one by one. -/
theorem retain_append (h : removed.length = before.length) (rest : List Token)
    (later : List Bool) :
    retain (before ++ rest) (removed ++ later) = retain before removed ++ retain rest later := by
  rw [retain, List.zip_append h.symm, List.filter_append, List.map_append]
  rfl

/-- What is not marked is retained. -/
theorem retain_replicate (tokens : List Token) :
    retain tokens (List.replicate tokens.length false) = tokens := by
  induction tokens with
  | nil => rfl
  | cons token rest ih => exact congrArg (token :: ·) ih

/-- Plain tokens change nothing. -/
theorem step_of_isPlain {token : Token} (h : token.isPlain = true) (tokens : List Token)
    (place : Nat) (s : Marking) : s.step tokens place token = s := by
  cases token with
  | opening | closing | operator _ => cases h
  | word _ | positional | named _ | keywords _ => rfl

/-- A run of plain tokens changes nothing. -/
theorem run_plain_append (hplain : ∀ token ∈ plain, token.isPlain = true) (tokens : List Token)
    (place : Nat) (rest : List Token) (s : Marking) :
    run tokens place (plain ++ rest) s = run tokens (place + plain.length) rest s := by
  induction plain generalizing place with
  | nil => rfl
  | cons token plain ih =>
    rw [List.cons_append, run, step_of_isPlain (hplain token List.mem_cons_self),
      ih (fun token hmem => hplain token (List.mem_cons_of_mem _ hmem)), List.length_cons,
      Nat.add_assoc, Nat.add_comm 1]

/-- Whether a pair stands alone, by the tokens around it. -/
theorem standsAlone_pair (before plain after : List Token) :
    standsAlone (before ++ .opening :: (plain ++ .closing :: after)) before.length
        (before.length + 1 + plain.length) =
      (standsAfter before.getLast? && standsBefore after.head?) := by
  have hbefore : (if before.length = 0 then none else
      (before ++ .opening :: (plain ++ .closing :: after))[before.length - 1]?) =
        before.getLast? := by
    rcases List.eq_nil_or_concat' before with rfl | ⟨init, last, rfl⟩
    · rfl
    · simp
  have hafter : (before ++ .opening :: (plain ++ .closing :: after))[
      before.length + 1 + plain.length + 1]? = after.head? := by
    rw [List.getElem?_append_right (by omega)]
    have hplace : before.length + 1 + plain.length + 1 - before.length = plain.length + 1 + 1 := by
      omega
    rw [hplace, List.getElem?_cons_succ, List.getElem?_append_right (by omega)]
    have hlast : plain.length + 1 - plain.length = 1 := by omega
    rw [hlast, List.getElem?_cons_succ]
    exact (List.head?_eq_getElem? (l := after)).symm
  rw [standsAlone, hbefore, hafter]

/-! ## What is open -/

/-- **What is known of the parenthesis that is open**: only plain tokens have followed it, and
however the list goes on, the pair does not go. -/
def Pending (before rest : List Token) (opened : Option Nat) : Prop :=
  ∀ first, opened = some first → ∃ init plain, before = init ++ .opening :: plain ∧
    first = init.length ∧ (∀ token ∈ plain, token.isPlain = true) ∧
    (standsAfter init.getLast? && closesPlain (plain ++ rest)) = false

/-- Of nothing that is open there is nothing to know. -/
theorem pending_none (before rest : List Token) : Pending before rest none := nofun

/-- A parenthesis that the pass with a look ahead keeps is pending. -/
theorem pending_opening
    (hkept : ¬(standsAfter before.getLast? && closesPlain rest) = true) :
    Pending (before ++ [.opening]) rest (some before.length) := by
  rintro first ⟨⟩
  exact ⟨before, [], rfl, rfl, by simp, Bool.eq_false_iff.2 hkept⟩

/-- What is pending is so after one more plain token. -/
theorem Pending.snoc {opened : Option Nat} {token : Token}
    (h : Pending before (token :: rest) opened) (htoken : token.isPlain = true) :
    Pending (before ++ [token]) rest opened := by
  intro first hfirst
  obtain ⟨init, plain, rfl, rfl, hplain, hstays⟩ := h first hfirst
  refine ⟨init, plain ++ [token], by simp, rfl, ?_, ?_⟩
  · intro other hmem
    rcases List.mem_append.1 hmem with hmem | hmem
    · exact hplain other hmem
    · obtain rfl := List.mem_singleton.1 hmem
      exact htoken
  · rwa [List.append_assoc]

/-- A pending parenthesis that closes is not marked: the pair is empty or does not stand alone. -/
theorem Pending.not_marked {first : Nat} (h : Pending before (.closing :: rest) (some first)) :
    (decide (first + 1 < before.length) &&
      standsAlone (before ++ .closing :: rest) first before.length) = false := by
  obtain ⟨init, plain, rfl, rfl, hplain, hstays⟩ := h first rfl
  have hplace : (init ++ .opening :: plain).length = init.length + 1 + plain.length := by
    rw [List.length_append, List.length_cons]
    omega
  rw [hplace, List.append_assoc, List.cons_append, standsAlone_pair]
  by_cases hne : plain = []
  · simp [hne]
  · have hcloses : closesPlain (plain ++ .closing :: rest) = standsBefore rest.head? := by
      rw [closesPlain, List.dropWhile_append_of_pos hplain, List.takeWhile_append_of_pos hplain]
      simp [isPlain, hne]
    rw [hcloses] at hstays
    rw [hstays, Bool.and_false]

/-- **A step over a token that is kept** marks nothing, and what is open afterwards is pending. -/
theorem step_of_kept {token : Token} {s : Marking}
    (hpending : Pending before (token :: rest) s.opened)
    (hkept : ¬(token = .opening ∧ (standsAfter before.getLast? && closesPlain rest) = true)) :
    ∃ opened, s.step (before ++ token :: rest) before.length token = ⟨opened, s.removed⟩ ∧
      Pending (before ++ [token]) rest opened := by
  cases token with
  | opening => exact ⟨_, rfl, pending_opening fun hgoes => hkept ⟨rfl, hgoes⟩⟩
  | closing =>
    refine ⟨none, ?_, pending_none _ _⟩
    obtain ⟨opened, removed⟩ := s
    cases opened with
    | none => rfl
    | some first =>
      simp only [step, hpending.not_marked]
      rfl
  | operator _ => exact ⟨none, rfl, pending_none _ _⟩
  | word _ | positional | named _ | keywords _ => exact ⟨s.opened, rfl, hpending.snoc rfl⟩

/-! ## Whole passes -/

/-- A pair that goes is marked. -/
theorem run_pair (hne : plain ≠ []) (hplain : ∀ token ∈ plain, token.isPlain = true)
    (hstands : standsAfter before.getLast? = true) (hafter : standsBefore after.head? = true)
    (s : Marking) :
    run (before ++ .opening :: (plain ++ .closing :: after)) before.length
        (.opening :: (plain ++ .closing :: after)) s =
      run (before ++ .opening :: (plain ++ .closing :: after))
        (before.length + 1 + plain.length + 1) after
        ⟨none, (s.removed.set before.length true).set (before.length + 1 + plain.length) true⟩ := by
  have hlength := List.length_pos_iff.2 hne
  have hcond : (decide (before.length + 1 < before.length + 1 + plain.length) &&
      standsAlone (before ++ .opening :: (plain ++ .closing :: after)) before.length
        (before.length + 1 + plain.length)) = true := by
    rw [standsAlone_pair, hstands, hafter]
    simpa using hlength
  rw [run, run_plain_append hplain, run]
  simp only [step, hcond, if_true]

/-- The marks of a pair, where nothing from its beginning on has been marked. -/
theorem set_pair (removed : List Bool) (inside after : Nat) :
    ((removed ++ List.replicate (inside + (after + 1) + 1) false).set removed.length true).set
        (removed.length + 1 + inside) true =
      removed ++ true :: (List.replicate inside false ++ [true]) ++
        List.replicate after false := by
  have hmarks : List.replicate (inside + (after + 1) + 1) false =
      false :: (List.replicate inside false ++ false :: List.replicate after false) := by
    rw [List.replicate_succ, List.replicate_add, List.replicate_succ]
  have hlast : removed.length + 1 + inside - removed.length = inside + 1 := by omega
  rw [hmarks, List.set_append_right _ _ (Nat.le_refl _), Nat.sub_self, List.set_cons_zero,
    List.set_append_right _ _ (by omega), hlast, List.set_cons_succ,
    List.set_append_right _ _ (by simp), List.length_replicate, Nat.sub_self, List.set_cons_zero]
  simp

/-- Of a marked pair its inside is retained. -/
theorem retain_pair (h : removed.length = before.length) (plain : List Token) :
    retain (before ++ .opening :: (plain ++ [.closing]))
        (removed ++ true :: (List.replicate plain.length false ++ [true])) =
      retain before removed ++ plain := by
  rw [retain_append h]
  refine congrArg (retain before removed ++ ·) ?_
  show retain (plain ++ [.closing]) (List.replicate plain.length false ++ [true]) = plain
  rw [retain_append List.length_replicate, retain_replicate]
  exact List.append_nil plain

/-- **From any place on, what is kept is what the pass with a look ahead keeps.** Of the tokens
before the place some are marked, and none of the others. -/
theorem retain_run (previous : Option Token) (rest : List Token) :
    ∀ (before : List Token) (removed : List Bool) (opened : Option Nat),
      before.getLast? = previous → removed.length = before.length → Pending before rest opened →
      retain (before ++ rest) (run (before ++ rest) before.length rest
          ⟨opened, removed ++ List.replicate rest.length false⟩).removed =
        retain before removed ++ stripFrom previous false rest := by
  induction previous, rest using stripFrom_induction with
  | nil previous =>
    intro before removed opened _ _ _
    simp [run, stripFrom]
  | pair previous plain after hne hplain hstands hafter ih =>
    rintro before removed opened rfl hlength _
    have hmarks : (Token.opening :: (plain ++ .closing :: after)).length =
        plain.length + (after.length + 1) + 1 := by
      simp
    have hplace : before.length + 1 + plain.length + 1 =
        (before ++ Token.opening :: (plain ++ [Token.closing])).length := by
      simp
      omega
    have hsplit : before ++ .opening :: (plain ++ .closing :: after) =
        before ++ .opening :: (plain ++ [.closing]) ++ after := by
      simp
    have hlast : (before ++ Token.opening :: (plain ++ [Token.closing])).getLast? =
        some .closing := by
      rw [← List.cons_append, ← List.append_assoc, List.getLast?_concat]
    have hrest := ih (before ++ .opening :: (plain ++ [.closing]))
      (removed ++ true :: (List.replicate plain.length false ++ [true])) none hlast
      (by simp [hlength]) (pending_none _ _)
    rw [run_pair hne hplain hstands hafter, hmarks, ← hlength, set_pair, hlength, hplace, hsplit,
      hrest, retain_pair hlength, stripFrom_pair hne hplain hstands hafter, List.append_assoc]
  | keep previous token rest hkept ih =>
    rintro before removed opened rfl hlength hpending
    obtain ⟨opened', hstep, hpending'⟩ := step_of_kept
      (s := ⟨opened, removed ++ List.replicate (token :: rest).length false⟩) hpending hkept
    have hmarks : removed ++ List.replicate (token :: rest).length false =
        removed ++ [false] ++ List.replicate rest.length false := by
      simp [List.replicate_succ]
    have hplace : before.length + 1 = (before ++ [token]).length := by simp
    have hsplit : before ++ token :: rest = before ++ [token] ++ rest := by simp
    rw [run, hstep, hmarks, hplace, hsplit,
      ih (before ++ [token]) (removed ++ [false]) opened' (by simp) (by simp [hlength]) hpending',
      retain_append hlength, stripFrom_cons_of_not hkept, List.append_assoc]
    rfl

end Marking

/-- **A pass that marks the pairs and then leaves them out.** -/
def markedPass (tokens : List Token) : List Token :=
  Marking.retain tokens (Marking.run tokens 0 tokens (Marking.start tokens.length)).removed

/-- **Both passes give the same list**, with one open parenthesis or with a look ahead. -/
theorem markedPass_eq_stripOnce (tokens : List Token) : markedPass tokens = stripOnce tokens :=
  Marking.retain_run none tokens [] [] none rfl rfl (Marking.pending_none _ _)

end RecordFilter.Token
