import Mathlib.Tactic
import RecordFilter.Pattern.Reader

/-!
# Reading with a parenthesis behind the text

A pattern may stand inside of a group: then a `)` follows its text. A step of reading is *steady*
when that parenthesis changes nothing: a reading that succeeds gives the same result with it, and
one that fails for want of text leaves next to nothing when the parenthesis lets it go on. The one
way to lose the parenthesis is a comment that reaches to the end of the text.

* `Reading.Steps` — what two runs from one state, without and with the parenthesis, agree in.
* `Reading.Steady` — a step for which every pair of runs agrees.
* `Steady.bind`, `Steps.peek`, `Steps.goTo` — rules for the constructs that readers are made of.
-/

namespace RecordFilter.Pattern

/-- The state with a closing parenthesis behind its text. -/
def ReadState.closed (s : ReadState) : ReadState := { s with rest := s.rest ++ [')'] }

/-- What the parenthesis leads to from where a reading ended without it: it still stands behind the
rest, or it went with a comment and nothing is left in either case. -/
inductive ReadState.Continues (s : ReadState) : ReadState → Prop
  | closed : s.Continues s.closed
  | ended (h : s.rest = []) : s.Continues s

namespace Reading

variable {α β : Type} {j k : Nat} {s : ReadState} {M M' : Reading α} {f : α → Reading β}

/-! ## Runs of the constructs -/

/-- A sequence runs its second part from where the first has ended. -/
theorem run_bind (M : Reading α) (f : α → Reading β) (s : ReadState) :
    (M >>= f).run s = (M.run s).bind fun p => (f p.1).run p.2 := rfl

/-- A plain result reads nothing. -/
theorem run_pure (a : α) (s : ReadState) : (pure a : Reading α).run s = some (a, s) := rfl

/-- A failure reads nothing and has no result. -/
theorem run_failure (s : ReadState) : (failure : Reading α).run s = none := rfl

/-- Looking ahead gives the text and leaves it. -/
theorem run_ahead (s : ReadState) : ahead.run s = some (s.rest, s) := rfl

/-- Looking at the flags leaves the state. -/
theorem run_flags (s : ReadState) : flags.run s = some (s.flags, s) := rfl

/-- Going to a text leaves it ahead, and everything else as it is. -/
theorem run_goTo (cs : List Char) (s : ReadState) :
    (goTo cs).run s = some ((), { s with rest := cs }) := rfl

/-- A reading that goes on by the text ahead. -/
theorem run_look (f : List Char → Reading α) (s : ReadState) :
    (ahead >>= f).run s = (f s.rest).run s := rfl

/-- A reading that goes on at a text. -/
theorem run_goTo_bind (cs : List Char) (f : Unit → Reading α) (s : ReadState) :
    (goTo cs >>= f).run s = (f ()).run { s with rest := cs } := rfl

/-! ## Agreement of two outcomes -/

/-- Agreement of an outcome without the parenthesis and one with it. A reading that only the
parenthesis lets go on leaves at most `k` characters. -/
inductive Agree (k : Nat) : Option (α × ReadState) → Option (α × ReadState) → Prop
  | both (a : α) {t t' : ReadState} (h : t.Continues t') : Agree k (some (a, t)) (some (a, t'))
  | neither : Agree k none none
  | late (a : α) {t : ReadState} (h : t.rest.length ≤ k) : Agree k none (some (a, t))

/-- What two readings from a state, the second with the parenthesis, have to do with each other: the
first uses up at least `j` characters, and the outcomes agree. -/
structure Steps (j k : Nat) (s : ReadState) (M M' : Reading α) : Prop where
  shrinks : ∀ a t, M.run s = some (a, t) → t.rest.length + j ≤ s.rest.length
  agrees : Agree k (M.run s) (M'.run s.closed)

/-- **A steady step of reading**: the parenthesis changes nothing, wherever the step starts. -/
def Steady (j k : Nat) (M : Reading α) : Prop := ∀ s, Steps j k s M M

/-- Readings that agree still do if less is asked of them. -/
theorem Steps.weaken {j' k' : Nat} (h : Steps j k s M M') (hj : j' ≤ j) (hk : k ≤ k') :
    Steps j' k' s M M' := by
  obtain ⟨hshrinks, hagrees⟩ := h
  constructor
  · intro a t hrun
    have := hshrinks a t hrun
    omega
  · generalize M.run s = o at hagrees
    generalize M'.run s.closed = o' at hagrees
    cases hagrees with
    | both a h => exact .both a h
    | neither => exact .neither
    | late a h => exact .late a (h.trans hk)

/-- A steady reading is steady if less is asked of it. -/
theorem Steady.weaken {j' k' : Nat} (h : Steady j k M) (hj : j' ≤ j) (hk : k ≤ k') :
    Steady j' k' M :=
  fun s => (h s).weaken hj hk

/-- A steady reading need not use up anything. -/
theorem Steady.relax (h : Steady j k M) : Steady 0 k M :=
  h.weaken (Nat.zero_le j) le_rfl

/-- The first reading may be exchanged for one with the same run. -/
theorem Steps.congr_left {M₁ : Reading α} (h : Steps j k s M M') (hrun : M.run s = M₁.run s) :
    Steps j k s M₁ M' :=
  ⟨hrun ▸ h.shrinks, hrun ▸ h.agrees⟩

/-! ## Rules -/

/-- A reading that fails without the parenthesis agrees with every one that leaves little. -/
theorem Steps.of_none (h : M.run s = none)
    (hlate : ∀ a t, M'.run s.closed = some (a, t) → t.rest.length ≤ k) : Steps j k s M M' := by
  constructor
  · intro a t hrun
    rw [h] at hrun
    cases hrun
  · rw [h]
    rcases hrun : M'.run s.closed with _ | ⟨a, t⟩
    · exact .neither
    · exact .late a (hlate a t hrun)

/-- One reading after another, where the ways to go on may differ as well. If the first reading
needed the parenthesis to go on, the second uses up part of the little that was left. -/
theorem Steps.bind_related {i l : Nat} {f' : α → Reading β} (h : Steps i k s M M')
    (hf : ∀ a t, Steps j l t (f a) (f' a))
    (hended : ∀ a t, t.rest = [] → (f a).run t = (f' a).run t)
    (hshrinks' : ∀ a t b u, (f' a).run t = some (b, u) → u.rest.length + j ≤ t.rest.length)
    (hk : k ≤ l + j) : Steps (i + j) l s (M >>= f) (M' >>= f') := by
  obtain ⟨hshrinks, hagrees⟩ := h
  constructor
  · intro b u hrun
    rw [run_bind, Option.bind_eq_some_iff] at hrun
    obtain ⟨⟨a, t⟩, hfirst, hsecond⟩ := hrun
    have hleft := hshrinks a t hfirst
    have hright := (hf a t).shrinks b u hsecond
    omega
  · rw [run_bind, run_bind]
    generalize M.run s = o at hagrees
    generalize M'.run s.closed = o' at hagrees
    cases hagrees with
    | neither => exact .neither
    | @both a t t' h =>
      cases h with
      | closed => exact (hf a t).agrees
      | ended hend =>
        show Agree l ((f a).run t) ((f' a).run t)
        rw [← hended a t hend]
        rcases hrun : (f a).run t with _ | ⟨b, u⟩
        · exact .neither
        · have hleft := (hf a t).shrinks b u hrun
          rw [hend, List.length_nil] at hleft
          exact .both b (.ended (List.eq_nil_of_length_eq_zero (by omega)))
-- only the parenthesis let the first reading go on, and little is left for the second
    | @late a t h =>
      show Agree l none ((f' a).run t)
      rcases hrun : (f' a).run t with _ | ⟨b, u⟩
      · exact .neither
      · have hleft := hshrinks' a t b u hrun
        exact .late b (by omega)

/-- In a sequence the characters that both readings use up add up. -/
theorem Steps.bind_add {i l : Nat} (h : Steps i k s M M') (hf : ∀ a, Steady j l (f a))
    (hk : k ≤ l + j) : Steps (i + j) l s (M >>= f) (M' >>= f) :=
  h.bind_related (fun a t => hf a t) (fun _ _ _ => rfl)
    (fun a t b u hrun => (hf a t).shrinks b u hrun) hk

/-- A reading that agrees goes on with a steady one. -/
theorem Steps.bind (h : Steps j k s M M') (hf : ∀ a, Steady 0 k (f a)) :
    Steps j k s (M >>= f) (M' >>= f) :=
  h.bind_add hf le_rfl

/-- Steady readings one after the other are steady. -/
theorem Steady.bind (hM : Steady j k M) (hf : ∀ a, Steady 0 k (f a)) : Steady j k (M >>= f) :=
  fun s => (hM s).bind hf

/-- A second reading that uses up a character makes up for one character left by the first. -/
theorem Steady.bind_next (hM : Steady 0 (k + 1) M) (hf : ∀ a, Steady 1 k (f a)) :
    Steady 1 k (M >>= f) :=
  fun s => ((hM s).bind_add hf le_rfl).weaken (by omega) le_rfl

/-- Two ways to go on that agree on all shorter texts agree after a steady reading. -/
theorem Steady.run_congr {f' : α → Reading β} (hM : Steady j k M)
    (h : ∀ a t, t.rest.length + j ≤ s.rest.length → (f a).run t = (f' a).run t) :
    (M >>= f).run s = (M >>= f').run s := by
  rw [run_bind, run_bind]
  rcases hrun : M.run s with _ | ⟨a, t⟩
  · rfl
  · exact h a t ((hM s).shrinks a t hrun)

/-- A reading that is the same without and with the parenthesis, up to the parenthesis itself. -/
theorem Steps.of_some {a : α} {t : ReadState} (hrun : M.run s = some (a, t))
    (hrun' : M'.run s.closed = some (a, t.closed)) (h : t.rest.length + j ≤ s.rest.length) :
    Steps j k s M M' := by
  constructor
  · intro b u hu
    obtain ⟨rfl, rfl⟩ := Prod.mk.inj (Option.some.inj (hrun.symm.trans hu))
    exact h
  · rw [hrun, hrun']
    exact .both a .closed

/-- A plain result is steady. -/
theorem Steady.pure (a : α) : Steady 0 k (Pure.pure a : Reading α) :=
  fun s => .of_some (run_pure a s) (run_pure a s.closed) le_rfl

/-- A steady reading with a changed result is steady. -/
theorem Steady.map {g : α → β} (hM : Steady j k M) : Steady j k (do return g (← M)) :=
  hM.bind fun a => Steady.pure (g a)

/-- A failure is steady. -/
theorem Steady.failure : Steady j k (Alternative.failure : Reading α) := by
  intro s
  apply Steps.of_none (run_failure s)
  intro a t hrun
  cases hrun

/-- Going on at a shorter text. -/
theorem Steps.goTo {i : Nat} {rest : List Char} {p q : Unit → Reading α}
    (h : Steps j k { s with rest } (p ()) (q ())) (hrest : rest.length + i ≤ s.rest.length + j) :
    Steps i k s (goTo rest >>= p) (goTo (rest ++ [')']) >>= q) := by
  obtain ⟨hshrinks, hagrees⟩ := h
  constructor
  · intro a t hrun
    have := hshrinks a t hrun
    simp only at this
    omega
  · exact hagrees

/-- Looking at the text ahead. -/
theorem Steps.look {f f' : List Char → Reading α}
    (h : Steps j k s (f s.rest) (f' (s.rest ++ [')']))) :
    Steps j k s (ahead >>= f) (ahead >>= f') :=
  ⟨h.shrinks, h.agrees⟩

/-- Looking at the text ahead, which has a first character or is empty but for the parenthesis. -/
theorem Steps.peek {f f' : List Char → Reading α}
    (hnil : s.rest = [] → Steps j k s (f []) (f' [')']))
    (hcons : ∀ c rest, s.rest = c :: rest →
      Steps j k s (f (c :: rest)) (f' (c :: (rest ++ [')'])))) :
    Steps j k s (ahead >>= f) (ahead >>= f') := by
  apply Steps.look
  rcases hs : s.rest with _ | ⟨c, rest⟩
  · exact hnil hs
  · exact hcons c rest hs

/-- Going one way after a given character, which is then behind, and another way at all else. -/
theorem Steady.peek_char {c : Char} {f : List Char → Reading α} {A B : Reading α} (hc : c ≠ ')')
    (hchar : ∀ rest, f (c :: rest) = goTo rest >>= fun _ => A)
    (hother : ∀ cs, cs.head? ≠ some c → f cs = B) (hA : Steady 0 k A) (hB : Steady 0 k B) :
    Steady 0 k (ahead >>= f) := by
  intro s
  apply Steps.peek
  · intro _
    rw [hother [] (by simp), hother [')'] (by simpa using Ne.symm hc)]
    exact hB s
  · intro d rest hs
    by_cases hd : d = c
    · subst hd
      rw [hchar, hchar]
      exact (hA { s with rest }).goTo (by simp [hs])
    · rw [hother (d :: rest) (by simpa using hd), hother (d :: (rest ++ [')'])) (by simpa using hd)]
      exact hB s

/-! ## Steps that look at the flags only -/

/-- The flags are the same with the parenthesis. -/
theorem steady_flags : Steady 0 k flags :=
  fun s => .of_some (run_flags s) rfl le_rfl

/-- A reading that goes on by the flags goes on alike with the parenthesis. -/
theorem Steps.flags {g g' : Flags → Reading α} (h : Steps j k s (g s.flags) (g' s.flags)) :
    Steps j k s (Reading.flags >>= g) (Reading.flags >>= g') :=
  ⟨h.shrinks, h.agrees⟩

/-- A condition that does not depend on the text is steady. -/
theorem steady_guard (p : Prop) [Decidable p] : Steady 0 k (guard p : Reading Unit) := by
  unfold guard
  split
  · exact .pure ()
  · exact .failure

/-- A result that does not depend on the text is steady. -/
theorem steady_getM (o : Option α) : Steady 0 k (o.getM : Reading α) := by
  cases o with
  | none => exact .failure
  | some a => exact .pure a

/-- A change of the state that leaves the text alone is steady. -/
theorem steady_modify {g : ReadState → ReadState} (hrest : ∀ s, (g s).rest = s.rest)
    (hclosed : ∀ s, g s.closed = (g s).closed) : Steady 0 k (modify g : Reading Unit) :=
  fun s => .of_some (a := ()) (t := g s) rfl (congrArg (fun t => some ((), t)) (hclosed s))
    (by rw [hrest, Nat.add_zero])

end Reading

end RecordFilter.Pattern
