import RecordFilter.Proofs.Builder.Core
import RecordFilter.Proofs.Resolution.Taking

/-!
# A marker in the place of a literal

A literal is replaced by a marker, and its value is bound to the marker. All other tokens read the
same values as before; the marker reads the value of the literal.

* `KeywordPair.Replaces`, `Token.Replaces` — the replacement, in a keyword segment or of a word.
* `Resolving.each_replace` — one step of a row is replaced and the values shift with it.
* `Token.resolveAll_of_replaces` — **resolution of both lists**: it fails alike, or gives the same
  resolved tokens, where a word may stand as a word or as its value.
-/

namespace RecordFilter

/-! ## Replacements -/

/-- **A keyword's value, or a bare key, is replaced by a marker**, after so many markers `?` of its
own entry. -/
inductive KeywordPair.Replaces (literal : String) (marker : Marker) :
    (index : Nat) → KeywordPair → KeywordPair → Prop
  | value (key : String) :
      Replaces literal marker (KeywordPair.positionalCount ⟨key, none⟩) ⟨key, some literal⟩
        ⟨key, some marker.text⟩
  | key : Replaces literal marker 0 ⟨literal, none⟩ ⟨marker.text, none⟩

/-- **A literal is replaced by a marker** in a token, after so many markers `?` of that token: a
word, or a text inside a keyword segment that is no marker itself. -/
inductive Token.Replaces (literal : String) (marker : Marker) :
    (index : Nat) → Token → Token → Prop
  | word : Replaces literal marker 0 (.word literal) marker.token
  | keywords {index : Nat} {old new : KeywordPair} (before after : List KeywordPair)
      (hliteral : Marker.ofWord? literal = .ok none)
      (hmarker : Marker.ofWord? marker.text = .ok (some marker))
      (hpair : KeywordPair.Replaces literal marker index old new) :
      Replaces literal marker (total KeywordPair.positionalCount before + index)
        (.keywords (before ++ old :: after)) (.keywords (before ++ new :: after))

/-! ## Rows of steps -/

namespace Resolving

variable {α β : Type}

/-- **Two outcomes of a step are alike**: the same error, or related results and the same values
left. -/
def Alike (R : β → β → Prop) (x y : Except Error (β × List Json)) : Prop :=
  (∃ e, x = .error e ∧ y = .error e) ∨
    ∃ b b' left, x = .ok (b, left) ∧ y = .ok (b', left) ∧ R b b'

/-- Equal outcomes are alike. -/
theorem Alike.of_eq {x y : Except Error (β × List Json)} (h : x = y) : Alike (· = ·) x y := by
  subst h
  cases x with
  | error e => exact .inl ⟨e, rfl, rfl⟩
  | ok r => exact .inr ⟨r.1, r.1, r.2, rfl, rfl, rfl⟩

/-- Outcomes that are alike up to a relation are alike up to a weaker one. -/
theorem Alike.imp {R S : β → β → Prop} (hRS : ∀ {b b'}, R b b' → S b b')
    {x y : Except Error (β × List Json)} (h : Alike R x y) : Alike S x y := by
  rcases h with ⟨e, hx, hy⟩ | ⟨b, b', left, hx, hy, hR⟩
  · exact .inl ⟨e, hx, hy⟩
  · exact .inr ⟨b, b', left, hx, hy, hRS hR⟩

/-- **One step of a row is replaced.** The steps before it take the same values; it takes its own,
and the steps after it go on with the values that both leave. -/
theorem each_replace {R : β → β → Prop} {f g : α → Resolving β} {before after : List α}
    (hbefore : ∀ a ∈ before, f a = g a) (hafter : ∀ a ∈ after, f a = g a) {n : Nat}
    (htakes : Takes (each f before) n) {taken : List Json} (htaken : taken.length = n) {a a' : α}
    {left left' : List Json} (h : Alike R (f a left) (g a' left')) :
    Alike (fun bs bs' => ∃ cs b b' ds, each f before taken = .ok (cs, []) ∧
        bs = cs ++ b :: ds ∧ bs' = cs ++ b' :: ds ∧ R b b')
      (each f (before ++ a :: after) (taken ++ left))
      (each g (before ++ a' :: after) (taken ++ left')) := by
  obtain ⟨result, hresult⟩ := htakes taken htaken
  have hf := hresult left
  have hg := hresult left'
  have hnone := hresult []
  rw [each_congr hbefore] at hg
  rw [List.append_nil] at hnone
  cases result with
  | error e =>
    rw [each_append_of_error hf, each_append_of_error hg]
    exact .inl ⟨e, rfl, rfl⟩
  | ok cs =>
    rw [each_append_of_ok hf, each_append_of_ok hg]
    rcases h with ⟨e, hx, hy⟩ | ⟨b, b', mid, hx, hy, hR⟩
    · rw [each_cons_of_error hx, each_cons_of_error hy]
      exact .inl ⟨e, rfl, rfl⟩
    · rw [each_cons_of_ok hx, each_cons_of_ok hy, each_congr hafter]
      cases each g after mid with
      | error e => exact .inl ⟨e, rfl, rfl⟩
      | ok r =>
        exact .inr ⟨_, _, r.2, rfl, rfl, cs, b, b', r.1, hnone, rfl, rfl, hR⟩

/-- A replaced step that gives the same result does not show in the row. -/
theorem each_replace_eq {f g : α → Resolving β} {before after : List α}
    (hbefore : ∀ a ∈ before, f a = g a) (hafter : ∀ a ∈ after, f a = g a) {n : Nat}
    (htakes : Takes (each f before) n) {taken : List Json} (htaken : taken.length = n) {a a' : α}
    {left left' : List Json} (h : f a left = g a' left') :
    each f (before ++ a :: after) (taken ++ left) =
      each g (before ++ a' :: after) (taken ++ left') := by
  rcases each_replace hbefore hafter htakes htaken (Alike.of_eq h) with
    ⟨e, hx, hy⟩ | ⟨bs, bs', last, hx, hy, cs, b, b', ds, -, rfl, rfl, rfl⟩
  · rw [hx, hy]
  · rw [hx, hy]

end Resolving

/-! ## Keyword segments -/

section

variable (bindings : Bindings) (defaults : Dict Json) {literal : String} {marker : Marker}
  {index : Nat}

/-- **The marker in an entry** gives the argument that the literal gave. -/
theorem KeywordPair.resolve_of_replaces {old new : KeywordPair}
    (hliteral : Marker.ofWord? literal = .ok none)
    (hmarker : Marker.ofWord? marker.text = .ok (some marker))
    (h : Replaces literal marker index old new) {taken : List Json} (htaken : taken.length = index)
    (place : Nat) (left : List Json) :
    old.resolve bindings defaults (taken ++ left) =
      new.resolve (bindings.bindAt marker place (Json.ofLiteral literal)) defaults
        (taken ++ marker.supply (Json.ofLiteral literal) left) := by
  cases h with
  | value key =>
    unfold KeywordPair.resolve
    dsimp only
    cases hkey : Marker.ofWord? key with
    | error e => rfl
    | ok marker? =>
      cases marker? with
      | some other => rfl
      | none =>
        have hindex : KeywordPair.positionalCount ⟨key, none⟩ = 0 := by
          simp [KeywordPair.positionalCount, isPositionalMarker_of_ofWord? hkey]
        rw [hindex] at htaken
        obtain rfl := List.length_eq_zero_iff.1 htaken
        simp only [hliteral, hmarker, List.nil_append]
        exact (Marker.take_bindAt_self_map bindings defaults place _ _ left).symm
  | key =>
    obtain rfl := List.length_eq_zero_iff.1 htaken
    unfold KeywordPair.resolve
    simp only [hliteral, hmarker, List.nil_append]
    exact (Marker.take_bindAt_self_map bindings defaults place _ _ left).symm

/-- A replaced entry has one placeholder more, if the marker is positional. -/
theorem KeywordPair.positionalCount_of_replaces {old new : KeywordPair}
    (hliteral : Marker.ofWord? literal = .ok none)
    (hmarker : Marker.ofWord? marker.text = .ok (some marker))
    (h : Replaces literal marker index old new) :
    index ≤ old.positionalCount ∧
      new.positionalCount = old.positionalCount + marker.token.positionalCount := by
  have hold := isPositionalMarker_of_ofWord? hliteral
  have hnew := isPositionalMarker_of_ofWord? hmarker
  cases h with
  | value key =>
    cases hkey : isPositionalMarker key <;>
      cases marker <;> simp_all [KeywordPair.positionalCount, Marker.token, Token.positionalCount]
  | key =>
    cases marker <;> simp_all [KeywordPair.positionalCount, Marker.token, Token.positionalCount]

end

/-! ## Tokens -/

namespace Token

section

variable (bindings : Bindings) (defaults : Dict Json) {literal : String} {marker : Marker}
  {index : Nat} {old new : Token}

/-- A replaced token counts the markers `?` of the literal's token and that of the marker. -/
theorem positionalCount_of_replaces (h : Replaces literal marker index old new) :
    index ≤ old.positionalCount ∧
      new.positionalCount = old.positionalCount + marker.token.positionalCount := by
  cases h with
  | word =>
    refine ⟨Nat.le_refl 0, ?_⟩
    show marker.token.positionalCount = 0 + marker.token.positionalCount
    omega
  | @keywords index old new before after hliteral hmarker hpair =>
    obtain ⟨hle, hcount⟩ := KeywordPair.positionalCount_of_replaces hliteral hmarker hpair
    have hsum (pair : KeywordPair) : (keywords (before ++ pair :: after)).positionalCount =
        total KeywordPair.positionalCount before +
          (pair.positionalCount + total KeywordPair.positionalCount after) :=
      total_append_cons KeywordPair.positionalCount before pair after
    rw [hsum, hsum, hcount]
    omega

/-- What a replaced token resolves to: the same, or the literal's value in place of the word. -/
def Stands (literal : String) (old : Token) (b b' : Bound) : Prop :=
  b = b' ∨ old = .word literal ∧ b = .term (.word literal) ∧
    b' = .term (.value (Json.ofLiteral literal))

/-- **The marker in a token** gives what the literal gave. -/
theorem resolve_of_replaces (h : Replaces literal marker index old new)
    (hfresh : marker ≠ .positional → marker ∉ old.markers) {taken : List Json}
    (htaken : taken.length = index) (place : Nat) (left : List Json) :
    Resolving.Alike (Stands literal old) (old.resolve bindings defaults (taken ++ left))
      (new.resolve (bindings.bindAt marker place (Json.ofLiteral literal)) defaults
        (taken ++ marker.supply (Json.ofLiteral literal) left)) := by
  cases h with
  | word =>
    obtain rfl := List.length_eq_zero_iff.1 htaken
    have hnew :
        marker.token.resolve (bindings.bindAt marker place (Json.ofLiteral literal)) defaults
            (marker.supply (Json.ofLiteral literal) left) =
          .ok (.term (.value (Json.ofLiteral literal)), left) := by
      cases marker <;>
        exact Marker.take_bindAt_self_map bindings defaults place _
          (fun value => Bound.term (.value value)) left
    exact .inr ⟨_, _, left, rfl, hnew, .inr ⟨rfl, rfl, rfl⟩⟩
  | @keywords index old new before after hliteral hmarker hpair =>
    have hpairs : ∀ pair ∈ before ++ old :: after,
        pair.resolve bindings defaults =
          pair.resolve (bindings.bindAt marker place (Json.ofLiteral literal)) defaults := by
      intro pair hmem
      refine (KeywordPair.resolve_bindAt bindings defaults place _ fun hne hin => ?_).symm
      exact hfresh hne (List.mem_flatMap.2 ⟨pair, hmem, hin⟩)
    obtain ⟨first, second, rfl, hfirst, hsecond⟩ := exists_append_of_length_eq_add htaken
    have hrow := Resolving.each_replace_eq
      (fun pair hmem => hpairs pair (List.mem_append_left _ hmem))
      (fun pair hmem => hpairs pair (List.mem_append_right _ (List.mem_cons_of_mem _ hmem)))
      (Resolving.spends_each (KeywordPair.spends_resolve bindings defaults) before).takes hfirst
      (KeywordPair.resolve_of_replaces bindings defaults hliteral hmarker hpair hsecond place left)
    refine Resolving.Alike.imp .inl (Resolving.Alike.of_eq ?_)
    show Resolving.bind _ _ _ = Resolving.bind _ _ _
    rw [Resolving.bind, Resolving.bind, List.append_assoc, List.append_assoc, hrow]

/-! ## Lists -/

/-- Binding a positional marker adds one value. -/
theorem length_positional_bindAt (marker : Marker) (place : Nat) (value : Json) :
    (bindings.bindAt marker place value).positional.length =
      bindings.positional.length + marker.token.positionalCount := by
  cases marker with
  | positional =>
    show (bindings.positional.take place ++ value :: bindings.positional.drop place).length = _
    simp only [List.length_append, List.length_take, List.length_cons, List.length_drop]
    show _ = bindings.positional.length + 1
    omega
  | named name => rfl

/-- The positional values, cut where the marker's own value is put. -/
theorem exists_positional_bindAt (marker : Marker) {place : Nat}
    (hplace : place ≤ bindings.positional.length) (value : Json) :
    ∃ taken left, bindings.positional = taken ++ left ∧ taken.length = place ∧
      (bindings.bindAt marker place value).positional = taken ++ marker.supply value left := by
  refine ⟨bindings.positional.take place, bindings.positional.drop place,
    (List.take_append_drop place _).symm, List.length_take_of_le hplace, ?_⟩
  cases marker with
  | positional => rfl
  | named name => exact (List.take_append_drop place _).symm

/-- **Resolution with a marker in the place of a literal**: it fails with an error of the same kind,
or gives the same resolved tokens, or those with the value of the word in its place. -/
theorem resolveAll_of_replaces (h : Replaces literal marker index old new)
    (before after : List Token)
    (hfresh : marker ≠ .positional → ∀ token ∈ before ++ old :: after, marker ∉ token.markers) :
    Agree
      (fun bs bs' => bs = bs' ∨ old = .word literal ∧ ∃ taken cs ds,
        Resolving.each (resolve bindings defaults) before taken = .ok (cs, []) ∧
        bs = cs ++ .term (.word literal) :: ds ∧
        bs' = cs ++ .term (.value (Json.ofLiteral literal)) :: ds)
      (resolveAll bindings defaults (before ++ old :: after))
      (resolveAll
        (bindings.bindAt marker (total positionalCount before + index) (Json.ofLiteral literal))
        defaults (before ++ new :: after)) := by
  obtain ⟨hle, hcount⟩ := positionalCount_of_replaces h
  have htotal (token : Token) :
      ((before ++ token :: after).map positionalCount).foldr (· + ·) 0 =
        total positionalCount before + (token.positionalCount + total positionalCount after) :=
    total_append_cons positionalCount before token after
  rw [resolveAll, resolveAll, length_positional_bindAt]
  simp only [htotal]
  generalize hplace : total positionalCount before + index = place
  by_cases hexpected : total positionalCount before +
      (old.positionalCount + total positionalCount after) = bindings.positional.length
  · rw [if_neg (by omega), if_neg (by omega)]
    obtain ⟨taken, left, hpositional, htaken, hpositional'⟩ := exists_positional_bindAt bindings
      marker (by omega : place ≤ bindings.positional.length) (Json.ofLiteral literal)
-- the values are cut where the new one goes in: those before the place and those behind it
    obtain ⟨first, second, rfl, hfirst, hsecond⟩ :=
      exists_append_of_length_eq_add (htaken.trans hplace.symm)
    have hothers : ∀ token ∈ before ++ old :: after,
        token.resolve bindings defaults =
          token.resolve (bindings.bindAt marker place (Json.ofLiteral literal)) defaults :=
      fun token hmem =>
        (resolve_bindAt bindings defaults place _ fun hne => hfresh hne token hmem).symm
    have hrow := Resolving.each_replace
      (fun token hmem => hothers token (List.mem_append_left _ hmem))
      (fun token hmem => hothers token (List.mem_append_right _ (List.mem_cons_of_mem _ hmem)))
      (Resolving.spends_each (spends_resolve bindings defaults) before).takes hfirst
      (resolve_of_replaces bindings defaults h
        (fun hne => hfresh hne old (List.mem_append_right _ List.mem_cons_self)) hsecond place left)
    rw [hpositional, hpositional', List.append_assoc, List.append_assoc]
    rcases hrow with ⟨e, hx, hy⟩ | ⟨bs, bs', last, hx, hy, cs, b, b', ds, hcs, rfl, rfl, hR⟩
    · rw [hx, hy]
      exact .error rfl
    · rw [hx, hy]
      refine .ok ?_
      rcases hR with rfl | ⟨hold, rfl, rfl⟩
      · exact .inl rfl
      · exact .inr ⟨hold, first, cs, ds, hcs, rfl, rfl⟩
-- a wrong number of values stays wrong by the same amount
  · rw [if_pos (by omega), if_pos (by omega)]
    exact .error rfl

end

end Token

end RecordFilter
