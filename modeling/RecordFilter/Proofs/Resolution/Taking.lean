import RecordFilter.Proofs.Resolution.Markers
import RecordFilter.Proofs.Resolution.Shape

/-!
# What resolution reads

Resolving a token takes as many positional values as it has markers `?`, and looks at no others; of
the named values it reads those that its markers name.

* `Resolving.Takes` — a step takes a number of values, and its result depends on them only.
* `Resolving.Spends` — it fails for a marker, or because there are fewer.
* `Token.spends_resolve` — a token spends as many values as it counts markers `?`.
* `Bindings.bindAt` — bindings with one value more, for a marker at a place.
* `Token.resolve_bindAt` — a value for a name that a token has no marker for does not show in it.
-/

namespace RecordFilter

/-! ## Taking values -/

/-- A list of `n + m` values is `n` values and `m` more. -/
theorem exists_append_of_length_eq_add {α : Type} {xs : List α} {n m : Nat}
    (h : xs.length = n + m) :
    ∃ first second, xs = first ++ second ∧ first.length = n ∧ second.length = m :=
  ⟨xs.take n, xs.drop n, (List.take_append_drop n xs).symm,
    by rw [List.length_take]; omega, by rw [List.length_drop]; omega⟩

/-- The sum of a count over a list. -/
def total {α : Type} (count : α → Nat) (as : List α) : Nat := (as.map count).foldr (· + ·) 0

/-- A total over a list, by the parts before and after an element. -/
theorem total_append_cons {α : Type} (count : α → Nat) (before : List α) (a : α)
    (after : List α) :
    total count (before ++ a :: after) = total count before + (count a + total count after) := by
  induction before with
  | nil => exact (Nat.zero_add _).symm
  | cons b rest ih =>
    show count b + total count (rest ++ a :: after) = count b + total count rest + _
    rw [ih, Nat.add_assoc]

/-- An error of this kind is about one marker. -/
def ErrorKind.ConcernsMarker (kind : ErrorKind) : Prop :=
  kind = .invalidMarker ∨ kind = .missingBinding ∨ kind = .invalidKeyword

namespace Resolving

variable {α β : Type} {x : Resolving α} {f : α → Resolving β} {n m : Nat}

/-- **A step takes the first `n` values**: they decide its result, whatever stands after them, and
it leaves what stands there. -/
def Takes (x : Resolving α) (n : Nat) : Prop :=
  ∀ taken : List Json, taken.length = n →
    ∃ result : Except Error α, ∀ left, x (taken ++ left) = result.map fun a => (a, left)

/-- A plain result takes nothing. -/
theorem takes_pure (a : α) : Takes (Pure.pure a : Resolving α) 0 := by
  intro taken htaken
  obtain rfl := List.length_eq_zero_iff.1 htaken
  exact ⟨.ok a, fun left => rfl⟩

/-- A failure takes any number of values. -/
theorem takes_fail (e : Error) (n : Nat) : Takes (fail e : Resolving α) n :=
  fun _ _ => ⟨.error e, fun _ => rfl⟩

/-- A sequence takes what its parts take. -/
theorem Takes.bind (hx : Takes x n) (hf : ∀ a, Takes (f a) m) : Takes (x >>= f) (n + m) := by
  intro taken htaken
  obtain ⟨first, second, rfl, hfirst, hsecond⟩ := exists_append_of_length_eq_add htaken
  obtain ⟨result, hresult⟩ := hx first hfirst
  cases result with
  | error e =>
    refine ⟨.error e, fun left => ?_⟩
    show Resolving.bind x f _ = _
    rw [Resolving.bind, List.append_assoc, hresult]
    rfl
  | ok a =>
    obtain ⟨result, hrest⟩ := hf a second hsecond
    refine ⟨result, fun left => ?_⟩
    show Resolving.bind x f _ = _
    rw [Resolving.bind, List.append_assoc, hresult]
    exact hrest left

/-- **A step spends `n` values**: it takes so many. If it fails, a marker is at fault, or there were
not so many. -/
structure Spends (x : Resolving α) (n : Nat) : Prop where
  takes : x.Takes n
  fault : ∀ left e, x left = .error e →
    e.kind.ConcernsMarker ∨ e.kind = .bindingCount ∧ left.length < n

/-- A plain result spends nothing. -/
theorem spends_pure (a : α) : Spends (Pure.pure a : Resolving α) 0 :=
  ⟨takes_pure a, fun _ _ h => (by cases h)⟩

/-- A failure about a marker spends any number of values. -/
theorem spends_fail {e : Error} (he : e.kind.ConcernsMarker) (n : Nat) :
    Spends (fail e : Resolving α) n := by
  refine ⟨takes_fail e n, fun left e' h => .inl ?_⟩
  obtain rfl := Except.error.inj h
  exact he

/-- A sequence spends what its parts spend. -/
theorem Spends.bind (hx : Spends x n) (hf : ∀ a, Spends (f a) m) : Spends (x >>= f) (n + m) := by
  refine ⟨hx.takes.bind fun a => (hf a).takes, fun left e h => ?_⟩
  change Resolving.bind x f left = _ at h
  unfold Resolving.bind at h
  cases hleft : x left with
  | error e' =>
    rw [hleft] at h
    obtain rfl := Except.error.inj h
    exact (hx.fault left e' hleft).imp_right fun hfew => ⟨hfew.1, by omega⟩
  | ok r =>
    obtain ⟨a, rest⟩ := r
    rw [hleft] at h
    refine ((hf a).fault rest e h).imp_right fun hfew => ⟨hfew.1, ?_⟩
    by_cases hlength : left.length < n
    · omega
    · -- there were enough values for the first step, so it left all but `n` of them
      have hsplit : left.length = n + (left.length - n) := by omega
      obtain ⟨taken, others, rfl, htaken, hothers⟩ := exists_append_of_length_eq_add hsplit
      obtain ⟨result, hresult⟩ := hx.takes taken htaken
      rw [hresult] at hleft
      obtain ⟨-, rfl⟩ : result = .ok a ∧ others = rest := by
        cases result with
        | error e' => cases hleft
        | ok a' =>
          obtain ⟨rfl, rfl⟩ := Prod.mk.inj (Except.ok.inj hleft)
          exact ⟨rfl, rfl⟩
      omega

/-- Steps in a row spend what they spend together. -/
theorem spends_each {count : α → Nat} {f : α → Resolving β} (hf : ∀ a, Spends (f a) (count a))
    (as : List α) : Spends (each f as) (total count as) := by
  induction as with
  | nil => exact spends_pure []
  | cons a rest ih =>
    have hrest (b : β) : Spends (each f rest >>= fun bs => Pure.pure (b :: bs))
        (total count rest) := by
      have hbind := Spends.bind ih fun bs => spends_pure (b :: bs)
      rwa [Nat.add_zero] at hbind
    exact (hf a).bind hrest

end Resolving

/-! ## Markers -/

namespace Marker

/-- The values of the markers `?` that are left once a value for the marker is put in front. -/
def supply (marker : Marker) (value : Json) (left : List Json) : List Json :=
  match marker with
  | .positional => value :: left
  | .named _ => left

end Marker

section

variable (bindings : Bindings) (defaults : Dict Json)

/-- A marker spends one value if it is positional, and none otherwise. -/
theorem Marker.spends_take (marker : Marker) :
    (marker.take bindings defaults).Spends marker.token.positionalCount := by
  cases marker with
  | positional =>
    constructor
    · intro taken htaken
      obtain ⟨value, rfl⟩ := List.length_eq_one_iff.1 htaken
      exact ⟨.ok value, fun left => rfl⟩
    · intro left e h
      cases left with
      | nil =>
        obtain rfl := Except.error.inj h
        exact .inr ⟨rfl, Nat.one_pos⟩
      | cons value rest => cases h
  | named name =>
    unfold Marker.take
    dsimp only
    cases bindings.value? defaults name with
    | some value => exact Resolving.spends_pure value
    | none => exact Resolving.spends_fail (.inr (.inl rfl)) _

/-- So does a marker whose value is changed. -/
theorem Marker.spends_take_map {α : Type} (marker : Marker) (f : Json → α) :
    Resolving.Spends (marker.take bindings defaults >>= fun value => Pure.pure (f value))
      marker.token.positionalCount :=
  (marker.spends_take bindings defaults).bind fun value => Resolving.spends_pure (f value)

/-- **An entry spends as many values as it counts markers `?`.** -/
theorem KeywordPair.spends_resolve (pair : KeywordPair) :
    (pair.resolve bindings defaults).Spends pair.positionalCount := by
  cases pair.reading with
  | fails e hkind hresolve =>
    rw [hresolve]
    exact Resolving.spends_fail (hkind.imp_right .inr) _
  | passes arg hcount hresolve =>
    rw [hresolve, hcount]
    exact Resolving.spends_pure arg
  | takes marker f _ hcount hresolve =>
    rw [hresolve, hcount]
    exact marker.spends_take_map bindings defaults f

/-- **A token spends as many values as it counts markers `?`.** -/
theorem Token.spends_resolve (token : Token) :
    (token.resolve bindings defaults).Spends token.positionalCount := by
  cases token with
  | opening | closing | operator _ | word _ => exact Resolving.spends_pure _
  | positional => exact Marker.spends_take_map bindings defaults .positional _
  | named name => exact Marker.spends_take_map bindings defaults (.named name) _
  | keywords pairs =>
    exact (Resolving.spends_each (KeywordPair.spends_resolve bindings defaults) pairs).bind
      fun args => Resolving.spends_pure _

end

/-! ## One value more -/

namespace Bindings

/-- **Bindings with one value more**: for `?` it stands at a place among the positional values, for
a name it is the name's. -/
def bindAt (bindings : Bindings) (marker : Marker) (index : Nat) (value : Json) : Bindings :=
  match marker with
  | .positional =>
    { bindings with
      positional := bindings.positional.take index ++ value :: bindings.positional.drop index }
  | .named name => { bindings with named := Dict.insert name value bindings.named }

variable (bindings : Bindings) (defaults : Dict Json) (index : Nat) (value : Json)

/-- Binding one marker does not change the value of another. -/
theorem value?_bindAt {marker : Marker} {name : String} (h : marker ≠ .named name) :
    (bindings.bindAt marker index value).value? defaults name = bindings.value? defaults name := by
  cases marker with
  | positional => rfl
  | named other =>
    have hne : name ≠ other := fun heq => h (heq ▸ rfl)
    simp only [bindAt, value?, Dict.find?_insert_of_ne hne]

/-- A name that is bound has its value. -/
theorem value?_bindAt_self (name : String) :
    (bindings.bindAt (.named name) index value).value? defaults name = some value := by
  simp only [bindAt, value?, Dict.find?_insert_self, Option.some_or]

end Bindings

section

variable (bindings : Bindings) (defaults : Dict Json) (index : Nat) (value : Json)
  {marker : Marker}

/-- The marker takes the value that is added for it. -/
theorem Marker.take_bindAt_self (left : List Json) :
    marker.take (bindings.bindAt marker index value) defaults (marker.supply value left) =
      .ok (value, left) := by
  cases marker with
  | positional => rfl
  | named name =>
    unfold Marker.take
    dsimp only
    rw [bindings.value?_bindAt_self defaults index value name]
    rfl

/-- A marker that is bound takes its value, which may then be changed. -/
theorem Marker.take_bindAt_self_map {α : Type} (f : Json → α) (left : List Json) :
    (marker.take (bindings.bindAt marker index value) defaults >>= fun value => Pure.pure (f value))
      (marker.supply value left) = .ok (f value, left) := by
  show Resolving.bind _ _ _ = _
  rw [Resolving.bind, Marker.take_bindAt_self]
  rfl

/-- Other markers read what they read without it. -/
theorem Marker.take_bindAt {other : Marker} (h : marker ≠ .positional → marker ≠ other) :
    other.take (bindings.bindAt marker index value) defaults = other.take bindings defaults := by
  cases other with
  | positional => rfl
  | named name =>
    have hne : marker ≠ .named name := by
      rintro rfl
      exact h nofun rfl
    unfold Marker.take
    dsimp only
    rw [bindings.value?_bindAt defaults index value hne]

/-- Binding a marker changes no entry without it. -/
theorem KeywordPair.resolve_bindAt {pair : KeywordPair}
    (h : marker ≠ .positional → marker ∉ pair.markers) :
    pair.resolve (bindings.bindAt marker index value) defaults =
      pair.resolve bindings defaults := by
  cases pair.reading with
  | fails e _ hresolve => rw [hresolve, hresolve]
  | passes arg _ hresolve => rw [hresolve, hresolve]
  | takes other f hother _ hresolve =>
    have htake : other.take (bindings.bindAt marker index value) defaults =
        other.take bindings defaults :=
      Marker.take_bindAt bindings defaults index value fun hmarker heq => h hmarker (heq ▸ hother)
    rw [hresolve, hresolve, htake]

/-- A row depends on its elements only. -/
theorem Resolving.each_congr {α β : Type} {f g : α → Resolving β} {as : List α}
    (h : ∀ a ∈ as, f a = g a) : each f as = each g as := by
  induction as with
  | nil => rfl
  | cons a rest ih =>
    rw [each, each, h a List.mem_cons_self, ih fun a hmem => h a (List.mem_cons_of_mem _ hmem)]

/-- **A value for another name does not show** in a token. -/
theorem Token.resolve_bindAt {token : Token}
    (h : marker ≠ .positional → marker ∉ token.markers) :
    token.resolve (bindings.bindAt marker index value) defaults =
      token.resolve bindings defaults := by
  cases token with
  | opening | closing | operator _ | word _ => rfl
  | positional =>
    have htake : Marker.positional.take (bindings.bindAt marker index value) defaults =
        Marker.positional.take bindings defaults := rfl
    simp only [resolve, htake]
  | named name =>
    have hname : marker ≠ .positional → marker ≠ .named name := fun hmarker heq =>
      h hmarker (heq ▸ List.mem_singleton_self _)
    simp only [resolve, Marker.take_bindAt bindings defaults index value hname]
  | keywords pairs =>
    have hpairs : ∀ pair ∈ pairs,
        pair.resolve (bindings.bindAt marker index value) defaults =
          pair.resolve bindings defaults := by
      intro pair hpair
      refine KeywordPair.resolve_bindAt bindings defaults index value fun hmarker hmem => ?_
      exact h hmarker (List.mem_flatMap.2 ⟨pair, hpair, hmem⟩)
    simp only [resolve, Resolving.each_congr hpairs]

end

end RecordFilter
