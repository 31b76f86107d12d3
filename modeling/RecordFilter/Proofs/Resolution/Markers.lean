import RecordFilter.Query.Binding

/-!
# Markers of tokens

The markers that a token has, and what resolving an entry of a keyword segment comes to.

* `Marker.text`, `Marker.token` — markers as texts and as tokens.
* `KeywordPair.markers`, `Token.markers` — the markers of an entry and of a token.
* `KeywordPair.Reading`, `KeywordPair.reading` — resolving an entry fails, passes a literal, or
  takes the value of one of its markers.
-/

namespace RecordFilter

/-! ## Markers as texts and tokens -/

namespace Marker

/-- How a marker is written. -/
def text : Marker → String
  | .positional => "?"
  | .named name => ":" ++ name

/-- The token of a marker. -/
def token : Marker → Token
  | .positional => .positional
  | .named name => .named name

/-- The marker that a text is, if it is one. -/
def ofText? (text : String) : Option Marker :=
  match ofWord? text with
  | .ok marker? => marker?
  | .error _ => none

/-- The only error of reading a marker is an ill-formed one. -/
theorem kind_of_ofWord? {word : String} {e : Error} (h : ofWord? word = .error e) :
    e.kind = .invalidMarker := by
  unfold ofWord? at h
  dsimp only at h
  repeat' split at h
  all_goals cases h
  rfl

end Marker

/-- The markers of an entry, its name included. -/
def KeywordPair.markers (pair : KeywordPair) : List Marker :=
  (pair.key :: pair.value.toList).filterMap Marker.ofText?

/-- The markers of a token. -/
def Token.markers : Token → List Marker
  | .positional => [.positional]
  | .named name => [.named name]
  | .keywords pairs => pairs.flatMap KeywordPair.markers
  | _ => []

/-! ## Entries of keyword segments -/

/-- The test for a positional marker agrees with the reading of markers. -/
theorem isPositionalMarker_of_ofWord? {text : String} {marker? : Option Marker}
    (h : Marker.ofWord? text = .ok marker?) :
    isPositionalMarker text = (marker? == some .positional) := by
  rw [isPositionalMarker, h]
  cases marker? with
  | none => rfl
  | some marker => cases marker <;> rfl

namespace KeywordPair

/-- **What resolving an entry comes to**, case by case, with the number of its markers `?`. -/
inductive Reading (pair : KeywordPair) : Prop
  | fails (e : Error) (hkind : e.kind = .invalidMarker ∨ e.kind = .invalidKeyword)
      (hresolve : ∀ bindings defaults, pair.resolve bindings defaults = Resolving.fail e)
  | passes (arg : KeywordArg) (hcount : pair.positionalCount = 0)
      (hresolve : ∀ bindings defaults, pair.resolve bindings defaults = Resolving.pure arg)
  | takes (marker : Marker) (f : Json → KeywordArg) (hmarker : marker ∈ pair.markers)
      (hcount : pair.positionalCount = marker.token.positionalCount)
      (hresolve : ∀ bindings defaults, pair.resolve bindings defaults =
        marker.take bindings defaults >>= fun value => Pure.pure (f value))

/-- **Every entry is resolved in one of these ways.** -/
theorem reading (pair : KeywordPair) : pair.Reading := by
  obtain ⟨key, value?⟩ := pair
  cases hkey : Marker.ofWord? key with
  | error e =>
    exact .fails e (.inl (Marker.kind_of_ofWord? hkey)) fun _ _ => by simp only [resolve, hkey]
  | ok marker? =>
    have hcount := isPositionalMarker_of_ofWord? hkey
    cases marker? with
    | some marker =>
      cases value? with
      | some value =>
        exact .fails (.invalidKeyword key) (.inr rfl) fun _ _ => by simp only [resolve, hkey]
      | none =>
        refine .takes marker .positional ?_ ?_ fun _ _ => by simp only [resolve, hkey]
        · simp [markers, Marker.ofText?, hkey]
        · cases marker <;> simp [positionalCount, hcount] <;> rfl
    | none =>
      cases value? with
      | none =>
        refine .passes (.positional (Json.ofLiteral key)) ?_ fun _ _ => by
          simp only [resolve, hkey]
        simp [positionalCount, hcount]
      | some value =>
        cases hvalue : Marker.ofWord? value with
        | error e =>
          exact .fails e (.inl (Marker.kind_of_ofWord? hvalue)) fun _ _ => by
            simp only [resolve, hkey, hvalue]
        | ok marker? =>
          have hcount' := isPositionalMarker_of_ofWord? hvalue
          cases marker? with
          | some marker =>
            refine .takes marker (.named key) ?_ ?_ fun _ _ => by
              simp only [resolve, hkey, hvalue]
            · simp [markers, Marker.ofText?, hkey, hvalue]
            · cases marker <;> simp [positionalCount, hcount, hcount'] <;> rfl
          | none =>
            refine .passes (.named key (Json.ofLiteral value)) ?_ fun _ _ => by
              simp only [resolve, hkey, hvalue]
            simp [positionalCount, hcount, hcount']

end KeywordPair

end RecordFilter
