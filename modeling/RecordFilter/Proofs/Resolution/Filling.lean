import RecordFilter.Proofs.Resolution.Markers
import RecordFilter.Proofs.Resolution.Shape

/-!
# Values in the places of markers

What resolution makes of tokens, without its reading from left to right: every marker has a value,
and the resolved tokens are the tokens with these values in the places of their markers.

* `Bindings.Gives` — the value of a name: the caller's, else the configuration's, else the engine's.
* `Bindings.Supplies` — values for markers: those for `?` are the next ones of a list, in order,
  those for names are given.
* `KeywordPair.Filled`, `Token.Filled`, `Rows` — entries, tokens and lists with values in the places
  of their markers.
* `Token.each_resolve_eq_ok_iff` — **resolution of a list succeeds exactly with the filled list.**
-/

namespace RecordFilter

/-! ## Values for markers -/

/-- **The value of a name**: the caller's if there is one, else the configuration's, else the
engine's. -/
inductive Bindings.Gives (bindings : Bindings) (defaults : Dict Json) (name : String) :
    Json → Prop
  | caller {value : Json} (h : Dict.find? name bindings.named = some value) :
      Gives bindings defaults name value
  | config {value : Json} (hcaller : Dict.find? name bindings.named = none)
      (h : Dict.find? name defaults = some value) : Gives bindings defaults name value
  | engine {value : Json} (hcaller : Dict.find? name bindings.named = none)
      (hconfig : Dict.find? name defaults = none)
      (h : Dict.find? name engineDefaults = some value) : Gives bindings defaults name value

/-- A name has the value that the bindings or the defaults give it. -/
theorem Bindings.value?_eq_some_iff {bindings : Bindings} {defaults : Dict Json} {name : String}
    {value : Json} :
    bindings.value? defaults name = some value ↔ bindings.Gives defaults name value := by
  unfold value?
  constructor
  · intro h
    cases hcaller : Dict.find? name bindings.named with
    | some other =>
      rw [hcaller] at h
      exact .caller (hcaller.trans h)
    | none =>
      rw [hcaller, Option.none_or] at h
      cases hconfig : Dict.find? name defaults with
      | some other =>
        rw [hconfig] at h
        exact .config hcaller (hconfig.trans h)
      | none =>
        rw [hconfig, Option.none_or] at h
        exact .engine hcaller hconfig h
  · intro h
    cases h with
    | caller h => simp [h]
    | config hcaller h => simp [hcaller, h]
    | engine hcaller hconfig h => simp [hcaller, hconfig, h]

/-- The values that stand in the places of the markers `?`, in order. -/
def positionalValues (fills : List (Marker × Json)) : List Json :=
  fills.filterMap fun
    | (.positional, value) => some value
    | (.named _, _) => none

/-- **Values for markers are supplied** by bindings and a list of positional values: those for `?`
are the first of the list, in order, and leave the rest; those for names are given. -/
structure Bindings.Supplies (bindings : Bindings) (defaults : Dict Json)
    (fills : List (Marker × Json)) (left rest : List Json) : Prop where
  positional : left = positionalValues fills ++ rest
  named : ∀ name value, (.named name, value) ∈ fills → bindings.Gives defaults name value

namespace Bindings

variable {bindings : Bindings} {defaults : Dict Json} {left rest : List Json}

/-- Without markers nothing is supplied, and nothing is taken. -/
theorem supplies_nil : bindings.Supplies defaults [] left rest ↔ left = rest := by
  constructor
  · exact fun h => h.positional
  · rintro rfl
    exact ⟨rfl, fun _ _ h => absurd h List.not_mem_nil⟩

/-- Values are supplied one after the other. -/
theorem supplies_append {xs ys : List (Marker × Json)} :
    bindings.Supplies defaults (xs ++ ys) left rest ↔
      ∃ mid, bindings.Supplies defaults xs left mid ∧ bindings.Supplies defaults ys mid rest := by
  have hvalues : positionalValues (xs ++ ys) = positionalValues xs ++ positionalValues ys :=
    List.filterMap_append
  constructor
  · rintro ⟨hpositional, hnamed⟩
    rw [hvalues, List.append_assoc] at hpositional
    exact ⟨_, ⟨hpositional, fun name value h => hnamed name value (List.mem_append_left _ h)⟩,
      rfl, fun name value h => hnamed name value (List.mem_append_right _ h)⟩
  · rintro ⟨mid, ⟨hleft, hxs⟩, hmid, hys⟩
    refine ⟨by rw [hleft, hmid, hvalues, List.append_assoc], fun name value h => ?_⟩
    rcases List.mem_append.1 h with h | h
    · exact hxs name value h
    · exact hys name value h

end Bindings

/-- A marker takes the value that is supplied for it. -/
theorem Marker.take_eq_ok_iff {bindings : Bindings} {defaults : Dict Json} {marker : Marker}
    {value : Json} {left rest : List Json} :
    marker.take bindings defaults left = .ok (value, rest) ↔
      bindings.Supplies defaults [(marker, value)] left rest := by
  cases marker with
  | positional =>
    constructor
    · intro h
      cases left with
      | nil => cases h
      | cons first others =>
        obtain ⟨rfl, rfl⟩ := Prod.mk.inj (Except.ok.inj h)
        refine ⟨rfl, fun name other hmem => ?_⟩
        cases List.mem_singleton.1 hmem
    · rintro ⟨rfl, -⟩
      rfl
  | named name =>
    unfold take
    dsimp only
    constructor
    · intro h
      cases hvalue : bindings.value? defaults name with
      | none => rw [hvalue] at h; cases h
      | some found =>
        rw [hvalue] at h
        obtain ⟨rfl, rfl⟩ := Prod.mk.inj (Except.ok.inj h)
        refine ⟨rfl, fun other value hmem => ?_⟩
        cases List.mem_singleton.1 hmem
        exact Bindings.value?_eq_some_iff.1 hvalue
    · rintro ⟨rfl, hnamed⟩
      rw [Bindings.value?_eq_some_iff.2 (hnamed name value (List.mem_singleton_self _))]
      rfl

/-- A marker takes the value that is supplied for it, which may then be changed. -/
theorem Marker.take_map_eq_ok_iff {α : Type} {bindings : Bindings} {defaults : Dict Json}
    {marker : Marker} {f : Json → α} {a : α} {left rest : List Json} :
    (marker.take bindings defaults >>= fun value => Pure.pure (f value)) left = .ok (a, rest) ↔
      ∃ value, f value = a ∧ bindings.Supplies defaults [(marker, value)] left rest := by
  simp only [Resolving.bind_pure_eq_ok_iff, take_eq_ok_iff, and_comm]

/-! ## Filled tokens -/

/-- **An entry of a keyword segment with a value in the place of its marker**, if it has one: a
marker stands for the value of a keyword or for a bare key. Other texts are literals. -/
inductive KeywordPair.Filled : KeywordPair → List (Marker × Json) → KeywordArg → Prop
  | literalKey {key : String} (hkey : Marker.ofWord? key = .ok none) :
      Filled ⟨key, none⟩ [] (.positional (Json.ofLiteral key))
  | markedKey {key : String} {marker : Marker} (hkey : Marker.ofWord? key = .ok (some marker))
      (value : Json) : Filled ⟨key, none⟩ [(marker, value)] (.positional value)
  | literalValue {key text : String} (hkey : Marker.ofWord? key = .ok none)
      (htext : Marker.ofWord? text = .ok none) :
      Filled ⟨key, some text⟩ [] (.named key (Json.ofLiteral text))
  | markedValue {key text : String} {marker : Marker} (hkey : Marker.ofWord? key = .ok none)
      (htext : Marker.ofWord? text = .ok (some marker)) (value : Json) :
      Filled ⟨key, some text⟩ [(marker, value)] (.named key value)

/-- **Lists that are filled element by element**, in reading order. -/
inductive Rows {α β : Type} (F : α → List (Marker × Json) → β → Prop) :
    List α → List (Marker × Json) → List β → Prop
  | nil : Rows F [] [] []
  | cons {a : α} {b : β} {as : List α} {bs : List β} {first others : List (Marker × Json)}
      (hfirst : F a first b) (hothers : Rows F as others bs) :
      Rows F (a :: as) (first ++ others) (b :: bs)

/-- **A token with values in the places of its markers.** Parentheses, operators and words stay. -/
inductive Token.Filled : Token → List (Marker × Json) → Bound → Prop
  | opening : Filled .opening [] .opening
  | closing : Filled .closing [] .closing
  | operator (combinator : Combinator) : Filled (.operator combinator) [] (.operator combinator)
  | word (text : String) : Filled (.word text) [] (.term (.word text))
  | positional (value : Json) : Filled .positional [(.positional, value)] (.term (.value value))
  | named (name : String) (value : Json) :
      Filled (.named name) [(.named name, value)] (.term (.value value))
  | keywords {pairs : List KeywordPair} {fills : List (Marker × Json)} {args : List KeywordArg}
      (h : Rows KeywordPair.Filled pairs fills args) :
      Filled (.keywords pairs) fills (.term (.keywords args))

section

variable {bindings : Bindings} {defaults : Dict Json} {left rest : List Json}

/-! ### Entries -/

namespace KeywordPair

variable {key text : String} {fills : List (Marker × Json)} {arg : KeywordArg} {value : Json}

/-- **A text with a value in the place of its marker**, if it is one. -/
inductive TextFilled (text : String) : List (Marker × Json) → Json → Prop
  | literal (htext : Marker.ofWord? text = .ok none) : TextFilled text [] (Json.ofLiteral text)
  | marked {marker : Marker} (htext : Marker.ofWord? text = .ok (some marker)) (value : Json) :
      TextFilled text [(marker, value)] value

/-- The value of a text, which a marker takes from the bindings. -/
def resolveText (bindings : Bindings) (defaults : Dict Json) (text : String) : Resolving Json :=
  match Marker.ofWord? text with
  | .error e => Resolving.fail e
  | .ok (some marker) => marker.take bindings defaults
  | .ok none => Resolving.pure (Json.ofLiteral text)

/-- **A text resolves to the text filled** with the supplied value. -/
theorem resolveText_eq_ok_iff :
    resolveText bindings defaults text left = .ok (value, rest) ↔
      ∃ fills, TextFilled text fills value ∧ bindings.Supplies defaults fills left rest := by
  unfold resolveText
  constructor
  · intro h
    rcases htext : Marker.ofWord? text with e | _ | marker
    · rw [htext] at h
      cases h
    · rw [htext] at h
      obtain ⟨rfl, rfl⟩ := Prod.mk.inj (Except.ok.inj h)
      exact ⟨_, .literal htext, Bindings.supplies_nil.2 rfl⟩
    · rw [htext] at h
      exact ⟨_, .marked htext value, Marker.take_eq_ok_iff.1 h⟩
  · rintro ⟨fills, ⟨htext⟩ | ⟨htext, _⟩, hsupplies⟩
    · rw [htext, Bindings.supplies_nil.1 hsupplies]
      rfl
    · rw [htext]
      exact Marker.take_eq_ok_iff.2 hsupplies

/-- A bare key is resolved as a text. -/
theorem resolve_bare : resolve bindings defaults ⟨key, none⟩ =
    resolveText bindings defaults key >>= fun value => Pure.pure (.positional value) := by
  unfold resolve resolveText
  dsimp only
  cases Marker.ofWord? key with
  | error e => rfl
  | ok marker? => cases marker? <;> rfl

/-- Under a key that is no marker the value is resolved as a text. -/
theorem resolve_valued (hkey : Marker.ofWord? key = .ok none) :
    resolve bindings defaults ⟨key, some text⟩ =
      resolveText bindings defaults text >>= fun value => Pure.pure (.named key value) := by
  unfold resolve resolveText
  dsimp only
  rw [hkey]
  cases Marker.ofWord? text with
  | error e => rfl
  | ok marker? => cases marker? <;> rfl

/-- No value goes under a key that is a marker, or an ill-formed one. -/
theorem resolve_valued_ne_ok (hkey : Marker.ofWord? key ≠ .ok none) :
    resolve bindings defaults ⟨key, some text⟩ left ≠ .ok (arg, rest) := by
  unfold resolve
  dsimp only
  rcases hmarker : Marker.ofWord? key with e | _ | marker
  · exact nofun
  · exact absurd hmarker hkey
  · exact nofun

/-- A bare key is filled as a text. -/
theorem filled_bare_iff :
    Filled ⟨key, none⟩ fills arg ↔
      ∃ value, TextFilled key fills value ∧ .positional value = arg := by
  constructor
  · rintro (⟨hkey⟩ | ⟨hkey, _⟩)
    · exact ⟨_, .literal hkey, rfl⟩
    · exact ⟨_, .marked hkey _, rfl⟩
  · rintro ⟨_, ⟨hkey⟩ | ⟨hkey, _⟩, rfl⟩
    · exact .literalKey hkey
    · exact .markedKey hkey _

/-- Under a key that is no marker the value is filled as a text. -/
theorem filled_valued_iff :
    Filled ⟨key, some text⟩ fills arg ↔ Marker.ofWord? key = .ok none ∧
      ∃ value, TextFilled text fills value ∧ .named key value = arg := by
  constructor
  · rintro (- | - | ⟨hkey, htext⟩ | ⟨hkey, htext, _⟩)
    · exact ⟨hkey, _, .literal htext, rfl⟩
    · exact ⟨hkey, _, .marked htext _, rfl⟩
  · rintro ⟨hkey, _, ⟨htext⟩ | ⟨htext, _⟩, rfl⟩
    · exact .literalValue hkey htext
    · exact .markedValue hkey htext _

/-- **An entry resolves to the entry filled** with the supplied value. -/
theorem resolve_eq_ok_iff {pair : KeywordPair} :
    pair.resolve bindings defaults left = .ok (arg, rest) ↔
      ∃ fills, pair.Filled fills arg ∧ bindings.Supplies defaults fills left rest := by
  obtain ⟨key, _ | text⟩ := pair
  · simp only [resolve_bare, Resolving.bind_pure_eq_ok_iff, resolveText_eq_ok_iff, filled_bare_iff]
    constructor
    · rintro ⟨value, ⟨fills, hfilled, hsupplies⟩, harg⟩
      exact ⟨fills, ⟨value, hfilled, harg⟩, hsupplies⟩
    · rintro ⟨fills, ⟨value, hfilled, harg⟩, hsupplies⟩
      exact ⟨value, ⟨fills, hfilled, hsupplies⟩, harg⟩
  · by_cases hkey : Marker.ofWord? key = .ok none
    · simp only [resolve_valued hkey, Resolving.bind_pure_eq_ok_iff, resolveText_eq_ok_iff,
        filled_valued_iff]
      constructor
      · rintro ⟨value, ⟨fills, hfilled, hsupplies⟩, harg⟩
        exact ⟨fills, ⟨hkey, value, hfilled, harg⟩, hsupplies⟩
      · rintro ⟨fills, ⟨-, value, hfilled, harg⟩, hsupplies⟩
        exact ⟨value, ⟨fills, hfilled, hsupplies⟩, harg⟩
    · refine ⟨fun h => absurd h (resolve_valued_ne_ok hkey), ?_⟩
      rintro ⟨fills, hfilled, -⟩
      exact absurd (filled_valued_iff.1 hfilled).1 hkey

end KeywordPair

/-! ### Lists -/

/-- **A row of steps gives the filled row**, if each step gives the filled element. -/
theorem Resolving.each_eq_ok_iff {α β : Type} {f : α → Resolving β}
    {F : α → List (Marker × Json) → β → Prop}
    (hf : ∀ (a : α) (b : β) (left rest : List Json), f a left = .ok (b, rest) ↔
      ∃ fills, F a fills b ∧ bindings.Supplies defaults fills left rest)
    {as : List α} {bs : List β} :
    each f as left = .ok (bs, rest) ↔
      ∃ fills, Rows F as fills bs ∧ bindings.Supplies defaults fills left rest := by
  induction as generalizing bs left with
  | nil =>
    constructor
    · intro h
      obtain ⟨rfl, rfl⟩ := Prod.mk.inj (Except.ok.inj h)
      exact ⟨[], .nil, Bindings.supplies_nil.2 rfl⟩
    · rintro ⟨fills, hrows, hsupplies⟩
      cases hrows
      rw [Bindings.supplies_nil.1 hsupplies]
      rfl
  | cons a as ih =>
    constructor
    · intro h
      obtain ⟨b, mid, cs, hfirst, hothers, rfl⟩ := each_cons_eq_ok h
      obtain ⟨first, hfilled, hsupplies⟩ := (hf _ _ _ _).1 hfirst
      obtain ⟨others, hrows, hsupplies'⟩ := ih.1 hothers
      exact ⟨_, .cons hfilled hrows, Bindings.supplies_append.2 ⟨mid, hsupplies, hsupplies'⟩⟩
    · rintro ⟨fills, hrows, hsupplies⟩
      cases hrows with
      | cons hfilled hrows =>
        obtain ⟨mid, hfirst, hothers⟩ := Bindings.supplies_append.1 hsupplies
        rw [each_cons_of_ok ((hf _ _ _ _).2 ⟨_, hfilled, hfirst⟩), ih.2 ⟨_, hrows, hothers⟩]
        rfl

/-- Entries are resolved by the values that are supplied for their markers. -/
theorem KeywordPair.each_resolve_eq_ok_iff {pairs : List KeywordPair} {args : List KeywordArg} :
    Resolving.each (resolve bindings defaults) pairs left = .ok (args, rest) ↔
      ∃ fills, Rows Filled pairs fills args ∧ bindings.Supplies defaults fills left rest :=
  Resolving.each_eq_ok_iff (f := resolve bindings defaults) (F := Filled) fun _ _ _ _ =>
    resolve_eq_ok_iff

/-- **A token resolves to the token filled** with the supplied values. -/
theorem Token.resolve_eq_ok_iff {token : Token} {b : Bound} :
    token.resolve bindings defaults left = .ok (b, rest) ↔
      ∃ fills, token.Filled fills b ∧ bindings.Supplies defaults fills left rest := by
  have hplain {b' : Bound} (hfilled : token.Filled [] b')
      (honly : ∀ {fills b}, token.Filled fills b → fills = [] ∧ b = b') :
      .ok (b', left) = (.ok (b, rest) : Except Error (Bound × List Json)) ↔
        ∃ fills, token.Filled fills b ∧ bindings.Supplies defaults fills left rest := by
    constructor
    · intro h
      obtain ⟨rfl, rfl⟩ := Prod.mk.inj (Except.ok.inj h)
      exact ⟨[], hfilled, Bindings.supplies_nil.2 rfl⟩
    · rintro ⟨fills, hfilled', hsupplies⟩
      obtain ⟨rfl, rfl⟩ := honly hfilled'
      rw [Bindings.supplies_nil.1 hsupplies]
  cases token with
  | opening => exact hplain .opening fun h => by cases h; exact ⟨rfl, rfl⟩
  | closing => exact hplain .closing fun h => by cases h; exact ⟨rfl, rfl⟩
  | operator combinator => exact hplain (.operator _) fun h => by cases h; exact ⟨rfl, rfl⟩
  | word text => exact hplain (.word _) fun h => by cases h; exact ⟨rfl, rfl⟩
  | positional =>
    refine Marker.take_map_eq_ok_iff.trans ⟨?_, ?_⟩
    · rintro ⟨value, rfl, hsupplies⟩
      exact ⟨_, .positional value, hsupplies⟩
    · rintro ⟨fills, hfilled, hsupplies⟩
      cases hfilled with
      | positional value => exact ⟨value, rfl, hsupplies⟩
  | named name =>
    refine Marker.take_map_eq_ok_iff.trans ⟨?_, ?_⟩
    · rintro ⟨value, rfl, hsupplies⟩
      exact ⟨_, .named name value, hsupplies⟩
    · rintro ⟨fills, hfilled, hsupplies⟩
      cases hfilled with
      | named _ value => exact ⟨value, rfl, hsupplies⟩
  | keywords pairs =>
    constructor
    · intro h
      obtain ⟨args, hargs, rfl⟩ := Resolving.bind_pure_eq_ok_iff.1 h
      obtain ⟨fills, hrows, hsupplies⟩ := KeywordPair.each_resolve_eq_ok_iff.1 hargs
      exact ⟨fills, .keywords hrows, hsupplies⟩
    · rintro ⟨fills, hfilled, hsupplies⟩
      cases hfilled with
      | keywords hrows =>
        show Resolving.bind _ _ _ = _
        rw [Resolving.bind, KeywordPair.each_resolve_eq_ok_iff.2 ⟨fills, hrows, hsupplies⟩]
        rfl

/-- **Resolution of a list succeeds exactly with the filled list**, its markers filled with the
supplied values. -/
theorem Token.each_resolve_eq_ok_iff {tokens : List Token} {bs : List Bound} :
    Resolving.each (resolve bindings defaults) tokens left = .ok (bs, rest) ↔
      ∃ fills, Rows Filled tokens fills bs ∧ bindings.Supplies defaults fills left rest :=
  Resolving.each_eq_ok_iff (f := resolve bindings defaults) (F := Filled) fun _ _ _ _ =>
    resolve_eq_ok_iff

end

end RecordFilter
