import RecordFilter.Proofs.Dict.Union
import RecordFilter.Proofs.Options.Merging
import RecordFilter.Proofs.Options.Written
import RecordFilter.Query.Request

/-!
# Merging as overriding

A merge replaces the options that a map has keys for, and those only. Two maps merged one after the
other are their union.

* `Options.Overridden` — options with those of a map in place; `Options.Overridden.trans`,
  `Options.Overridden.unique` — two maps one after the other are their union, and there is one
  outcome.
* `Options.merge_eq_ok_iff` — **when a merge succeeds, and with what.**
* `Options.merge_overrides` — merging is overriding, and two merges are the merge of the union;
  `Request.withMap_union` — so are two maps that a request is given.
-/

namespace RecordFilter

namespace Options

/-! ## Overriding -/

/-- **Options with those of a map in place of their own**: where the map has a key, the option is
the map's, else it is as before. -/
structure Overridden (o : Options) (map : Dict Json) (final : Options) : Prop where
  kept : ∀ key ∈ reservedKeys, Dict.find? key map = none → final.value? key = o.value? key
  set : ∀ key ∈ reservedKeys, ∀ value, Dict.find? key map = some value →
    final.value? key = some (written key value)

namespace Overridden

variable {o mid final final' : Options} {map top : Dict Json}

/-- There is one outcome. -/
theorem unique (h : Overridden o map final) (h' : Overridden o map final') : final = final' := by
  refine eq_of_value?_eq fun key hkey => ?_
  cases hfind : Dict.find? key map with
  | none => rw [h.kept key hkey hfind, h'.kept key hkey hfind]
  | some value => rw [h.set key hkey value hfind, h'.set key hkey value hfind]

/-- **Two maps one after the other are their union.** -/
theorem trans (htop : Dict.Ordered top) (h : Overridden o map mid) (h' : Overridden mid top final) :
    Overridden o (Dict.union map top) final where
  kept key hkey hfind := by
    rw [Dict.find?_union htop, Option.or_eq_none_iff] at hfind
    rw [h'.kept key hkey hfind.1, h.kept key hkey hfind.2]
  set key hkey value hfind := by
    rw [Dict.find?_union htop, Option.or_eq_some_iff] at hfind
    rcases hfind with hset | ⟨hkept, hset⟩
    · exact h'.set key hkey value hset
    · rw [h'.kept key hkey hkept, h.set key hkey value hset]

end Overridden

/-! ### Values that fit -/

variable {o final : Options} {key : String} {value : Json} {map : Dict Json}

/-- What is read for a setting is written as the map gives it. -/
theorem encode_setting {β : Type} {read : Json → Except OptionFault β} {form : Json → Json}
    {encode : β → Json} (hread : ∀ {value x}, read value = .ok x ↔ form value = encode x) {old : β}
    (hmap : ∀ value, Dict.find? key map = some value → (read value).isOk = true) :
    some (encode (Dict.setting key (fun value => (read value).toOption) map old)) =
      ((Dict.find? key map).map form).or (some (encode old)) := by
  unfold Dict.setting
  cases hfind : Dict.find? key map with
  | none => rfl
  | some value =>
    obtain ⟨x, hx⟩ := exists_of_isOk (hmap value hfind)
    simp [hx, Except.toOption, hread.1 hx]

/-- **The options that a map sets**, if all its values fit. -/
theorem value?_override (h : ∀ entry ∈ map, admits entry = true) :
    ∀ key ∈ reservedKeys, (o.override map).value? key =
      ((Dict.find? key map).map (written key)).or (o.value? key) := by
  have hadmits : ∀ key value, Dict.find? key map = some value → admits (key, value) = true :=
    fun key value hfind => h _ (Dict.mem_of_find? hfind)
  rw [forall_mem_reservedKeys]
  -- only operator literals are written otherwise than they may be given
  refine ⟨?_, ?_, ?_, ?_, ?_, ?_⟩
  · rw [written_of_ne (by decide) (by decide)]
    simp only [value?_default, override, Dict.setting]
    cases Dict.find? "default" map <;> rfl
  · rw [written_of_ne (by decide) (by decide)]
    exact encode_setting asBool_eq_ok_iff fun value hfind =>
      (isOk_asBool "first" value).trans (hadmits "first" value hfind)
  · rw [written_of_ne (by decide) (by decide)]
    exact encode_setting asPluck_eq_ok_iff fun value hfind =>
      (isOk_asPluck value).trans (hadmits "pluck" value hfind)
  · rw [written_of_ne (by decide) (by decide)]
    exact encode_setting asBool_eq_ok_iff fun value hfind =>
      (isOk_asBool "debug" value).trans (hadmits "debug" value hfind)
  · rw [written_opAnd]
    exact encode_setting asOperators_eq_ok_iff fun value hfind =>
      (isOk_asOperators "op_and" value).trans (hadmits "op_and" value hfind)
  · rw [written_opOr]
    exact encode_setting asOperators_eq_ok_iff fun value hfind =>
      (isOk_asOperators "op_or" value).trans (hadmits "op_or" value hfind)

/-- Values that fit override: options with an entry are set, the others kept. -/
theorem overridden_override (h : ∀ entry ∈ map, admits entry = true) :
    Overridden o map (o.override map) where
  kept key hkey hfind := by
    rw [value?_override h key hkey, hfind]
    rfl
  set key hkey value hfind := by
    rw [value?_override h key hkey, hfind]
    rfl

/-- A value that an option is written as fits it. -/
theorem admits_of_value?_eq (h : o.value? key = some (written key value)) :
    admits (key, value) = true := by
  unfold admits
  split
  next hbool =>
    rw [← isOk_asBool key]
    rcases hbool with rfl | rfl
    · exact isOk_of_eq_ok (asBool_eq_ok_iff.2 (Option.some.inj h).symm)
    · exact isOk_of_eq_ok (asBool_eq_ok_iff.2 (Option.some.inj h).symm)
  next =>
    split
    next hnames =>
      rcases hnames with rfl | rfl | rfl
      · rw [← isOk_asPluck]
        exact isOk_of_eq_ok (asPluck_eq_ok_iff.2 (Option.some.inj h).symm)
      · rw [← isOk_asOperators "op_and"]
        exact isOk_of_eq_ok (asOperators_eq_ok_iff.2 (Option.some.inj h).symm)
      · rw [← isOk_asOperators "op_or"]
        exact isOk_of_eq_ok (asOperators_eq_ok_iff.2 (Option.some.inj h).symm)
    next => rfl

/-- Any value fits under a key that is no option's. -/
theorem admits_of_not_mem (h : key ∉ reservedKeys) (value : Json) :
    admits (key, value) = true := by
  simp only [reservedKeys, List.mem_cons, List.not_mem_nil, or_false, not_or] at h
  simp [admits, h]

/-- **A map whose options are in place has values that fit.** -/
theorem Overridden.admits (hmap : Dict.Ordered map) (h : Overridden o map final) :
    ∀ entry ∈ map, Options.admits entry = true := by
  rintro ⟨key, value⟩ hentry
  by_cases hkey : key ∈ reservedKeys
  · exact admits_of_value?_eq (h.set key hkey value (hmap.find?_eq hentry))
  · exact admits_of_not_mem hkey value

/-! ## Merging -/

variable {named : Dict Json}

/-- **The merge of a map whose values fit**: its options are set, and checked. -/
theorem merge_of_admits (o : Options) (hmap : Dict.Ordered map)
    (h : ∀ entry ∈ map, admits entry = true) :
    o.merge map = (o.override map, (o.override map).validate.map fun _ =>
      map.filter fun entry => entry.1 ∉ reservedKeys) :=
  merge_of_pass_ok (mergeEntries_of_admits o hmap h)

/-- A pass without a fault has met values that fit only. -/
theorem admits_of_pass_ok (h : (o.mergeEntries map).2 = .ok named) :
    ∀ entry ∈ map, admits entry = true := by
  induction map generalizing o named with
  | nil => exact fun entry hentry => absurd hentry List.not_mem_nil
  | cons entry rest ih =>
    obtain ⟨key, value⟩ := entry
    by_cases hfits : admits (key, value) = true
    · rw [mergeEntries_cons o hfits] at h
      have hrest : ∃ named', ((o.override [(key, value)]).mergeEntries rest).2 = .ok named' := by
        cases hpass : ((o.override [(key, value)]).mergeEntries rest).2 with
        | ok named' => exact ⟨named', rfl⟩
        | error fault => simp [hpass, Except.map] at h
      obtain ⟨named', hrest⟩ := hrest
      exact List.forall_mem_cons.2 ⟨hfits, ih hrest⟩
    · obtain ⟨fault, hfault⟩ := setKey_of_not_admits (Bool.eq_false_of_not_eq_true hfits)
      rw [mergeEntries, hfault] at h
      cases h

/-- A merge that succeeds has met values that fit only. -/
theorem admits_of_merge_eq_ok (h : o.merge map = (final, .ok named)) :
    ∀ entry ∈ map, admits entry = true := by
  cases hpass : (o.mergeEntries map).2 with
  | ok left => exact admits_of_pass_ok hpass
  | error fault =>
    rw [merge_of_pass_error (Prod.ext rfl hpass)] at h
    cases h

/-- **When a merge succeeds, and with what**: the options are overridden, they keep their rules, and
the other entries are left. -/
theorem merge_eq_ok_iff (hmap : Dict.Ordered map) :
    o.merge map = (final, .ok named) ↔
      Overridden o map final ∧ final.validate = .ok () ∧
        named = map.filter fun entry => entry.1 ∉ reservedKeys := by
  constructor
  · intro h
    have hadmits := admits_of_merge_eq_ok h
    rw [merge_of_admits o hmap hadmits, Prod.mk.injEq] at h
    obtain ⟨rfl, hnamed⟩ := h
    cases hvalid : (o.override map).validate with
    | error e => simp [hvalid, Except.map] at hnamed
    | ok =>
      rw [hvalid] at hnamed
      exact ⟨overridden_override hadmits, rfl, (Except.ok.inj hnamed).symm⟩
  · rintro ⟨h, hvalid, rfl⟩
    have hadmits := h.admits hmap
    obtain rfl := h.unique (overridden_override hadmits)
    rw [merge_of_admits o hmap hadmits, hvalid]
    rfl

/-- What a merge leaves is a dictionary. -/
theorem ordered_of_merge_eq_ok (hmap : Dict.Ordered map) (h : o.merge map = (final, .ok named)) :
    Dict.Ordered named := by
  obtain ⟨-, -, rfl⟩ := (merge_eq_ok_iff hmap).1 h
  exact hmap.filter fun key => decide (key ∉ reservedKeys)

/-- **Two merges are the merge of the union.** -/
theorem merge_union {mid : Options} {top named' : Dict Json} (hmap : Dict.Ordered map)
    (htop : Dict.Ordered top) (h : o.merge map = (mid, .ok named))
    (h' : mid.merge top = (final, .ok named')) :
    o.merge (Dict.union map top) = (final, .ok (Dict.union named named')) := by
  obtain ⟨hfirst, -, rfl⟩ := (merge_eq_ok_iff hmap).1 h
  obtain ⟨hsecond, hvalid, rfl⟩ := (merge_eq_ok_iff htop).1 h'
  refine (merge_eq_ok_iff (Dict.ordered_union hmap)).2 ⟨hfirst.trans htop hsecond, hvalid, ?_⟩
  have hfilter := Dict.filter_union (fun key => decide (key ∉ reservedKeys)) hmap htop
  exact hfilter.symm

/-- **Merging is a right-biased override that composes.** A merge succeeds if and only if the values
of the map fit their options and the options that they override keep their rules. Then exactly the
options that the map has keys for are set, and its other entries are left. A second merge overrides
the first one: both together are the merge of the one map overridden by the other. -/
theorem merge_overrides (o : Options) (hmap : Dict.Ordered map) :
    ((∃ final named, o.merge map = (final, .ok named)) ↔
      (∀ entry ∈ map, admits entry = true) ∧
        ∃ final, Overridden o map final ∧ final.validate = .ok ()) ∧
    (∀ final named, o.merge map = (final, .ok named) →
      Overridden o map final ∧ final.validate = .ok () ∧
        named = map.filter fun entry => entry.1 ∉ reservedKeys) ∧
    ∀ (mid final : Options) (top named named' : Dict Json), Dict.Ordered top →
      o.merge map = (mid, .ok named) → mid.merge top = (final, .ok named') →
        o.merge (Dict.union map top) = (final, .ok (Dict.union named named')) := by
  refine ⟨⟨?_, ?_⟩, fun final named => (merge_eq_ok_iff hmap).1,
    fun mid final top named named' htop => merge_union hmap htop⟩
  · rintro ⟨final, named, h⟩
    obtain ⟨hset, hvalid, -⟩ := (merge_eq_ok_iff hmap).1 h
    exact ⟨admits_of_merge_eq_ok h, final, hset, hvalid⟩
  · rintro ⟨-, final, hset, hvalid⟩
    exact ⟨final, _, (merge_eq_ok_iff hmap).2 ⟨hset, hvalid, rfl⟩⟩

/-- A map with a literal by itself and a value for a name. -/
def sampleBase : Dict Json :=
  [("debug", .bool true), ("op_and", .string "&"), ("x", .null), ("y", .bool false)]

/-- A map that takes the literal back, and has another value for the name. -/
def sampleTop : Dict Json :=
  [("op_and", .null), ("pluck", .array [.string "id"]), ("x", .bool true)]

/-- The case of two maps with a key in common. -/
theorem merge_overrides_sample :
    Dict.Ordered sampleBase ∧ Dict.Ordered sampleTop ∧
    ({} : Options).merge (Dict.union sampleBase sampleTop) =
      ({ debug := true, pluck := some (.fields ["id"]) },
        .ok (Dict.union [("x", .null), ("y", .bool false)] [("x", .bool true)])) := by
  have hbase : Dict.Ordered sampleBase := by
    unfold sampleBase Dict.Ordered
    decide
  have htop : Dict.Ordered sampleTop := by
    unfold sampleTop Dict.Ordered
    decide
  have hfirst : ({} : Options).merge sampleBase =
      ({ debug := true, opAnd := some ["&"] }, .ok [("x", .null), ("y", .bool false)]) := rfl
  have hsecond : ({ debug := true, opAnd := some ["&"] } : Options).merge sampleTop =
      ({ debug := true, pluck := some (.fields ["id"]) }, .ok [("x", .bool true)]) := rfl
  exact ⟨hbase, htop, (merge_overrides {} hbase).2.2 _ _ _ _ _ htop hfirst hsecond⟩

end Options

/-! ## Requests -/

namespace Request

variable {r mid final : Request} {map top : Dict Json}

/-- A request takes a map as its options do, and binds what is left to names. -/
theorem withMap_eq_ok_iff : r.withMap map = .ok mid ↔
    ∃ options named, r.options.merge map = (options, .ok named) ∧
      mid = { r with
        options
        bindings := { r.bindings with named := Dict.union r.bindings.named named } } := by
  rw [withMap]
  rcases r.options.merge map with ⟨options, e | named⟩
  · simp
  · simp [eq_comm]

/-- **Two maps that a request is given are their union.** -/
theorem withMap_union (hnamed : Dict.Ordered r.bindings.named) (hmap : Dict.Ordered map)
    (htop : Dict.Ordered top) (h : r.withMap map = .ok mid) (h' : mid.withMap top = .ok final) :
    r.withMap (Dict.union map top) = .ok final := by
  obtain ⟨options, named, hfirst, rfl⟩ := withMap_eq_ok_iff.1 h
  obtain ⟨options', named', hsecond, rfl⟩ := withMap_eq_ok_iff.1 h'
  have hmerge := Options.merge_union hmap htop hfirst hsecond
  refine withMap_eq_ok_iff.2 ⟨options', _, hmerge, ?_⟩
  dsimp only
  rw [Dict.union_assoc hnamed (Options.ordered_of_merge_eq_ok hmap hfirst)
    (Options.ordered_of_merge_eq_ok htop hsecond)]

end Request

end RecordFilter
