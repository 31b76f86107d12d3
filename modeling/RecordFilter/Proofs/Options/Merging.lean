import RecordFilter.Proofs.Except.Success
import RecordFilter.Query.Options

/-!
# Merging maps into options

A merge sets options entry by entry, in key order. An entry whose value does not fit its option ends
it, and the options as a whole are checked at the end, so a merge that fails has set what came
before the fault.

* `Options.admits` — the entries whose value fits their option.
* `Options.override` — options with those of a map in place of their own.
* `Options.mergeEntries_of_admits`, `Options.mergeEntries_append_cons` — a pass that ends, and one
  that an entry stops.
* `Options.merge_of_error` — **what a failing merge leaves behind**, and when that is what was there
  before.
* `Options.exists_changed_of_error` — a failing merge that sets an option.
-/

namespace RecordFilter

/-! ## Entries of a dictionary -/

namespace Dict

variable {α β : Type}

/-- A value read from the entry of a key; `old` where there is no entry or nothing can be read. -/
def setting (key : String) (read : α → Option β) (entries : Dict α) (old : β) : β :=
  ((find? key entries).bind read).getD old

variable {key : String} {read : α → Option β} {entries : Dict α} {old : β}

/-- What one entry sets. -/
theorem setting_singleton (k : String) (value : α) :
    setting key read [(k, value)] old = if key = k then (read value).getD old else old := by
  unfold setting find?
  split <;> rfl

/-- Settings of a dictionary are made one entry after the other. -/
theorem Ordered.setting_cons {k : String} {value : α} (h : Ordered ((k, value) :: entries)) :
    setting key read ((k, value) :: entries) old =
      setting key read entries (setting key read [(k, value)] old) := by
  rw [setting_singleton]
  by_cases hkey : key = k
  · have hrest : find? key entries = none := by
      apply find?_eq_none_of_forall_ne
      intro entry hentry
      exact hkey ▸ h.ne_of_mem hentry
    simp only [setting, find?, if_pos hkey, hrest, Option.bind_some, Option.bind_none,
      Option.getD_none]
  · simp only [setting, find?, if_neg hkey]

/-- **A dictionary leaves a setting as it is if each of its entries does.** -/
theorem Ordered.setting_eq_iff (h : Ordered entries) :
    setting key read entries old = old ↔
      ∀ entry ∈ entries, setting key read [entry] old = old := by
  constructor
  · intro heq entry hentry
    obtain ⟨k, value⟩ := entry
    rw [setting_singleton]
    split
    next hkey =>
      rw [setting, hkey, h.find?_eq hentry] at heq
      exact heq
    next => rfl
  · intro hall
    unfold setting
    cases hfind : find? key entries with
    | none => rfl
    | some value =>
      have hone := hall (key, value) (mem_of_find? hfind)
      rwa [setting_singleton, if_pos rfl] at hone

end Dict

namespace Options

/-! ## What an entry sets -/

/-- Null, a text or a list of texts. -/
def areNames : Json → Bool
  | .null | .string _ => true
  | .array items => items.all fun item => item.asString?.isSome
  | _ => false

/-- **Whether the value of an entry fits its option**; keys that are no option's take every
value. -/
def admits (entry : String × Json) : Bool :=
  if entry.1 = "first" ∨ entry.1 = "debug" then entry.2.asBool?.isSome
  else if entry.1 = "pluck" ∨ entry.1 = "op_and" ∨ entry.1 = "op_or" then areNames entry.2
  else true

/-- **Options with those of a dictionary in place of their own.** -/
def override (o : Options) (entries : Dict Json) : Options where
  default := Dict.setting "default" some entries o.default
  first := Dict.setting "first" (fun value => (asBool "first" value).toOption) entries o.first
  pluck := Dict.setting "pluck" (fun value => (asPluck value).toOption) entries o.pluck
  debug := Dict.setting "debug" (fun value => (asBool "debug" value).toOption) entries o.debug
  opAnd :=
    Dict.setting "op_and" (fun value => (asOperators "op_and" value).toOption) entries o.opAnd
  opOr := Dict.setting "op_or" (fun value => (asOperators "op_or" value).toOption) entries o.opOr

variable {o : Options} {key : String} {value : Json} {entries : Dict Json}

/-- A map of entries overrides one entry after the other. -/
theorem override_cons (o : Options) (h : Dict.Ordered ((key, value) :: entries)) :
    o.override ((key, value) :: entries) = (o.override [(key, value)]).override entries := by
  unfold override
  simp only [h.setting_cons]

/-- **Options stay as they are if each entry leaves them so.** -/
theorem override_eq_self_iff (h : Dict.Ordered entries) :
    o.override entries = o ↔ ∀ entry ∈ entries, o.override [entry] = o := by
  obtain ⟨default, first, pluck, debug, opAnd, opOr⟩ := o
  simp only [override, Options.mk.injEq, h.setting_eq_iff, forall_and]

/-! ## Reading values -/

/-- Exactly booleans are read as booleans. -/
theorem isOk_asBool (key : String) (value : Json) :
    (asBool key value).isOk = value.asBool?.isSome := by
  cases value <;> rfl

/-- Exactly lists of strings are read as lists of strings. -/
theorem isOk_asStrings (fault : Json → OptionFault) (items : List Json) :
    (asStrings fault items).isOk = items.all fun item => item.asString?.isSome := by
  induction items with
  | nil => rfl
  | cons item rest ih =>
    rw [List.all_cons, ← ih]
    cases item with
    | string text => exact isOk_map _ _
    | null | bool | number | array | object => rfl

/-- Exactly names are read as what to pluck. -/
theorem isOk_asPluck (value : Json) : (asPluck value).isOk = areNames value := by
  cases value with
  | array items =>
    unfold asPluck areNames
    rw [isOk_map, isOk_asStrings]
  | null | bool | number | string | object => rfl

/-- Exactly names are read as operators. -/
theorem isOk_asOperators (key : String) (value : Json) :
    (asOperators key value).isOk = areNames value := by
  cases value with
  | array items =>
    unfold asOperators areNames
    rw [isOk_map, isOk_asStrings]
  | null | bool | number | string | object => rfl

/-! ## One entry -/

/-- An entry that is admitted sets its option. -/
theorem setKey_of_admits (o : Options) (h : admits (key, value) = true) :
    o.setKey key value =
      .ok (if key ∈ reservedKeys then some (o.override [(key, value)]) else none) := by
  unfold admits at h
  unfold setKey override
  simp only [Dict.setting_singleton, reservedKeys]
  by_cases hdefault : key = "default"
  · subst hdefault
    simp
  by_cases hfirst : key = "first"
  · subst hfirst
    obtain ⟨b, hb⟩ := exists_of_isOk ((isOk_asBool "first" value).trans (by simpa using h))
    simp [hb, Except.map, Except.toOption]
  by_cases hdebug : key = "debug"
  · subst hdebug
    obtain ⟨b, hb⟩ := exists_of_isOk ((isOk_asBool "debug" value).trans (by simpa using h))
    simp [hb, Except.map, Except.toOption]
  by_cases hpluck : key = "pluck"
  · subst hpluck
    obtain ⟨p, hp⟩ := exists_of_isOk ((isOk_asPluck value).trans (by simpa using h))
    simp [hp, Except.map, Except.toOption]
  by_cases hand : key = "op_and"
  · subst hand
    obtain ⟨ops, hops⟩ :=
      exists_of_isOk ((isOk_asOperators "op_and" value).trans (by simpa using h))
    simp [hops, Except.map, Except.toOption]
  by_cases hor : key = "op_or"
  · subst hor
    obtain ⟨ops, hops⟩ :=
      exists_of_isOk ((isOk_asOperators "op_or" value).trans (by simpa using h))
    simp [hops, Except.map, Except.toOption]
  simp [hdefault, hfirst, hdebug, hpluck, hand, hor]

/-- **An entry that is not admitted is a fault, whatever the options are.** -/
theorem setKey_of_not_admits (h : admits (key, value) = false) :
    ∃ fault, ∀ o : Options, o.setKey key value = .error fault := by
  unfold admits at h
  unfold setKey
  split at h
  next hbool =>
    obtain ⟨fault, hfault⟩ := exists_of_not_isOk ((isOk_asBool key value).trans h)
    refine ⟨fault, fun o => ?_⟩
    rcases hbool with rfl | rfl <;> simp [hfault, Except.map]
  next =>
    split at h
    next hnames =>
      rcases hnames with rfl | hops
      · obtain ⟨fault, hfault⟩ := exists_of_not_isOk ((isOk_asPluck value).trans h)
        refine ⟨fault, fun o => ?_⟩
        simp [hfault, Except.map]
      · obtain ⟨fault, hfault⟩ := exists_of_not_isOk ((isOk_asOperators key value).trans h)
        refine ⟨fault, fun o => ?_⟩
        rcases hops with rfl | rfl <;> simp [hfault, Except.map]
    next => cases h

/-- Keys that are no option's set nothing. -/
theorem override_singleton_of_not_mem (o : Options) (value : Json) (h : key ∉ reservedKeys) :
    o.override [(key, value)] = o := by
  simp only [reservedKeys, List.mem_cons, List.not_mem_nil, or_false, not_or] at h
  obtain ⟨hdefault, hfirst, hpluck, hdebug, hand, hor⟩ := h
  unfold override
  simp only [Dict.setting_singleton, if_neg (Ne.symm hdefault), if_neg (Ne.symm hfirst),
    if_neg (Ne.symm hpluck), if_neg (Ne.symm hdebug), if_neg (Ne.symm hand), if_neg (Ne.symm hor)]

/-! ## A pass over the entries -/

/-- **A pass goes on after an entry that is admitted**, with its option set. -/
theorem mergeEntries_cons (o : Options) (h : admits (key, value) = true) (entries : Dict Json) :
    o.mergeEntries ((key, value) :: entries) =
      let (final, named) := (o.override [(key, value)]).mergeEntries entries
      (final, if key ∈ reservedKeys then named else named.map ((key, value) :: ·)) := by
  rw [mergeEntries, setKey_of_admits o h]
  by_cases hkey : key ∈ reservedKeys
  · simp only [if_pos hkey]
  · simp only [if_neg hkey, override_singleton_of_not_mem o value hkey]

/-- **A pass over entries that are all admitted** sets their options and collects the others. -/
theorem mergeEntries_of_admits (o : Options) (hentries : Dict.Ordered entries)
    (h : ∀ entry ∈ entries, admits entry = true) :
    o.mergeEntries entries =
      (o.override entries, .ok (entries.filter fun entry => entry.1 ∉ reservedKeys)) := by
  induction entries generalizing o with
  | nil => rfl
  | cons entry rest ih =>
    obtain ⟨key, value⟩ := entry
    have hrest : ∀ entry ∈ rest, admits entry = true :=
      fun entry hentry => h entry (List.mem_cons_of_mem _ hentry)
    rw [mergeEntries_cons o (h _ List.mem_cons_self), override_cons o hentries,
      ih _ (List.pairwise_cons.1 hentries).2 hrest]
    by_cases hkey : key ∈ reservedKeys
    · simp [hkey]
    · simp [hkey, Except.map]

/-- **A pass stops at the first entry that is not admitted**, with the options before it set. -/
theorem mergeEntries_append_cons (o : Options) (hentries : Dict.Ordered entries)
    (h : ∀ entry ∈ entries, admits entry = true) (hstop : admits (key, value) = false)
    (rest : Dict Json) :
    ∃ fault, (∀ other : Options, other.setKey key value = .error fault) ∧
      o.mergeEntries (entries ++ (key, value) :: rest) = (o.override entries, .error fault) := by
  obtain ⟨fault, hfault⟩ := setKey_of_not_admits hstop
  refine ⟨fault, hfault, ?_⟩
  induction entries generalizing o with
  | nil =>
    rw [List.nil_append, mergeEntries, hfault o]
    rfl
  | cons entry entries ih =>
    obtain ⟨k, v⟩ := entry
    have hnext : ∀ entry ∈ entries, admits entry = true :=
      fun entry hentry => h entry (List.mem_cons_of_mem _ hentry)
    rw [List.cons_append, mergeEntries_cons o (h _ List.mem_cons_self), override_cons o hentries,
      ih _ (List.pairwise_cons.1 hentries).2 hnext]
    by_cases hkey : k ∈ reservedKeys
    · simp [hkey]
    · simp [hkey, Except.map]

/-! ## Failing merges -/

variable {map : Dict Json} {final : Options} {e : Error}

/-- A merge fails with the fault of its pass, and the options are left as the pass leaves them. -/
theorem merge_of_pass_error {fault : OptionFault} (h : o.mergeEntries map = (final, .error fault)) :
    o.merge map = (final, .error (.invalidOption fault)) := by
  rw [merge, h]

/-- After a pass without a fault the options are checked. -/
theorem merge_of_pass_ok {named : Dict Json} (h : o.mergeEntries map = (final, .ok named)) :
    o.merge map = (final, final.validate.map fun _ => named) := by
  rw [merge, h]
  cases hvalid : final.validate <;> simp [Except.map, hvalid]

/-- **What a failing merge leaves behind**: the options of the entries before the first one that is
not admitted, which the error is about; where all are admitted, all options, and these break a rule.
The options are as before only if each of those entries sets what was there already. -/
theorem merge_of_error (o : Options) (hmap : Dict.Ordered map)
    (h : (o.merge map).2 = .error e) :
    let settled := map.takeWhile admits
    (o.merge map).1 = o.override settled ∧
    ((o.merge map).1 = o ↔ ∀ entry ∈ settled, o.override [entry] = o) ∧
    match map.dropWhile admits with
    | [] => (o.merge map).1.validate = .error e
    | (key, value) :: _ =>
      ∃ fault, (∀ other : Options, other.setKey key value = .error fault) ∧
        e = .invalidOption fault := by
  intro settled
  have hsettled : ∀ entry ∈ settled, admits entry = true :=
    List.all_eq_true.1 List.all_takeWhile
  have hordered : Dict.Ordered settled := hmap.sublist (List.takeWhile_sublist _)
  have hsplit : settled ++ map.dropWhile admits = map := List.takeWhile_append_dropWhile
-- the pass ends at the first value that does not fit; without one the check of the whole fails
  cases hstop : map.dropWhile admits with
  | nil =>
    rw [hstop, List.append_nil] at hsplit
    have hpass := mergeEntries_of_admits o hordered hsettled
    rw [hsplit] at hpass
    have hmerge := merge_of_pass_ok hpass
    rw [hmerge] at h ⊢
    refine ⟨hsplit ▸ rfl, hsplit ▸ override_eq_self_iff hordered, ?_⟩
    cases hvalid : (o.override map).validate with
    | ok => simp [Except.map, hvalid] at h
    | error fault => simpa [Except.map, hvalid] using h
  | cons entry rest =>
    obtain ⟨key, value⟩ := entry
    have hnot : admits (key, value) = false := by
      have hhead := List.head?_dropWhile_not admits map
      rwa [hstop] at hhead
    obtain ⟨fault, hfault, hpass⟩ := mergeEntries_append_cons o hordered hsettled hnot rest
    rw [← hstop, hsplit] at hpass
    have hmerge := merge_of_pass_error hpass
    rw [hmerge] at h ⊢
    refine ⟨rfl, override_eq_self_iff hordered, fault, hfault, ?_⟩
    exact (Except.error.inj h).symm

/-- A map whose third entry has a text where a boolean belongs. -/
def sampleFaulty : Dict Json :=
  [("debug", .bool true), ("default", .null), ("first", .string "yes"), ("op_and", .string "&")]

/-- The case of a map with a faulty value between others. -/
theorem merge_of_error_sample :
    Dict.Ordered sampleFaulty ∧
    (({} : Options).merge sampleFaulty).2 =
      .error (.invalidOption (.notBoolean "first" (.string "yes"))) ∧
    (({} : Options).merge sampleFaulty).1 =
      ({} : Options).override [("debug", .bool true), ("default", .null)] ∧
    (({} : Options).merge sampleFaulty).1 ≠ {} := by
  have hordered : Dict.Ordered sampleFaulty := by
    unfold sampleFaulty Dict.Ordered
    decide
  obtain ⟨hleft, hsame, -⟩ := merge_of_error {} hordered rfl
  refine ⟨hordered, rfl, hleft, ?_⟩
  intro hunchanged
  have hdebug := hsame.1 hunchanged ("debug", .bool true) List.mem_cons_self
  cases congrArg Options.debug hdebug

/-- **A failing merge can change the options**: the entry before the fault stays set. -/
theorem exists_changed_of_error :
    ∃ (o : Options) (map : Dict Json) (e : Error),
      Dict.Ordered map ∧ (o.merge map).2 = .error e ∧ (o.merge map).1 ≠ o := by
  refine ⟨{}, [("debug", .bool true), ("first", .string "yes")],
    .invalidOption (.notBoolean "first" (.string "yes")), ?_, rfl, ?_⟩
  · unfold Dict.Ordered
    decide
  · intro hunchanged
    cases congrArg Options.debug hunchanged

end Options

end RecordFilter
