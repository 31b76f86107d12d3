import RecordFilter.Command.Request
import RecordFilter.Proofs.Except.Success
import RecordFilter.Proofs.History.Standing
import RecordFilter.Proofs.Options.Overriding
import RecordFilter.Proofs.Text.Separated

/-!
# Switches before named entries before defaults

A request of the command line has three layers: the defaults, the named entries, of which the last
one for a key counts, and the switches. The switches for the first match and for timing are set
twice, once beneath the named entries and once above them, so a named entry can not take them back.

* `Command.Gives`, `Command.LastGiven` — which value the entries give a key.
* `Command.LastEntries` — the map of the values that are given; `Command.exists_lastEntries` — it is
  the map that is merged.
* `Command.SetByNamed` — what the last entry for a key sets.
* `QueryArguments.request_of_namedRequest` — the switches that are put over a merged map.
* `QueryArguments.Layered` — what each part of a request comes from.
* `QueryArguments.request_layered` — **where a request comes from, and when there is none.**
-/

namespace RecordFilter.Command

/-! ## Named entries -/

/-- **An entry gives a text for a key**: the key is what comes before the first equals sign. -/
def Gives (entry key text : String) : Prop :=
  '=' ∉ key.toList ∧ entry = key ++ "=" ++ text

/-- **The value that the last entry for a key gives**: the literal of its text. -/
def LastGiven (entries : List String) (key : String) (value : Json) : Prop :=
  ∃ entry text, Gives entry key text ∧ value = Json.ofLiteral text ∧
    Stands (fun later => ∃ text, Gives later key text) entries entry

/-- **The map of the values that entries give.** -/
structure LastEntries (entries : List String) (map : Dict Json) : Prop where
  ordered : Dict.Ordered map
  find?_iff : ∀ key value, Dict.find? key map = some value ↔ LastGiven entries key value

variable {entries : List String} {entry key text : String} {value : Json} {map : Dict Json}

/-- An entry is split into the key and the text that it gives. -/
theorem splitOnce?_eq_some_iff_gives :
    Text.splitOnce? '=' entry = some (key, text) ↔ Gives entry key text := by
  have htext : (key ++ "=" ++ text).toList = key.toList ++ '=' :: text.toList := by simp
  rw [Text.splitOnce?_eq_some_iff, Gives, ← htext, String.toList_inj]

/-- An entry gives one text, and for one key. -/
theorem Gives.unique {key' text' : String} (h : Gives entry key text)
    (h' : Gives entry key' text') : key = key' ∧ text = text' := by
  rw [← splitOnce?_eq_some_iff_gives] at h h'
  rw [h, Option.some.injEq, Prod.mk.injEq] at h'
  exact h'

/-- A named entry is read as its key and the literal of its text. -/
theorem namedEntry_of_gives (h : Gives entry key text) :
    namedEntry entry = .ok (key, Json.ofLiteral text) := by
  rw [namedEntry, splitOnce?_eq_some_iff_gives.2 h]

/-- An entry without an equals sign is a fault. -/
theorem namedEntry_of_not_mem (h : '=' ∉ entry.toList) :
    namedEntry entry = .error (.malformedNamed entry) := by
  rw [namedEntry, Text.splitOnce?_eq_none_iff.2 h]

/-- An entry with an equals sign gives something. -/
theorem exists_gives (h : '=' ∈ entry.toList) : ∃ key text, Gives entry key text := by
  cases hsplit : Text.splitOnce? '=' entry with
  | none => exact absurd h (Text.splitOnce?_eq_none_iff.1 hsplit)
  | some parts => exact ⟨parts.1, parts.2, splitOnce?_eq_some_iff_gives.1 hsplit⟩

/-! ### One more entry -/

/-- An entry for a key says what it is given. -/
theorem lastGiven_concat_of_gives (h : Gives entry key text) :
    LastGiven (entries ++ [entry]) key value ↔ value = Json.ofLiteral text := by
  constructor
  · rintro ⟨given, text', hgives, hvalue, hstands⟩
    rcases stands_concat.1 hstands with rfl | ⟨-, hnot⟩
    · rw [hvalue, (hgives.unique h).2]
    · exact absurd ⟨text, h⟩ hnot
  · intro hvalue
    exact ⟨entry, text, h, hvalue, stands_concat.2 (.inl rfl)⟩

/-- An entry for another key leaves what is given. -/
theorem lastGiven_concat_of_ne {other : String} (h : Gives entry other text) (hne : key ≠ other) :
    LastGiven (entries ++ [entry]) key value ↔ LastGiven entries key value := by
  have hnot : ¬ ∃ text, Gives entry key text := fun ⟨_, hgives⟩ => hne (hgives.unique h).1
  constructor
  · rintro ⟨given, text', hgives, hvalue, hstands⟩
    rcases stands_concat.1 hstands with rfl | ⟨hbefore, -⟩
    · exact absurd ⟨text', hgives⟩ hnot
    · exact ⟨given, text', hgives, hvalue, hbefore⟩
  · rintro ⟨given, text', hgives, hvalue, hstands⟩
    exact ⟨given, text', hgives, hvalue, stands_concat.2 (.inr ⟨hstands, hnot⟩)⟩

/-- No entries give nothing. -/
theorem lastEntries_nil : LastEntries [] [] where
  ordered := List.Pairwise.nil
  find?_iff key value := by
    constructor
    · intro h
      cases h
    · rintro ⟨entry, text, -, -, hstands⟩
      exact absurd hstands not_stands_nil

/-- **One more entry sets the value of its key.** -/
theorem LastEntries.concat (h : LastEntries entries map) (hgives : Gives entry key text) :
    LastEntries (entries ++ [entry]) (Dict.insert key (Json.ofLiteral text) map) where
  ordered := Dict.ordered_insert h.ordered
  find?_iff other value := by
    by_cases hkey : other = key
    · subst hkey
      rw [Dict.find?_insert_self, lastGiven_concat_of_gives hgives, Option.some.injEq, eq_comm]
    · rw [Dict.find?_insert_of_ne hkey, lastGiven_concat_of_ne hgives hkey, h.find?_iff]

/-- Entries have one map. -/
theorem LastEntries.unique {map' : Dict Json} (h : LastEntries entries map)
    (h' : LastEntries entries map') : map = map' := by
  refine h.ordered.ext h'.ordered fun key => Option.ext fun value => ?_
  rw [h.find?_iff, h'.find?_iff]

/-- A key that is given no value is not in the map. -/
theorem LastEntries.find?_eq_none (h : LastEntries entries map)
    (hnone : ∀ value, ¬ LastGiven entries key value) : Dict.find? key map = none :=
  Option.eq_none_iff_forall_ne_some.2 fun value hfind =>
    hnone value ((h.find?_iff key value).1 hfind)

/-! ### All entries -/

/-- The entries are read one after the other. -/
theorem mapM_concat : (entries ++ [entry]).mapM namedEntry =
    (entries.mapM namedEntry).bind fun pairs =>
      (namedEntry entry).map fun pair => pairs ++ [pair] := by
  rw [List.mapM_append, List.mapM_cons, List.mapM_nil]
  cases entries.mapM namedEntry with
  | error fault => rfl
  | ok pairs => cases namedEntry entry <;> rfl

/-- An entry without an equals sign ends the reading. -/
theorem exists_fault_of_not_mem (hentry : entry ∈ entries) (h : '=' ∉ entry.toList) :
    ∃ fault, entries.mapM namedEntry = .error fault := by
  induction entries using List.reverseRecOn with
  | nil => cases hentry
  | append_singleton entries last ih =>
    rw [mapM_concat]
    cases hbefore : entries.mapM namedEntry with
    | error fault => exact ⟨fault, rfl⟩
    | ok pairs =>
      rcases List.mem_append.1 hentry with hearlier | hlast
      · obtain ⟨fault, hfault⟩ := ih hearlier
        rw [hbefore] at hfault
        cases hfault
      · obtain rfl := List.mem_singleton.1 hlast
        exact ⟨.malformedNamed entry, by rw [namedEntry_of_not_mem h]; rfl⟩

/-- **Entries with equals signs are read, and the map of what they give is built.** -/
theorem exists_lastEntries (h : ∀ entry ∈ entries, '=' ∈ entry.toList) :
    ∃ pairs, entries.mapM namedEntry = .ok pairs ∧ LastEntries entries (Dict.ofList pairs) := by
  induction entries using List.reverseRecOn with
  | nil => exact ⟨[], rfl, lastEntries_nil⟩
  | append_singleton entries last ih =>
    rw [List.forall_mem_append] at h
    obtain ⟨pairs, hread, hmap⟩ := ih h.1
    obtain ⟨key, text, hgives⟩ := exists_gives (h.2 last List.mem_cons_self)
    refine ⟨pairs ++ [(key, Json.ofLiteral text)], ?_, ?_⟩
    · rw [mapM_concat, hread, namedEntry_of_gives hgives]
      rfl
    · have hconcat := hmap.concat hgives
      rwa [Dict.ofList, Dict.union, List.foldl_append]

/-! ## Options of named entries -/

/-- **What the last entry for a key sets**: the option that its value is read as, or the option as
it was before if there is no entry. -/
structure SetByNamed {α : Type} (entries : List String) (key : String)
    (read : Json → Except OptionFault α) (before option : α) : Prop where
  set : ∀ value, LastGiven entries key value → read value = .ok option
  kept : (∀ value, ¬ LastGiven entries key value) → option = before

/-- A setting of the map is what the last entry sets, if its value can be read. -/
theorem LastEntries.setByNamed {α : Type} {read : Json → Except OptionFault α} {before : α}
    (h : LastEntries entries map)
    (hread : ∀ value, Dict.find? key map = some value → (read value).isOk = true) :
    SetByNamed entries key read before
      (Dict.setting key (fun value => (read value).toOption) map before) where
  set value hgiven := by
    have hfind := (h.find?_iff key value).2 hgiven
    obtain ⟨option, hoption⟩ := exists_of_isOk (hread value hfind)
    rw [Dict.setting, hfind, Option.bind_some, hoption]
    rfl
  kept hnone := by
    rw [Dict.setting, h.find?_eq_none hnone]
    rfl

/-- A switch on top of what it had set before: the last entry counts if it turns the option on. -/
theorem SetByNamed.or_eq_true_iff {switch option : Bool}
    (h : SetByNamed entries key (Options.asBool key) switch option) :
    (switch || option) = true ↔ switch = true ∨ LastGiven entries key (.bool true) := by
  rw [Bool.or_eq_true]
  constructor
  · rintro (hswitch | rfl)
    · exact .inl hswitch
    · by_cases hgiven : ∃ value, LastGiven entries key value
      · obtain ⟨value, hvalue⟩ := hgiven
        obtain rfl := Options.asBool_eq_ok_iff.1 (h.set value hvalue)
        exact .inr hvalue
      · exact .inl (h.kept (not_exists.1 hgiven)).symm
  · rintro (hswitch | hgiven)
    · exact .inl hswitch
    · exact .inr (Json.bool.inj (Options.asBool_eq_ok_iff.1 (h.set _ hgiven))).symm

/-! ## Requests of query arguments -/

namespace QueryArguments

variable {a : QueryArguments} {r : Request}

/-- The options beneath the named entries: the defaults, and two of the switches. -/
def baseOptions (a : QueryArguments) : Options := { first := a.first, debug := a.debug }

/-- The request beneath the named entries. -/
def base (a : QueryArguments) : Request where
  query := a.query
  bindings := { positional := a.bind.map Json.ofLiteral }
  options := a.baseOptions

/-- Options with those of the switches in place of their own. -/
def switched (a : QueryArguments) (o : Options) : Options :=
  { o with
    default := (a.default.map Json.ofLiteral).getD o.default
    first := a.first || o.first
    pluck := a.projection.or o.pluck
    debug := a.debug || o.debug }

/-- **The entries are merged over the base.** -/
theorem namedRequest_of_mapM {pairs : List (String × Json)}
    (h : a.named.mapM namedEntry = .ok pairs) :
    a.namedRequest = ofEngine (a.base.withMap (Dict.ofList pairs)) := by
  have hrequest : a.namedRequest =
      if pairs.isEmpty then .ok a.base else ofEngine (a.base.withMap (Dict.ofList pairs)) := by
    rw [namedRequest, h]
    rfl
  cases pairs with
  | nil =>
    -- there is no merge then, but one of the empty map would change nothing
    have hnil : a.base.withMap [] = .ok a.base := rfl
    rw [Dict.ofList, Dict.union, List.foldl_nil, hnil]
    exact hrequest
  | cons pair rest => exact hrequest

/-- **The switches are put over what the entries give.** -/
theorem request_of_namedRequest (h : a.namedRequest = .ok r) :
    a.request = .ok { r with options := a.switched r.options } := by
  obtain ⟨query, file, bind, named, first, pluck, default, debug⟩ := a
  rw [request, h, switched]
  -- what is put over the options depends on which switches are given, and on whether one or several
  -- fields are
  rcases pluck with _ | ⟨field, _ | ⟨next, rest⟩⟩ <;>
    cases first <;> cases debug <;> cases default <;> rfl

/-- A request fails with its named entries. -/
theorem request_of_namedRequest_error {fault : Fault} (h : a.namedRequest = .error fault) :
    a.request = .error fault := by
  rw [request, h]
  rfl

/-! ### Layers -/

/-- **What each part of a request comes from**: a switch if it is given, else the last named entry
for the key, else the default. Named entries alone set operator literals, and bind the names that
are no option's. -/
structure Layered (a : QueryArguments) (r : Request) : Prop where
  query : r.query = a.query
  positional : r.bindings.positional = a.bind.map Json.ofLiteral
  ordered : Dict.Ordered r.bindings.named
  named : ∀ key value, Dict.find? key r.bindings.named = some value ↔
    key ∉ Options.reservedKeys ∧ LastGiven a.named key value
  first : r.options.first = true ↔ a.first = true ∨ LastGiven a.named "first" (.bool true)
  debug : r.options.debug = true ↔ a.debug = true ∨ LastGiven a.named "debug" (.bool true)
  noPluck : a.pluck = [] → SetByNamed a.named "pluck" Options.asPluck none r.options.pluck
  onePluck : ∀ field, a.pluck = [field] → r.options.pluck = some (.field field)
  manyPluck : 2 ≤ a.pluck.length → r.options.pluck = some (.fields a.pluck)
  noDefault : a.default = none → SetByNamed a.named "default" Except.ok .null r.options.default
  oneDefault : ∀ text, a.default = some text → r.options.default = Json.ofLiteral text
  opAnd : SetByNamed a.named "op_and" (Options.asOperators "op_and") none r.options.opAnd
  opOr : SetByNamed a.named "op_or" (Options.asOperators "op_or") none r.options.opOr

/-- Several fields are plucked as a list. -/
theorem projection_of_two_le (h : 2 ≤ a.pluck.length) : a.projection = some (.fields a.pluck) := by
  unfold projection
  split
  next heq => simp [heq] at h
  next heq => simp [heq] at h
  next => rfl

variable {map named : Dict Json} {options : Options}

/-- The names that are bound are those of the map that are no option's. -/
theorem find?_bound (hmap : LastEntries a.named map) (key : String) (value : Json) :
    Dict.find? key (Dict.union [] (map.filter fun entry => entry.1 ∉ Options.reservedKeys)) =
      some value ↔ key ∉ Options.reservedKeys ∧ LastGiven a.named key value := by
  have hfilter := Dict.find?_filter (fun key => decide (key ∉ Options.reservedKeys)) key map
  rw [Dict.find?_union (hmap.ordered.filter fun key => decide (key ∉ Options.reservedKeys)),
    hfilter, Dict.find?, Option.or_none, Option.ite_none_right_eq_some, decide_eq_true_iff,
    hmap.find?_iff]

/-- **The switches over a map that is merged over the defaults.** -/
theorem layered_of_merge (hmap : LastEntries a.named map)
    (hmerge : a.baseOptions.merge map = (options, .ok named)) :
    Layered a { a.base with
      bindings := { a.base.bindings with named := Dict.union [] named }
      options := a.switched options } := by
  have hadmits := Options.admits_of_merge_eq_ok hmerge
  have hfits : ∀ key value, Dict.find? key map = some value →
      Options.admits (key, value) = true :=
    fun key value hfind => hadmits _ (Dict.mem_of_find? hfind)
  obtain ⟨hset, -, rfl⟩ := (Options.merge_eq_ok_iff hmap.ordered).1 hmerge
  obtain rfl := hset.unique (Options.overridden_override hadmits)
  have hfirst : SetByNamed a.named "first" (Options.asBool "first") a.first
      (a.baseOptions.override map).first := hmap.setByNamed fun value hfind =>
    (Options.isOk_asBool "first" value).trans (hfits "first" value hfind)
  have hdebug : SetByNamed a.named "debug" (Options.asBool "debug") a.debug
      (a.baseOptions.override map).debug := hmap.setByNamed fun value hfind =>
    (Options.isOk_asBool "debug" value).trans (hfits "debug" value hfind)
-- a switch goes over what the entries give, one option after the other
  constructor
  case query => rfl
  case positional => rfl
  case ordered => exact Dict.ordered_union List.Pairwise.nil
  case named => exact find?_bound hmap
  case first => exact hfirst.or_eq_true_iff
  case debug => exact hdebug.or_eq_true_iff
  case noPluck =>
    intro hnone
    have hoption : (a.switched (a.baseOptions.override map)).pluck =
        (a.baseOptions.override map).pluck := by
      simp only [switched, projection, hnone, Option.none_or]
    rw [hoption]
    exact hmap.setByNamed fun value hfind =>
      (Options.isOk_asPluck value).trans (hfits "pluck" value hfind)
  case onePluck =>
    intro field hone
    simp only [switched, projection, hone, Option.some_or]
  case manyPluck =>
    intro hmany
    simp only [switched, projection_of_two_le hmany, Option.some_or]
  case noDefault =>
    intro hnone
    have hoption : (a.switched (a.baseOptions.override map)).default =
        (a.baseOptions.override map).default := by
      simp only [switched, hnone, Option.map_none, Option.getD_none]
    rw [hoption]
    exact hmap.setByNamed fun _ _ => rfl
  case oneDefault =>
    intro text hone
    simp only [switched, hone, Option.map_some, Option.getD_some]
  case opAnd =>
    exact hmap.setByNamed fun value hfind =>
      (Options.isOk_asOperators "op_and" value).trans (hfits "op_and" value hfind)
  case opOr =>
    exact hmap.setByNamed fun value hfind =>
      (Options.isOk_asOperators "op_or" value).trans (hfits "op_or" value hfind)

/-! ### Outcomes -/

section

variable {pairs : List (String × Json)}

/-- A map that is merged gives a request with these layers. -/
theorem exists_layered (hread : a.named.mapM namedEntry = .ok pairs)
    (hmap : LastEntries a.named (Dict.ofList pairs))
    (hmerge : a.baseOptions.merge (Dict.ofList pairs) = (options, .ok named)) :
    ∃ r, a.request = .ok r ∧ Layered a r := by
  have hnamed : a.namedRequest = .ok { a.base with
      options
      bindings := { a.base.bindings with named := Dict.union [] named } } := by
    rw [namedRequest_of_mapM hread,
      Request.withMap_eq_ok_iff.2 ⟨options, named, hmerge, rfl⟩]
    rfl
  exact ⟨_, request_of_namedRequest hnamed, layered_of_merge hmap hmerge⟩

/-- A map that is not merged gives no request. -/
theorem request_of_merge_error {e : Error} (hread : a.named.mapM namedEntry = .ok pairs)
    (hmerge : (a.baseOptions.merge (Dict.ofList pairs)).2 = .error e) :
    a.request = .error (.engine e) := by
  apply request_of_namedRequest_error
  rw [namedRequest_of_mapM hread, Request.withMap]
  have hbase : a.base.options.merge (Dict.ofList pairs) =
      ((a.baseOptions.merge (Dict.ofList pairs)).1, .error e) := Prod.ext rfl hmerge
  rw [hbase]
  rfl

end

/-- An entry without an equals sign gives no request. -/
theorem exists_fault_of_malformed {entry : String} (hentry : entry ∈ a.named)
    (h : '=' ∉ entry.toList) : ∃ fault, a.request = .error fault := by
  obtain ⟨fault, hfault⟩ := exists_fault_of_not_mem hentry h
  refine ⟨fault, request_of_namedRequest_error ?_⟩
  rw [namedRequest, hfault]
  rfl

/-- **Switches count before named entries, and these before the defaults.** Every request of query
arguments has its parts from these layers. There is no request if and only if a named entry has no
equals sign, or the map of the last entries can not be merged into the default options with the
switches for the first match and for timing. -/
theorem request_layered (a : QueryArguments) :
    (∀ r, a.request = .ok r → Layered a r) ∧
    ((∃ fault, a.request = .error fault) ↔
      (∃ entry ∈ a.named, '=' ∉ entry.toList) ∨
        ∃ map e, LastEntries a.named map ∧ (a.baseOptions.merge map).2 = .error e) := by
-- entries are read before they are merged, so that a malformed one is the fault in any case
  by_cases hsigns : ∀ entry ∈ a.named, '=' ∈ entry.toList
  · obtain ⟨pairs, hread, hmap⟩ := exists_lastEntries hsigns
    have hmalformed : ¬ ∃ entry ∈ a.named, '=' ∉ entry.toList := by simpa using hsigns
    cases hmerge : a.baseOptions.merge (Dict.ofList pairs) with
    | mk options result =>
      cases result with
      | ok named =>
        obtain ⟨r, hr, hlayered⟩ := exists_layered hread hmap hmerge
        refine ⟨fun r' hr' => ?_, ⟨fun ⟨fault, hfault⟩ => ?_, ?_⟩⟩
        · obtain rfl := Except.ok.inj (hr.symm.trans hr')
          exact hlayered
        · cases hr.symm.trans hfault
        · rintro (h | ⟨map, e, hlast, herror⟩)
          · exact absurd h hmalformed
          · rw [hlast.unique hmap, hmerge] at herror
            cases herror
      | error e =>
        have herror := request_of_merge_error hread (congrArg Prod.snd hmerge)
        refine ⟨fun r hr => ?_, ⟨fun _ => ?_, fun _ => ⟨_, herror⟩⟩⟩
        · cases herror.symm.trans hr
        · exact .inr ⟨_, e, hmap, congrArg Prod.snd hmerge⟩
  · simp only [not_forall] at hsigns
    obtain ⟨entry, hentry, hsign⟩ := hsigns
    obtain ⟨fault, hfault⟩ := exists_fault_of_malformed hentry hsign
    refine ⟨fun r hr => ?_, ⟨fun _ => .inl ⟨entry, hentry, hsign⟩, fun _ => ⟨fault, hfault⟩⟩⟩
    cases hfault.symm.trans hr

/-- Switches and named entries for the same options, keys that repeat, and a text with an equals
sign. -/
def sampleArguments : QueryArguments where
  query := "kind eq :t and age gt ?"
  bind := ["7"]
  named := ["first=true", "t=dog", "debug=false", "first=false", "t=a=b", "op_or=+", "default=1",
    "pluck=[\"id\"]"]
  debug := true
  default := some "none"

/-- The case of sample arguments with a switch and named entries. -/
theorem request_layered_sample : ∃ r, sampleArguments.request = .ok r ∧
    Layered sampleArguments r ∧ r.options.first = false ∧ r.options.debug = true ∧
      r.options.pluck = some (.fields ["id"]) ∧ r.options.opOr = some ["+"] := by
  have hoptions : (sampleArguments.request.toOption.any fun r => decide (r.options.first = false ∧
      r.options.debug = true ∧ r.options.pluck = some (.fields ["id"]) ∧
        r.options.opOr = some ["+"])) = true := by
    decide +kernel
  cases hrequest : sampleArguments.request with
  | error fault =>
    rw [hrequest] at hoptions
    cases hoptions
  | ok r =>
    rw [hrequest] at hoptions
    exact ⟨r, rfl, (request_layered sampleArguments).1 r hrequest, of_decide_eq_true hoptions⟩

end QueryArguments

end RecordFilter.Command
