import RecordFilter.Config.Document
import RecordFilter.Proofs.Text.Separated

/-!
# Checked configurations

What a document gives has been checked, so its operators, its namespace and its prefixes keep the
rules of a configuration.

* `IsPart`, `TwoParts` — the parts of a dotted text, and texts of two parts.
* `Config.Checked` — **what the rules of a configuration say**.
* `Config.fault?_eq_none_iff` — a configuration has no fault if and only if it keeps them.
* `Config.checked_of_parse` — the configuration of a document is checked.
-/

namespace RecordFilter

/-! ## Dotted texts -/

/-- **A part of a dotted text**: it is not empty and has no dot in it. -/
def IsPart (text : String) : Prop := text ≠ "" ∧ '.' ∉ text.toList

/-- A text of two parts with a dot between them. -/
def TwoParts (text : String) : Prop :=
  ∃ first second, IsPart first ∧ IsPart second ∧ text = first ++ "." ++ second

/-- The characters of two parts around a dot. -/
theorem toList_dotted (first second : String) :
    (first ++ "." ++ second).toList = first.toList ++ '.' :: second.toList := by
  simp [String.toList_append]

/-- A text is one part if it is not empty and has no dot in it. -/
theorem isPart_ofList_iff (cs : List Char) : IsPart (String.ofList cs) ↔ cs ≠ [] ∧ '.' ∉ cs := by
  rw [IsPart, String.toList_ofList, ne_eq, String.ofList_eq_empty_iff]

namespace Config

/-- The test for two parts finds two parts. -/
theorem isTwoParts_iff (text : String) : isTwoParts text = true ↔ TwoParts text := by
  unfold isTwoParts
  constructor
  · intro h
    split at h
    next first second hsplit =>
      obtain ⟨hfirst, htext⟩ := Text.splitFirst?_eq_some_iff.1 hsplit
      simp only [Bool.and_eq_true, Bool.not_eq_true', List.isEmpty_eq_false_iff,
        List.contains_eq_mem, decide_eq_false_iff_not] at h
      refine ⟨String.ofList first, String.ofList second,
        (isPart_ofList_iff first).2 ⟨h.1.1, hfirst⟩,
        (isPart_ofList_iff second).2 ⟨h.1.2, h.2⟩, ?_⟩
      rw [← String.toList_inj, toList_dotted, String.toList_ofList, String.toList_ofList, htext]
    next => cases h
  · rintro ⟨first, second, ⟨hfirst, hfirstDot⟩, ⟨hsecond, hsecondDot⟩, rfl⟩
    rw [toList_dotted, Text.splitFirst?_append_cons hfirstDot]
    simp [hfirst, hsecond, hsecondDot]

/-! ## Rules -/

/-- **What the rules of a configuration say.** -/
structure Checked (config : Config) : Prop where
  someAnd : config.andOps ≠ []
  someOr : config.orOps ≠ []
  /-- No literal stands for both combinators. -/
  distinct : ∀ op ∈ config.andOps, op ∉ config.orOps
  operators : ∀ op ∈ config.andOps ++ config.orOps, op ≠ "" ∧ Text.hasWhitespace op = false
  namespaceParts : TwoParts config.defaultNamespace
  prefixParts : ∀ entry ∈ config.prefixes, IsPart entry.1 ∧ TwoParts entry.2

variable {config : Config}

/-- The test for an operator: it is not empty and has no whitespace in it. -/
theorem isOperator_iff (op : String) :
    isOperator op = true ↔ op ≠ "" ∧ Text.hasWhitespace op = false := by
  simp [isOperator]

/-- The test for a prefix: a short name of one part stands for one of two. -/
theorem isPrefixEntry_iff (entry : String × String) :
    isPrefixEntry entry = true ↔ IsPart entry.1 ∧ TwoParts entry.2 := by
  simp [isPrefixEntry, IsPart, isTwoParts_iff]

/-- **A configuration has no fault if and only if it keeps all rules.** -/
theorem fault?_eq_none_iff : config.fault? = none ↔ config.Checked := by
  unfold fault?
  constructor
  · intro h
-- the checks stand one after the other: each is reached if the ones before it have passed
    split at h
    next => cases h
    next hsome =>
      split at h
      next => cases h
      next hdistinct =>
        split at h
        next => cases h
        next hoperators =>
          split at h
          next => cases h
          next hnamespace =>
            split at h
            next => cases h
            next hprefixes =>
              simp only [Bool.or_eq_true, List.isEmpty_iff, not_or] at hsome
              constructor
              case someAnd => exact hsome.1
              case someOr => exact hsome.2
              case distinct =>
                intro op hop hor
                exact List.find?_eq_none.1 hdistinct op hop (List.contains_iff_mem.2 hor)
              case operators =>
                rw [Bool.not_eq_true', Bool.not_eq_false] at hoperators
                exact fun op hop => (isOperator_iff op).1 (List.all_eq_true.1 hoperators op hop)
              case namespaceParts => simpa [isTwoParts_iff] using hnamespace
              case prefixParts => simpa [isPrefixEntry_iff] using hprefixes
  · intro h
    have hsome : ¬ (config.andOps.isEmpty || config.orOps.isEmpty) = true := by
      simp [h.someAnd, h.someOr]
    have hdistinct : config.andOps.find? (fun op => config.orOps.contains op) = none := by
      simpa using h.distinct
    have hoperators : (config.andOps ++ config.orOps).all isOperator = true :=
      List.all_eq_true.2 fun op hop => (isOperator_iff op).2 (h.operators op hop)
    have hprefixes : List.find? (fun entry => !isPrefixEntry entry) config.prefixes = none := by
      simpa [isPrefixEntry_iff] using h.prefixParts
    simp only [if_neg hsome, hdistinct, hoperators, (isTwoParts_iff _).2 h.namespaceParts,
      hprefixes, Bool.not_true, Bool.false_eq_true, if_false]

/-- **What a document gives has been checked.** -/
theorem checked_of_parse {text : String} (h : parse text = .ok config) : config.Checked := by
  unfold parse at h
  split at h
  next => cases h
  next entries hentries =>
    cases hread : ofEntries entries with
    | error e =>
      rw [hread] at h
      cases h
    | ok unchecked =>
      rw [hread] at h
      change unchecked.validate = .ok config at h
      unfold validate at h
      split at h
      next => cases h
      next hfault =>
        obtain rfl := Except.ok.inj h
        exact fault?_eq_none_iff.1 hfault

end Config

end RecordFilter
