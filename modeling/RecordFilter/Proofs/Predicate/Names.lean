import RecordFilter.Predicate.Resolution
import RecordFilter.Proofs.Config.Checked

/-!
# Names of predicates

A qualified name is written as its three parts with dots between them, and read as them. A name in a
query is first written out, by the default namespace or by the namespace of its prefix, and these
have two parts each; so what is left for the query is one part, or all three.

* `ThreeParts`, `PredicateName.WellFormed` — texts of three parts, and names that have such a text.
* `PredicateName.qualified_eq_ok_iff` — **reading a qualified name is the inverse of writing it**.
* `PredicateName.Gives`, `PredicateName.Refused` — the two outcomes of a name.
* `PredicateName.resolve_exact` — **what a name means**.
-/

namespace RecordFilter

/-- A text of three parts with dots between them. -/
def ThreeParts (text : String) : Prop :=
  ∃ space subspace leaf, IsPart space ∧ IsPart subspace ∧ IsPart leaf ∧
    text = space ++ "." ++ subspace ++ "." ++ leaf

namespace PredicateName

/-! ## Qualified names -/

/-- **A name whose parts are parts of a dotted text.** -/
structure WellFormed (name : PredicateName) : Prop where
  space : IsPart name.space
  subspace : IsPart name.subspace
  leaf : IsPart name.leaf

/-- The text of a name is its three parts with dots between them. -/
theorem toList_text (name : PredicateName) :
    name.text.toList =
      name.space.toList ++ '.' :: (name.subspace.toList ++ '.' :: name.leaf.toList) := by
  simp [text, String.toList_append]

/-- The text of a well-formed name has three parts. -/
theorem WellFormed.threeParts {name : PredicateName} (h : name.WellFormed) :
    ThreeParts name.text :=
  ⟨name.space, name.subspace, name.leaf, h.space, h.subspace, h.leaf, rfl⟩

/-- Three parts are the text of a well-formed name. -/
theorem exists_of_threeParts {text : String} (h : ThreeParts text) :
    ∃ name : PredicateName, name.WellFormed ∧ name.text = text := by
  obtain ⟨space, subspace, leaf, hspace, hsubspace, hleaf, rfl⟩ := h
  exact ⟨⟨space, subspace, leaf⟩, ⟨hspace, hsubspace, hleaf⟩, rfl⟩

/-- A qualified name is read part by part. -/
theorem qualified_text {name : PredicateName} (h : name.WellFormed) :
    qualified name.text = .ok name := by
  have hsplit : Text.splitAll '.' name.text.toList =
      [name.space.toList, name.subspace.toList, name.leaf.toList] :=
    Text.splitAll_eq_three_iff.2 ⟨h.space.2, h.subspace.2, h.leaf.2, toList_text name⟩
  unfold qualified
  rw [hsplit]
  simp [h.space.1, h.subspace.1, h.leaf.1]

/-- A qualified name is well-formed, and its text is what it was read from. -/
theorem of_qualified {text : String} {name : PredicateName} (h : qualified text = .ok name) :
    name.WellFormed ∧ name.text = text := by
  unfold qualified at h
  split at h
  next space subspace leaf hsplit =>
    obtain ⟨hspace, hsubspace, hleaf, htext⟩ := Text.splitAll_eq_three_iff.1 hsplit
    split at h
    next => cases h
    next hne =>
      obtain rfl := Except.ok.inj h
      simp only [Bool.or_eq_true, List.isEmpty_iff, not_or] at hne
      refine ⟨⟨(isPart_ofList_iff space).2 ⟨hne.1.1, hspace⟩,
        (isPart_ofList_iff subspace).2 ⟨hne.1.2, hsubspace⟩,
        (isPart_ofList_iff leaf).2 ⟨hne.2, hleaf⟩⟩, ?_⟩
      rw [← String.toList_inj, toList_text]
      simp [htext]
  next => cases h

/-- **Reading a qualified name is the inverse of writing it**, on the texts of three parts. -/
theorem qualified_eq_ok_iff {text : String} {name : PredicateName} :
    qualified text = .ok name ↔ name.WellFormed ∧ name.text = text := by
  constructor
  · exact of_qualified
  · rintro ⟨hname, rfl⟩
    exact qualified_text hname

/-- Exactly texts of three parts are qualified names. -/
theorem exists_qualified_iff (text : String) :
    (∃ name, qualified text = .ok name) ↔ ThreeParts text := by
  constructor
  · rintro ⟨name, h⟩
    obtain ⟨hname, rfl⟩ := of_qualified h
    exact hname.threeParts
  · intro h
    obtain ⟨name, hname, rfl⟩ := exists_of_threeParts h
    exact ⟨name, qualified_text hname⟩

/-- Any other text is refused as it is written. -/
theorem qualified_of_not_threeParts {text : String} (h : ¬ ThreeParts text) :
    qualified text = .error (.invalidPredicateName text) := by
  rw [← exists_qualified_iff] at h
  unfold qualified at h ⊢
  split
  next space subspace leaf hsplit =>
    rw [hsplit] at h
    dsimp only at h
    split
    next => rfl
    next hne => exact absurd ⟨_, if_neg hne⟩ h
  next => rfl

/-! ## Names in a query -/

variable {config : Config} {name full short rest space : String}

/-- **The name means the predicate of a full name.** -/
def Gives (config : Config) (name full : String) : Prop :=
  ∃ resolved, resolve config name = .ok resolved ∧ resolved.WellFormed ∧ resolved.text = full

/-- The name is refused, as it was written. -/
def Refused (config : Config) (name : String) : Prop :=
  resolve config name = .error (.invalidPredicateName name)

/-- **A name means what it is written out to**, if that has three parts. -/
theorem gives_of_threeParts (h : ThreeParts (expand config name)) :
    Gives config name (expand config name) := by
  obtain ⟨resolved, hresolved⟩ := (exists_qualified_iff _).2 h
  refine ⟨resolved, ?_, of_qualified hresolved⟩
  rw [resolve, hresolved]

/-- A name is refused if it does not expand to three parts. -/
theorem refused_of_not_threeParts (h : ¬ ThreeParts (expand config name)) :
    Refused config name := by
  unfold Refused resolve
  split
  next resolved hresolved => exact absurd ((exists_qualified_iff _).1 ⟨resolved, hresolved⟩) h
  next => rfl

/-- What follows a namespace of two parts has to be one part. -/
theorem threeParts_append_iff (hspace : TwoParts space) :
    ThreeParts (space ++ "." ++ rest) ↔ IsPart rest := by
  obtain ⟨first, second, hfirst, hsecond, rfl⟩ := hspace
  constructor
  · rintro ⟨space, subspace, leaf, hspace, hsubspace, hleaf, htext⟩
    have hparts : Text.splitAll '.' (first ++ "." ++ second ++ "." ++ rest).toList =
        [space.toList, subspace.toList, leaf.toList] := by
      rw [Text.splitAll_eq_three_iff]
      refine ⟨hspace.2, hsubspace.2, hleaf.2, ?_⟩
      rw [htext]
      simp [String.toList_append]
    have hlist : (first ++ "." ++ second ++ "." ++ rest).toList =
        first.toList ++ '.' :: (second.toList ++ '.' :: rest.toList) := by
      simp [String.toList_append]
    rw [hlist, Text.splitAll_append_cons hfirst.2, Text.splitAll_append_cons hsecond.2,
      List.cons.injEq, List.cons.injEq, Text.splitAll_eq_cons_iff] at hparts
    obtain ⟨-, -, -, ⟨hrest, -⟩ | ⟨_, -, hnil⟩⟩ := hparts
    · rwa [String.toList_inj.1 hrest]
    · exact absurd hnil (Text.splitAll_ne_nil _ _)
  · intro hrest
    exact ⟨first, second, rest, hfirst, hsecond, hrest, rfl⟩

/-! ### Names written out -/

/-- A name without a dot is in the default namespace. -/
theorem expand_of_no_dot (h : '.' ∉ name.toList) :
    expand config name = config.defaultNamespace ++ "." ++ name := by
  rw [expand, Text.splitOnce?, Text.splitFirst?_of_not_mem h]
  rfl

/-- A name with a dot is cut at its first one. -/
theorem splitOnce?_dotted (h : '.' ∉ short.toList) (rest : String) :
    Text.splitOnce? '.' (short ++ "." ++ rest) = some (short, rest) := by
  rw [Text.splitOnce?, toList_dotted, Text.splitFirst?_append_cons h]
  simp

/-- A short name is replaced by what it stands for. -/
theorem expand_of_short (h : '.' ∉ short.toList)
    (hspace : Dict.find? short config.prefixes = some space) (rest : String) :
    expand config (short ++ "." ++ rest) = space ++ "." ++ rest := by
  simp only [expand, splitOnce?_dotted h, hspace]

/-- A name that begins with no short name is left as it is. -/
theorem expand_of_no_short (h : '.' ∉ short.toList)
    (hspace : Dict.find? short config.prefixes = none) (rest : String) :
    expand config (short ++ "." ++ rest) = short ++ "." ++ rest := by
  simp only [expand, splitOnce?_dotted h, hspace]

/-- **A name that is written out with a namespace** has to be one part. -/
theorem outcome_of_expand (hspace : TwoParts space)
    (h : expand config name = space ++ "." ++ rest) :
    (IsPart rest → Gives config name (space ++ "." ++ rest)) ∧
      (¬ IsPart rest → Refused config name) := by
  have hparts : ThreeParts (expand config name) ↔ IsPart rest := h ▸ threeParts_append_iff hspace
  rw [← hparts, ← h]
  exact ⟨gives_of_threeParts, refused_of_not_threeParts⟩

/-- The error of a name is the name as it was written. -/
theorem eq_of_resolve_error {e : Error} (h : resolve config name = .error e) :
    e = .invalidPredicateName name := by
  unfold resolve at h
  split at h
  · cases h
  · exact (Except.error.inj h).symm

/-- What a name resolves to is qualified. -/
theorem qualified_of_resolve {resolved : PredicateName} (h : resolve config name = .ok resolved) :
    qualified resolved.text = .ok resolved := by
  unfold resolve at h
  split at h
  next hqualified =>
    obtain rfl := Except.ok.inj h
    exact qualified_text (of_qualified hqualified).1
  next => cases h

/-- **What a name means.** Without a dot it belongs to the default namespace, if it is not empty. If
what stands before its first dot is a prefix, then what follows has to be one part and belongs to
the namespace of the prefix. Any other name has to be a full name of three parts, and is taken as it
is. All other names are refused as they were written. Full names are read as their parts and written
as they were read, and whatever a name means has a full name that means it. -/
theorem resolve_exact {document : String} (hconfig : Config.parse document = .ok config) :
    (∀ name, '.' ∉ name.toList →
      (name ≠ "" → Gives config name (config.defaultNamespace ++ "." ++ name)) ∧
      (name = "" → Refused config name)) ∧
    (∀ short rest space, '.' ∉ short.toList → Dict.find? short config.prefixes = some space →
      (IsPart rest → Gives config (short ++ "." ++ rest) (space ++ "." ++ rest)) ∧
      (¬ IsPart rest → Refused config (short ++ "." ++ rest))) ∧
    (∀ short rest, '.' ∉ short.toList → Dict.find? short config.prefixes = none →
      (ThreeParts (short ++ "." ++ rest) →
        Gives config (short ++ "." ++ rest) (short ++ "." ++ rest)) ∧
      (¬ ThreeParts (short ++ "." ++ rest) → Refused config (short ++ "." ++ rest))) ∧
    (∀ name e, resolve config name = .error e → e = .invalidPredicateName name) ∧
    (∀ text, (∃ name, qualified text = .ok name) ↔ ThreeParts text) ∧
    (∀ text name, qualified text = .ok name ↔ name.WellFormed ∧ name.text = text) ∧
    ∀ name resolved,
      resolve config name = .ok resolved → qualified resolved.text = .ok resolved := by
  have hchecked := Config.checked_of_parse hconfig
  refine ⟨?_, ?_, ?_, fun _ _ => eq_of_resolve_error, exists_qualified_iff,
    fun _ _ => qualified_eq_ok_iff, fun _ _ => qualified_of_resolve⟩
  · intro name hdot
    obtain ⟨hgives, hrefused⟩ := outcome_of_expand hchecked.namespaceParts (expand_of_no_dot hdot)
    refine ⟨fun hne => hgives ⟨hne, hdot⟩, ?_⟩
    rintro rfl
    exact hrefused fun hpart => hpart.1 rfl
  · intro short rest space hdot hspace
    have hentry := hchecked.prefixParts _ (Dict.mem_of_find? hspace)
    exact outcome_of_expand hentry.2 (expand_of_short hdot hspace rest)
  · intro short rest hdot hspace
    have hexpand := expand_of_no_short hdot hspace rest
    constructor
    · intro hparts
      have hgives := gives_of_threeParts (hexpand ▸ hparts)
      rwa [hexpand] at hgives
    · intro hparts
      apply refused_of_not_threeParts
      rwa [hexpand]

/-- Names under the configuration of the empty document, whose one prefix is `x`. -/
theorem resolve_exact_sample :
    Config.parse "" = .ok {} ∧
    Gives {} "eq" "builtin.tests.eq" ∧ Gives {} "x.between" "sift.extra.between" ∧
    Refused {} "x.a.b" ∧ Refused {} ".eq" := by
  have hconfig : Config.parse "" = .ok {} := rfl
  obtain ⟨hplain, hshort, hother, -⟩ := resolve_exact hconfig
  refine ⟨hconfig, (hplain "eq" (by decide)).1 (by decide), ?_, ?_, ?_⟩
  · exact (hshort "x" "between" "sift.extra" (by decide) rfl).1 ⟨by decide, by decide⟩
  · exact (hshort "x" "a.b" "sift.extra" (by decide) rfl).2 fun hpart => hpart.2 (by decide)
  · refine (hother "" "eq" (by decide) rfl).2 fun hparts => ?_
    obtain ⟨name, hname⟩ := (exists_qualified_iff _).2 hparts
    cases hname

end PredicateName

end RecordFilter
