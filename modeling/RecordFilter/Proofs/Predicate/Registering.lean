import Mathlib.Data.Finset.Card
import Mathlib.Data.Prod.Lex
import Mathlib.Data.String.Basic
import RecordFilter.Proofs.History.Standing
import RecordFilter.Proofs.Predicate.Names
import RecordFilter.Proofs.Predicate.Registered

/-!
# Registries as finite maps

A registry is what was registered in it. After any registrations, refused ones among them, it has
under each name the predicate that was registered last under it, and shows the same names however it
is asked.

* `PredicateName.key` — the lexicographic order of names.
* `Registry.ordered_insert`, `Registry.mem_names_iff` — entries stay in order, and the names that
  are listed are those under which a predicate is found.
* `Registry.sortNames`, `Registry.Ordered.names_eq_sortNames` — the names are any listing of the
  registered ones, sorted.
* `Registry.attempt`, `Registry.registerAll` — one registration, which may be refused, and a
  sequence of them.
* `Registry.Holds` — the invariant; `Registry.holds_attempt`, `Registry.holds_registerAll` — one
  registration keeps it, and so does a sequence.
* `Registry.registerAll_observed` — **what a registry shows after any registrations.**
-/

namespace RecordFilter

/-! ## The order of names -/

namespace PredicateName

/-- **A name as a triple in lexicographic order.** -/
def key (name : PredicateName) : Lex (String × Lex (String × String)) :=
  toLex (name.space, toLex (name.subspace, name.leaf))

/-- A name is determined by its key. -/
theorem key_injective : Function.Injective key := by
  rintro ⟨space, subspace, leaf⟩ ⟨space', subspace', leaf'⟩ h
  simpa [key] using h

/-- The order of names is that of their triples. -/
theorem lt_iff_key_lt {a b : PredicateName} : a.lt b = true ↔ a.key < b.key := by
  simp [lt, key, Prod.Lex.toLex_lt_toLex]

/-- Of two names one comes first. -/
theorem key_lt_of_not_lt {a b : PredicateName} (hne : a ≠ b) (hlt : ¬ a.lt b = true) :
    b.key < a.key := by
  rw [lt_iff_key_lt, not_lt] at hlt
  exact lt_of_le_of_ne hlt fun heq => hne (key_injective heq).symm

end PredicateName

namespace Registry

/-! ## Entries in order -/

/-- **The names of a registry ascend.** -/
def Ordered (r : Registry) : Prop := r.names.Pairwise fun a b => a.key < b.key

variable {r : Registry} {name : PredicateName} {predicate : Predicate}

/-- The empty registry is in order. -/
theorem ordered_empty : empty.Ordered := List.Pairwise.nil

/-- The names of the entries, one by one. -/
theorem names_mk_cons (entry : PredicateName × Predicate)
    (rest : List (PredicateName × Predicate)) : names ⟨entry :: rest⟩ = entry.1 :: names ⟨rest⟩ :=
  rfl

/-- An insertion brings in one name. -/
theorem mem_names_insertEntry {entries : List (PredicateName × Predicate)} {other : PredicateName}
    (h : other ∈ names ⟨insertEntry name predicate entries⟩) :
    other = name ∨ other ∈ names ⟨entries⟩ := by
  induction entries with
  | nil => exact .inl (List.mem_singleton.1 h)
  | cons entry rest ih =>
    unfold insertEntry at h
    split at h
    · rcases List.mem_cons.1 h with h | h
      · exact .inl h
      · exact .inr (List.mem_cons_of_mem _ h)
    · split at h
      · exact List.mem_cons.1 h
      · rcases List.mem_cons.1 h with h | h
        · exact .inr (h ▸ List.mem_cons_self)
        · exact (ih h).imp_right (List.mem_cons_of_mem _)

/-- **Insertion keeps the order.** -/
theorem ordered_insert (h : r.Ordered) : (r.insert name predicate).Ordered := by
  obtain ⟨entries⟩ := r
  show Ordered ⟨insertEntry name predicate entries⟩
  induction entries with
  | nil => exact List.pairwise_singleton _ _
  | cons entry rest ih =>
    obtain ⟨hfirst, hrest⟩ := List.pairwise_cons.1 h
    unfold insertEntry
    split
    next heq =>
      refine List.pairwise_cons.2 ⟨?_, hrest⟩
      rwa [heq]
    next hne =>
      split
      next hlt =>
        rw [PredicateName.lt_iff_key_lt] at hlt
        refine List.pairwise_cons.2 ⟨fun other hother => ?_, h⟩
        rcases List.mem_cons.1 hother with rfl | hother
        · exact hlt
        · exact hlt.trans (hfirst other hother)
-- the new entry goes in further on, and is greater than the first one
      next hlt =>
        refine List.pairwise_cons.2 ⟨fun other hother => ?_, ih hrest⟩
        rcases mem_names_insertEntry hother with rfl | hother
        · exact PredicateName.key_lt_of_not_lt hne hlt
        · exact hfirst other hother

/-- No name is registered twice. -/
theorem Ordered.nodup (h : r.Ordered) : r.names.Nodup :=
  List.Pairwise.imp (fun hlt heq => hlt.ne (congrArg PredicateName.key heq)) h

/-- The names that are listed are those under which a predicate is found. -/
theorem mem_names_iff : name ∈ r.names ↔ ∃ predicate, r.find? name = some predicate := by
  obtain ⟨entries⟩ := r
  induction entries with
  | nil => simp [names, find?]
  | cons entry rest ih =>
    rw [names_mk_cons, List.mem_cons, ih, find?_mk_cons]
    by_cases heq : entry.1 = name
    · simp [heq]
    · simp [heq, Ne.symm heq]

/-- A name is contained exactly if it is found. -/
theorem contains_eq_true_iff :
    r.contains name = true ↔ ∃ predicate, r.find? name = some predicate :=
  Option.isSome_iff_exists

/-- A name resolves to what is found. -/
theorem resolve_eq_ok_iff : r.resolve name = .ok predicate ↔ r.find? name = some predicate := by
  unfold resolve
  cases r.find? name <;> simp

/-- A name that is not found does not resolve. -/
theorem resolve_of_none (h : r.find? name = none) :
    r.resolve name = .error (.unknownPredicate name) := by
  rw [resolve, h]

/-- The size is the number of names. -/
theorem size_eq_length_names (r : Registry) : r.size = r.names.length :=
  (List.length_map _).symm

/-! ## The names as a sorted listing -/

/-- **Names that are listed in any order, sorted.** -/
def sortNames (listed : List PredicateName) : List PredicateName :=
  listed.mergeSort fun a b => !b.lt a

/-- Sorted names do not descend. -/
theorem pairwise_sortNames (listed : List PredicateName) :
    (sortNames listed).Pairwise fun a b => a.key ≤ b.key := by
  have hle (a b : PredicateName) : (!b.lt a) = true ↔ a.key ≤ b.key := by
    rw [Bool.not_eq_true', ← Bool.not_eq_true, PredicateName.lt_iff_key_lt, not_lt]
  refine (List.pairwise_mergeSort ?_ ?_ listed).imp fun {a b} h => (hle a b).1 h
  · intro a b c hab hbc
    rw [hle] at *
    exact hab.trans hbc
  · intro a b
    rw [Bool.or_eq_true, hle, hle]
    exact le_total a.key b.key

/-- **The names of a registry are any listing of them, sorted.** A listing has each registered name
once, in whatever order. -/
theorem Ordered.names_eq_sortNames (h : r.Ordered) {listed : List PredicateName}
    (hnodup : listed.Nodup) (hlisted : ∀ name, name ∈ listed ↔ r.contains name = true) :
    r.names = sortNames listed := by
  have hsame : ∀ name, name ∈ r.names ↔ name ∈ listed := by
    intro name
    rw [mem_names_iff, hlisted, contains_eq_true_iff]
  have hperm : r.names.Perm (sortNames listed) :=
    ((List.perm_ext_iff_of_nodup h.nodup hnodup).2 hsame).trans (List.mergeSort_perm _ _).symm
  refine hperm.eq_of_pairwise ?_ (h.imp fun hlt => hlt.le) (pairwise_sortNames listed)
  intro a b _ _ hab hba
  exact PredicateName.key_injective (le_antisymm hab hba)

/-! ## Registrations -/

/-- **One registration.** If it is refused the registry stays as it is. -/
def attempt (r : Registry) (call : String × Predicate) : Registry × Except Error Unit :=
  match r.register call.1 call.2 with
  | .ok r => (r, .ok ())
  | .error e => (r, .error e)

/-- **A sequence of registrations**: the registry after it, and all outcomes. -/
def registerAll (r : Registry) : List (String × Predicate) → Registry × List (Except Error Unit)
  | [] => (r, [])
  | call :: rest =>
    let after := (r.attempt call).1.registerAll rest
    (after.1, (r.attempt call).2 :: after.2)

/-- A registration names a predicate if its text is a qualified name of it. -/
def Names (name : PredicateName) (call : String × Predicate) : Prop :=
  PredicateName.qualified call.1 = .ok name

/-- **The predicate that was registered last under a name.** -/
def LastRegistered (calls : List (String × Predicate)) (name : PredicateName)
    (predicate : Predicate) : Prop :=
  ∃ text, Names name (text, predicate) ∧ Stands (Names name) calls (text, predicate)

variable {call : String × Predicate} {calls : List (String × Predicate)}

/-- A call with a proper name registers its predicate. -/
theorem attempt_of_names (h : Names name call) :
    r.attempt call = (r.insert name call.2, .ok ()) := by
  rw [attempt, register, h]

/-- **A text that is no qualified name is refused, and changes nothing.** -/
theorem attempt_of_not_threeParts (h : ¬ ThreeParts call.1) :
    r.attempt call = (r, .error (.invalidPredicateName call.1)) := by
  rw [attempt, register, PredicateName.qualified_of_not_threeParts h]

/-- A text has three parts exactly if it is that of a name. -/
theorem threeParts_iff : ThreeParts call.1 ↔ ∃ name, Names name call :=
  (PredicateName.exists_qualified_iff call.1).symm

/-- The last registration of a name, with one more call. -/
theorem lastRegistered_concat : LastRegistered (calls ++ [call]) name predicate ↔
    Names name call ∧ call.2 = predicate ∨
      ¬ Names name call ∧ LastRegistered calls name predicate := by
  unfold LastRegistered
  simp only [stands_concat]
  constructor
  · rintro ⟨text, hnames, rfl | ⟨hstands, hcall⟩⟩
    · exact .inl ⟨hnames, rfl⟩
    · exact .inr ⟨hcall, text, hnames, hstands⟩
  · rintro (⟨hnames, rfl⟩ | ⟨hcall, text, hnames, hstands⟩)
    · exact ⟨call.1, hnames, .inl rfl⟩
    · exact ⟨text, hnames, .inr ⟨hstands, hcall⟩⟩

/-- A name that was used has a predicate that was registered last under it. -/
theorem exists_lastRegistered_iff :
    (∃ predicate, LastRegistered calls name predicate) ↔ ∃ call ∈ calls, Names name call := by
  constructor
  · rintro ⟨predicate, text, hnames, hstands⟩
    exact ⟨_, hstands.mem, hnames⟩
  · rintro ⟨call, hmem, hnames⟩
    obtain ⟨⟨text, predicate⟩, hlast, hstands⟩ := exists_stands hmem hnames
    exact ⟨predicate, text, hlast, hstands⟩

/-! ## What a registry holds -/

/-- **A registry holds what was registered**: its names ascend, and under each it has the predicate
that was registered last. -/
structure Holds (r : Registry) (calls : List (String × Predicate)) : Prop where
  ordered : r.Ordered
  find?_iff : ∀ name predicate, r.find? name = some predicate ↔ LastRegistered calls name predicate

/-- The empty registry holds what no calls have registered. -/
theorem holds_empty : empty.Holds [] where
  ordered := ordered_empty
  find?_iff name predicate := by
    constructor
    · intro h
      cases h
    · rintro ⟨text, -, hstands⟩
      exact absurd hstands not_stands_nil

/-- **One registration keeps the invariant.** -/
theorem holds_attempt (h : r.Holds calls) (call : String × Predicate) :
    (r.attempt call).1.Holds (calls ++ [call]) := by
  by_cases hparts : ThreeParts call.1
  · obtain ⟨name, hnames⟩ := threeParts_iff.1 hparts
    rw [attempt_of_names hnames]
    refine ⟨ordered_insert h.ordered, fun other predicate => ?_⟩
    rw [find?_insert, lastRegistered_concat]
    by_cases heq : name = other
    · subst heq
      simp [hnames]
    · have hother : ¬ Names other call := fun hother =>
        heq (Except.ok.inj (hnames.symm.trans hother))
      simp [heq, hother, h.find?_iff]
  · rw [attempt_of_not_threeParts hparts]
    refine ⟨h.ordered, fun other predicate => ?_⟩
    have hother : ¬ Names other call := fun hother => hparts (threeParts_iff.2 ⟨other, hother⟩)
    simp [lastRegistered_concat, hother, h.find?_iff]

/-- **A sequence of registrations keeps the invariant.** -/
theorem holds_registerAll (h : r.Holds calls) (more : List (String × Predicate)) :
    (r.registerAll more).1.Holds (calls ++ more) := by
  induction more generalizing r calls with
  | nil => rwa [registerAll, List.append_nil]
  | cons call rest ih =>
    have hrest := ih (holds_attempt h call)
    rwa [List.append_assoc, List.singleton_append] at hrest

namespace Holds

/-- A predicate is found under the names that were used. -/
theorem exists_find?_iff (h : r.Holds calls) :
    (∃ predicate, r.find? name = some predicate) ↔ ∃ call ∈ calls, Names name call := by
  simp only [h.find?_iff]
  exact exists_lastRegistered_iff

/-- A name that was not used is not found. -/
theorem find?_of_not_used (h : r.Holds calls) (hunused : ∀ call ∈ calls, ¬ Names name call) :
    r.find? name = none := by
  refine Option.eq_none_iff_forall_ne_some.2 fun predicate hfind => ?_
  obtain ⟨call, hmem, hnames⟩ := h.exists_find?_iff.1 ⟨predicate, hfind⟩
  exact hunused call hmem hnames

/-- The names that are listed are those that were used. -/
theorem toFinset_names (h : r.Holds calls) : r.names.toFinset =
    (calls.filterMap fun call => (PredicateName.qualified call.1).toOption).toFinset := by
  ext name
  have hnames (call : String × Predicate) :
      (PredicateName.qualified call.1).toOption = some name ↔ Names name call := by
    unfold Names
    cases PredicateName.qualified call.1 <;> simp [Except.toOption]
  simp only [List.mem_toFinset, mem_names_iff, h.exists_find?_iff, List.mem_filterMap, hnames]

/-- **A registry has as many predicates as names were used.** -/
theorem size_eq_card (h : r.Holds calls) : r.size =
    (calls.filterMap fun call => (PredicateName.qualified call.1).toOption).toFinset.card := by
  rw [size_eq_length_names, ← h.toFinset_names, List.toFinset_card_of_nodup h.ordered.nodup]

/-- **After any registrations** the names are the registered ones, collected in any order and
sorted. -/
theorem names_eq_sortNames (h : r.Holds calls) {listed : List PredicateName}
    (hnodup : listed.Nodup)
    (hlisted : ∀ name, name ∈ listed ↔ ∃ call ∈ calls, Names name call) :
    r.names = sortNames listed := by
  refine h.ordered.names_eq_sortNames hnodup fun name => ?_
  rw [hlisted, contains_eq_true_iff, h.exists_find?_iff]

end Holds

/-- **The outcomes of registrations**: a text of three parts is accepted, and any other refused. -/
theorem forall₂_registerAll (r : Registry) (calls : List (String × Predicate)) :
    List.Forall₂ (fun call outcome =>
      ThreeParts call.1 ∧ outcome = .ok () ∨
        ¬ ThreeParts call.1 ∧ outcome = .error (.invalidPredicateName call.1))
      calls (r.registerAll calls).2 := by
  induction calls generalizing r with
  | nil => exact .nil
  | cons call rest ih =>
    refine .cons ?_ (ih _)
    by_cases hparts : ThreeParts call.1
    · obtain ⟨name, hnames⟩ := threeParts_iff.1 hparts
      exact .inl ⟨hparts, by rw [attempt_of_names hnames]⟩
    · exact .inr ⟨hparts, by rw [attempt_of_not_threeParts hparts]⟩

/-- **A registry is a finite map.** After any registrations in an empty registry, of texts that are
names and of texts that are not, the latter have been refused and would change nothing again. A name
has a predicate, and is listed, if and only if a registration used it; then the predicate that was
registered last under it is found and called, and its failures carry the name. Other names are
unknown. There are as many predicates as names that were used, and the names are listed once each in
ascending order of namespace, subspace and leaf. -/
theorem registerAll_observed (calls : List (String × Predicate)) :
    ∃ r outcomes, empty.registerAll calls = (r, outcomes) ∧
      List.Forall₂ (fun call outcome =>
        ThreeParts call.1 ∧ outcome = .ok () ∨
          ¬ ThreeParts call.1 ∧ outcome = .error (.invalidPredicateName call.1)) calls outcomes ∧
      (∀ call, ¬ ThreeParts call.1 →
        r.attempt call = (r, .error (.invalidPredicateName call.1))) ∧
      (∀ name,
        (r.contains name = true ↔ ∃ call ∈ calls, Names name call) ∧
        ((∃ predicate, r.resolve name = .ok predicate) ↔ ∃ call ∈ calls, Names name call) ∧
        (name ∈ r.names ↔ ∃ call ∈ calls, Names name call)) ∧
      (∀ name predicate, LastRegistered calls name predicate →
        r.resolve name = .ok predicate ∧
          ∀ value args kwargs, r.invoke name value args kwargs =
            (predicate value args kwargs).mapError (.predicate name)) ∧
      (∀ name, (∀ call ∈ calls, ¬ Names name call) →
        r.resolve name = .error (.unknownPredicate name) ∧
          ∀ value args kwargs,
            r.invoke name value args kwargs = .error (.unknownPredicate name)) ∧
      r.size =
        (calls.filterMap fun call => (PredicateName.qualified call.1).toOption).toFinset.card ∧
      (r.isEmpty = true ↔ r.size = 0) ∧
      r.names.Nodup ∧ r.names.Pairwise fun a b => a.key < b.key := by
  have h := holds_registerAll holds_empty calls
  rw [List.nil_append] at h
  refine ⟨_, _, rfl, forall₂_registerAll empty calls, fun call => attempt_of_not_threeParts,
    fun name => ⟨?_, ?_, ?_⟩, fun name predicate hlast => ?_, fun name hunused => ?_,
    h.size_eq_card, ?_, h.ordered.nodup, h.ordered⟩
  · rw [contains_eq_true_iff, h.exists_find?_iff]
  · simp only [resolve_eq_ok_iff, h.exists_find?_iff]
  · rw [mem_names_iff, h.exists_find?_iff]
  · have hresolve := resolve_eq_ok_iff.2 ((h.find?_iff name predicate).2 hlast)
    refine ⟨hresolve, fun value args kwargs => ?_⟩
    rw [invoke, hresolve]
  · have hresolve := resolve_of_none (h.find?_of_not_used hunused)
    refine ⟨hresolve, fun value args kwargs => ?_⟩
    rw [invoke, hresolve]
  · rw [isEmpty, size, List.isEmpty_iff, List.length_eq_zero_iff]

end Registry

end RecordFilter
