import RecordFilter.Proofs.Evaluation.Lifting
import RecordFilter.Query.Session

/-!
# Scalars and objects

Records that are scalars are tested whole; with each scalar as the only member of an object, and the
name of that member in front of every clause, the same predicates are called on the same values.

* `SameOutcome` — related results, or the same error.
* `Call.withSubject`, `Behaviour.Blind` — a call of the clause on another attribute; predicates do
  not see attributes.
* `Traced.lifting`, `Recording.lifting` — computations whose calls differ in attributes only.
* `Group.EvaluatesAs` — a tree evaluates as another tree does on other records.
* `Group.scalars_agree_with_objects` — **scalars and objects agree**, in what builds and in what it
  calls and finds.
-/

namespace RecordFilter

/-! ## Calls on another attribute -/

/-- Two related results, or the same error twice. -/
inductive SameOutcome {α β : Type} (A : α → β → Prop) : Except Error α → Except Error β → Prop
  | ok {a : α} {b : β} (h : A a b) : SameOutcome A (.ok a) (.ok b)
  | error (e : Error) : SameOutcome A (.error e) (.error e)

/-- Every outcome is the same as itself. -/
theorem SameOutcome.refl {α : Type} (x : Except Error α) : SameOutcome (· = ·) x x := by
  cases x with
  | ok a => exact .ok rfl
  | error e => exact .error e

/-- Outcomes with equal results are equal. -/
theorem SameOutcome.eq {α : Type} {x y : Except Error α} (h : SameOutcome (· = ·) x y) :
    y = x := by
  cases h with
  | ok h => rw [h]
  | error e => rfl

/-- The call of the clause on another attribute. The value stays. -/
def Call.withSubject (subject : Attribute) (call : Call) : Call :=
  { call with clause := call.clause.withSubject subject }

/-- **Predicates do not see the attribute**: calls on another one are answered alike. -/
def Behaviour.Blind (behaviour : Behaviour) (subject : Attribute) : Prop :=
  ∀ before call, behaviour (before.map (Call.withSubject subject)) (call.withSubject subject) =
    behaviour before call

/-- **Computations whose calls differ in their attributes only**, with related results. -/
def Traced.lifting (subject : Attribute) : Lifting Traced Traced where
  rel A x y := SameOutcome A x.outcome y.outcome ∧ y.calls = x.calls.map (Call.withSubject subject)
  pure h := ⟨.ok h, rfl⟩
  bind := by
    rintro α β γ δ A B ⟨calls, outcome⟩ ⟨calls', outcome'⟩ f g ⟨houtcome, hcalls⟩ hfg
    dsimp only at houtcome hcalls
    subst hcalls
    cases houtcome with
    | error e => exact ⟨.error e, rfl⟩
    | ok h =>
      obtain ⟨hnext, hcalls⟩ := hfg _ _ h
      rw [bind_of_ok rfl, bind_of_ok rfl]
      exact ⟨hnext, by rw [hcalls, List.map_append]⟩

/-- What a recording computation gives after some calls. -/
def Recording.after {α : Type} (x : Recording α) (before : List Call) :
    Except Error α × List Call :=
  (ExceptT.run x).run before

/-- After some calls, a sequence runs its first part, and the second after the calls of the first.
-/
theorem Recording.after_bind {α β : Type} (x : Recording α) (f : α → Recording β)
    (before : List Call) :
    after (x >>= f) before =
      match after x before with
      | (.ok a, calls) => after (f a) calls
      | (.error e, calls) => (.error e, calls) := by
  unfold after
  simp only [ExceptT.run_bind, StateT.run_bind]
  show (match (ExceptT.run x).run before with
    | (r, calls) => _) = _
  cases (ExceptT.run x).run before with
  | mk r calls => cases r <;> rfl

/-- A test under a behaviour: one call, after those before it. -/
theorem Behaviour.after_test (behaviour : Behaviour) (clause : Clause) (c : Candidate)
    (before : List Call) :
    Recording.after (behaviour.test clause c) before =
      (match behaviour before ⟨clause, c.index, clause.subject.lookup c.record⟩ with
        | .ok answer => .ok (answer != clause.negate)
        | .error fault => .error (.predicate clause.predicate fault),
        before ++ [⟨clause, c.index, clause.subject.lookup c.record⟩]) := by
  unfold Behaviour.test
  rw [Recording.after_bind]
  show Recording.after (_ >>= _) before = _
  rw [Recording.after_bind]
  show Recording.after (match behaviour before _ with | .ok _ => _ | .error _ => _)
    (before ++ [_]) = _
  cases behaviour before ⟨clause, c.index, clause.subject.lookup c.record⟩ <;> rfl

/-- **Recordings whose calls differ in their attributes only**, after calls that do. -/
def Recording.lifting (subject : Attribute) : Lifting Recording Recording where
  rel A x y := ∀ before,
    SameOutcome A (after x before).1 (after y (before.map (Call.withSubject subject))).1 ∧
      (after y (before.map (Call.withSubject subject))).2 =
        (after x before).2.map (Call.withSubject subject)
  pure h _ := ⟨.ok h, rfl⟩
  bind := by
    intro α β γ δ A B x y f g hxy hfg before
    obtain ⟨houtcome, hcalls⟩ := hxy before
    rw [after_bind, after_bind]
    generalize after x before = r at houtcome hcalls
    generalize after y (before.map (Call.withSubject subject)) = r' at houtcome hcalls
    obtain ⟨outcome, calls⟩ := r
    obtain ⟨outcome', calls'⟩ := r'
    dsimp only at houtcome hcalls
    subst hcalls
    cases houtcome with
    | error e => exact ⟨.error e, rfl⟩
    | ok h => exact hfg _ _ h calls

/-! ## Clauses -/

section

variable {subject : Attribute} {f : Json → Json} {clause : Clause}
  (h : ∀ record, subject.lookup (f record) = clause.subject.lookup record)
include h

/-- **A clause calls its predicate on the same values**, wherever they are. -/
theorem Clause.selectsAlike_select (registry : Registry) :
    clause.SelectsAlike (Traced.lifting subject) f (Clause.withSubject subject)
      (Clause.select registry) (Clause.select registry) := by
  intro candidates
  have hname : (clause.withSubject subject).predicate = clause.predicate := rfl
  rw [Clause.select, Clause.select, hname]
  cases registry.resolve clause.predicate with
  | error e => exact ⟨.error e, rfl⟩
  | ok predicate =>
    dsimp only
    rw [Clause.filter_eq_filterWith, Clause.filter_eq_filterWith]
    refine Candidate.lift_filterWith _ (fun c => ?_) candidates
    have hvalue : (clause.withSubject subject).subject.lookup (c.move f).record =
        clause.subject.lookup c.record := h c.record
    have htest : ((clause.withSubject subject).test predicate (c.move f)).outcome =
        (clause.test predicate c).outcome := by
      unfold Clause.test
      rw [hvalue]
      rfl
    refine ⟨htest ▸ .refl _, ?_⟩
    unfold Clause.test
    rw [hvalue]
    rfl

/-- The same for predicates with a memory. -/
theorem Clause.selectsAlike_behaviour {behaviour : Behaviour} (hblind : behaviour.Blind subject) :
    clause.SelectsAlike (Recording.lifting subject) f (Clause.withSubject subject)
      behaviour.select behaviour.select := by
  refine Candidate.lift_filterWith _ fun c before => ?_
  rw [Behaviour.after_test, Behaviour.after_test]
  have hcall : (⟨clause.withSubject subject, (c.move f).index,
      (clause.withSubject subject).subject.lookup (c.move f).record⟩ : Call) =
      Call.withSubject subject ⟨clause, c.index, clause.subject.lookup c.record⟩ :=
    congrArg (Call.mk _ _) (h c.record)
  rw [hcall, hblind]
  refine ⟨.refl _, ?_⟩
  show before.map _ ++ [_] = (before ++ [_]).map _
  rw [List.map_append]
  rfl

end

/-! ## Trees -/

namespace Group

/-- **A tree evaluates as another does on other records**: with the same result, or the same error,
after the same calls, which differ in the attribute only. This holds for all matches and for the
first one, and also if the answers of predicates depend on the calls before. -/
structure EvaluatesAs (subject : Attribute) (f : Json → Json) (records : List Json) (a b : Group) :
    Prop where
  evaluate (registry : Registry) (onlyFirst : Bool) :
    (b.evaluate registry onlyFirst (records.map f)).outcome =
        (a.evaluate registry onlyFirst records).outcome ∧
      (b.evaluate registry onlyFirst (records.map f)).calls =
        (a.evaluate registry onlyFirst records).calls.map (Call.withSubject subject)
  evaluateUnder (registry : Registry) (behaviour : Behaviour) (onlyFirst : Bool)
    (hblind : behaviour.Blind subject) :
    b.evaluateUnder registry behaviour onlyFirst (records.map f) =
      ((a.evaluateUnder registry behaviour onlyFirst records).1,
        (a.evaluateUnder registry behaviour onlyFirst records).2.map (Call.withSubject subject))

variable {subject : Attribute} {f : Json → Json} {a : Group}

/-- Another attribute changes nothing about the predicates that are missing. -/
theorem unresolved?_withSubject (registry : Registry) :
    (a.mapClauses (Clause.withSubject subject)).unresolved? registry = a.unresolved? registry := by
  rw [unresolved?, unresolved?, clauses_mapClauses, List.find?_map, Option.map_map]
  rfl

/-- **A tree on another attribute evaluates as the tree did**, if the records have there what they
had. -/
theorem evaluatesAs_withSubject
    (h : ∀ clause ∈ a.clauses, ∀ record, subject.lookup (f record) = clause.subject.lookup record)
    (records : List Json) :
    EvaluatesAs subject f records a (a.mapClauses (Clause.withSubject subject)) where
  evaluate registry onlyFirst := by
    rw [evaluate_eq_searchWith, evaluate_eq_searchWith, unresolved?_withSubject, List.isEmpty_map]
    split
    · exact ⟨rfl, rfl⟩
    · have hsearch := lift_searchWith
        (fun clause hmem => Clause.selectsAlike_select (h clause hmem) registry) records onlyFirst
      exact ⟨hsearch.1.eq, hsearch.2⟩
  evaluateUnder registry behaviour onlyFirst hblind := by
    unfold evaluateUnder
    rw [unresolved?_withSubject, List.isEmpty_map]
    dsimp only
    split
    · rfl
    · have hsearch := lift_searchWith
        (fun clause hmem => Clause.selectsAlike_behaviour (h clause hmem) hblind) records onlyFirst
      exact Prod.ext (hsearch []).1.eq (hsearch []).2

end Group

/-! ## Scalars as members of objects -/

/-- A value as the only member of an object. -/
def Json.member (key : String) (value : Json) : Json := .object [(key, value)]

/-- A scalar stands in an object under its key. -/
theorem Attribute.lookup_member (key : String) (value : Json) :
    (path [key]).lookup (.member key value) = whole.lookup value := by
  simp [lookup, step, Json.member, Dict.find?]

section

variable {values : List Json}

/-- Values that are no objects are read as scalars. -/
theorem isScalar_of_forall (hne : values ≠ []) (h : ∀ v ∈ values, v.isObject = false) :
    isScalar values = true := by
  simpa [isScalar, hne] using h

/-- Values under a key are read as objects. -/
theorem isScalar_members (hne : values ≠ []) (key : String) :
    isScalar (values.map (Json.member key)) = false := by
  obtain ⟨v, rest, rfl⟩ := List.exists_cons_of_ne_nil hne
  rfl

end

namespace Group

/-- **Scalars and objects agree.** Some records without an object among them are tested whole; as
members of objects they are not. A token list builds a tree for the first exactly if it builds one
for the second with the name of the member in front of every run of terms. The two trees differ in
their attributes only, and evaluate alike: with the same matches, or first match, or error, after
the same calls on the same values. -/
theorem scalars_agree_with_objects {key : String} (hkey : key ≠ "") (hdot : '.' ∉ key.toList)
    {values : List Json} (hne : values ≠ []) (hvalues : ∀ v ∈ values, v.isObject = false)
    (config : Config) (tokens : List Bound) :
    isScalar values = true ∧ isScalar (values.map (Json.member key)) = false ∧
      Agree (fun a b => (∀ c ∈ a.clauses, c.subject = .whole) ∧
          b = a.mapClauses (Clause.withSubject (.path [key])) ∧
          EvaluatesAs (.path [key]) (Json.member key) values a b)
        (build config true tokens) (build config false (Bound.insertSubject key tokens)) := by
  refine ⟨isScalar_of_forall hne hvalues, isScalar_members hne key, ?_⟩
  refine (agree_build_insertSubject hkey hdot config tokens).imp fun {a b} h => ?_
  obtain ⟨hwhole, rfl⟩ := h
  refine ⟨hwhole, rfl, evaluatesAs_withSubject (fun clause hmem record => ?_) values⟩
  rw [hwhole clause hmem, Attribute.lookup_member]

/-- Terms in runs, in a group inside a group. -/
def sampleTerms : List Bound :=
  [.opening, .term (.word "not"), .term (.word "eq"), .term (.value (.string "a")), .operator .any,
    .opening, .term (.word "in"), .term (.word "[1]"), .closing, .closing]

/-- The case of two scalars under a key. -/
theorem scalars_agree_with_objects_sample :
    "k" ≠ "" ∧ '.' ∉ "k".toList ∧ [Json.string "a", .null] ≠ [] ∧
      (∀ v ∈ [Json.string "a", .null], v.isObject = false) ∧
      (∃ g, build {} true sampleTerms = .ok g) ∧
      isScalar [.string "a", .null] = true ∧
      isScalar ([.string "a", .null].map (Json.member "k")) = false ∧
      Agree (fun a b => (∀ c ∈ a.clauses, c.subject = .whole) ∧
          b = a.mapClauses (Clause.withSubject (.path ["k"])) ∧
          EvaluatesAs (.path ["k"]) (Json.member "k") [.string "a", .null] a b)
        (build {} true sampleTerms) (build {} false (Bound.insertSubject "k" sampleTerms)) := by
  have hkey : "k" ≠ "" := by decide
  have hdot : '.' ∉ "k".toList := by decide
  have hne : [Json.string "a", .null] ≠ [] := List.cons_ne_nil _ _
  have hvalues : ∀ v ∈ [Json.string "a", .null], v.isObject = false := by simp [Json.isObject]
  exact ⟨hkey, hdot, hne, hvalues, ⟨_, rfl⟩, scalars_agree_with_objects hkey hdot hne hvalues {} _⟩

end Group

end RecordFilter
