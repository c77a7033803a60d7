import DocQuery.Proofs.Filter.Override
import DocQuery.Proofs.Json.Text
import DocQuery.Proofs.Predicate.Congruence
import DocQuery.Store.Populate

/-!
# References and the test for them

A reference is a string or a number, and its text tells it apart from every other value.  So a batch
keeps all its references when it keeps one value of each text.  The query that looks them up tests the
foreign field for being one of them (`PopulateClause.referenceTest`).

## Main definitions

* `Json.eq_of_text_of_isReference`, `PopulateClause.mem_references`: the distinct references are all
  references
* `PopulateClause.referenceTest`: the test on the foreign field
* `PopulateClause.accepts_referenceTest`: what passes the test
* `PopulateClause.eq_of_equal_referenceTest`: what equals the test
-/

namespace DocQuery

/-! ### References -/

section References

variable {v r : Json} {values : List Json} {doc : Document} {path : String}

theorem Json.object?_of_isReference (reference : r.isReference = true) : r.object? = none := by
  cases r <;> first | rfl | cases reference

theorem Json.operators?_of_isReference (reference : r.isReference = true) : r.operators? = none := by
  cases r <;> first | rfl | cases reference

theorem Json.ne_null_of_isReference (reference : r.isReference = true) : r ≠ .null := by
  rintro rfl
  cases reference

/-- A reference shares its text with no other value. -/
theorem Json.eq_of_text_of_isReference (reference : r.isReference = true) (same : v.text = r.text) :
    v = r := by
  cases r with
  | string s => exact Json.eq_string_of_text same
  | number n => exact Json.eq_number_of_text same
  | _ => cases reference

theorem Json.any_text_iff (reference : r.isReference = true) {found : Option Json} :
    found.any (·.text == r.text) = true ↔ found = some r := by
  cases found with
  | none => simp
  | some v =>
      rw [Option.any_some, beq_iff_eq, Option.some.injEq]
      exact ⟨eq_of_text_of_isReference reference, fun same => same ▸ rfl⟩

/-- Of the values with one text one is kept. -/
theorem distinctByText_spec (values : List Json) :
    distinctByText values ⊆ values ∧ ∀ v ∈ values, ∃ d ∈ distinctByText values, d.text = v.text := by
  suffices general : ∀ done : List Json,
      let all := values.foldl (fun done v =>
        if done.any fun d => d.text == v.text then done else done ++ [v]) done
      done ⊆ all ∧ (∀ d ∈ all, d ∈ done ∨ d ∈ values) ∧ ∀ v ∈ values, ∃ d ∈ all, d.text = v.text by
    obtain ⟨-, sound, complete⟩ := general []
    exact ⟨fun d mem => (sound d mem).resolve_left List.not_mem_nil, complete⟩
  induction values with
  | nil => exact fun done => ⟨fun _ => id, fun _ => .inl, fun _ mem => absurd mem List.not_mem_nil⟩
  | cons v rest ih =>
      intro done
      rw [List.foldl_cons]
      by_cases known : (done.any fun d => d.text == v.text) = true
      · obtain ⟨keeps, sound, complete⟩ := ih done
        rw [if_pos known]
        refine ⟨keeps, fun d mem => (sound d mem).imp_right (List.mem_cons_of_mem _), fun w mem => ?_⟩
        rcases List.mem_cons.mp mem with rfl | later
        · obtain ⟨d, inDone, same⟩ := List.any_eq_true.mp known
          exact ⟨d, keeps inDone, by simpa using same⟩
        · exact complete w later
      · obtain ⟨keeps, sound, complete⟩ := ih (done ++ [v])
        rw [if_neg known]
        refine ⟨fun d mem => keeps (List.mem_append_left _ mem), fun d mem => ?_, fun w mem => ?_⟩
        · rcases sound d mem with before | later
          · rcases List.mem_append.mp before with inDone | isV
            · exact .inl inDone
            · exact .inr (List.mem_singleton.mp isV ▸ List.mem_cons_self)
          · exact .inr (List.mem_cons_of_mem _ later)
        · rcases List.mem_cons.mp mem with rfl | later
          · exact ⟨w, keeps (List.mem_append_right _ List.mem_cons_self), rfl⟩
          · exact complete w later

theorem Document.isReference_of_mem_referencesAt (mem : r ∈ doc.referencesAt path) :
    r.isReference = true := by
  unfold referencesAt at mem
  split at mem
  · exact (List.mem_filter.mp mem).2
  · split at mem
    · next reference => exact List.mem_singleton.mp mem ▸ reference
    · cases mem
  · cases mem

namespace PopulateClause

variable {clause : PopulateClause} {docs : List Document}

theorem isReference_of_mem_references (mem : r ∈ clause.references docs) : r.isReference = true := by
  obtain ⟨doc, -, here⟩ := List.mem_flatMap.mp ((distinctByText_spec _).1 mem)
  exact Document.isReference_of_mem_referencesAt here

/-- **The distinct references are all references**: two of them with one text are the same. -/
theorem mem_references :
    r ∈ clause.references docs ↔ ∃ doc ∈ docs, r ∈ doc.referencesAt clause.path := by
  rw [← List.mem_flatMap]
  constructor
  · intro mem
    exact (distinctByText_spec _).1 mem
  · intro mem
    obtain ⟨doc, -, here⟩ := List.mem_flatMap.mp mem
    obtain ⟨d, kept, same⟩ := (distinctByText_spec _).2 r mem
    rw [Json.eq_of_text_of_isReference (Document.isReference_of_mem_referencesAt here) same] at kept
    exact kept

/-- Without references nothing is loaded. -/
theorem references_isEmpty_iff :
    (clause.references docs).isEmpty = true ↔ ∀ doc ∈ docs, doc.referencesAt clause.path = [] := by
  rw [List.isEmpty_iff, List.eq_nil_iff_forall_not_mem]
  simp only [mem_references, not_exists, not_and]
  constructor
  · intro none doc mem
    exact List.eq_nil_iff_forall_not_mem.mpr fun r here => none r doc mem here
  · intro none r doc mem here
    rw [none doc mem] at here
    cases here

end PopulateClause

end References

namespace PopulateClause

variable {clause : PopulateClause} {references : List Json} {doc : Document} {value : Json}

/-! ### The test on the foreign field -/

/-- The clause that asks for the references on the foreign field. -/
def referenceTest (clause : PopulateClause) (references : List Json) : String × Json :=
  (clause.foreignField, .object [("$in", .array references)])

theorem query_filter :
    (clause.query references).filter = mergeFilters clause.filter [clause.referenceTest references] :=
  rfl

theorem operators?_referenceTest (clause : PopulateClause) (references : List Json) :
    (clause.referenceTest references).2.operators? = some [("$in", .array references)] := by
  refine Json.operators?_eq_some_iff.mpr ⟨rfl, by simp, ?_⟩
  rw [List.forall_mem_singleton]
  show isDollarKey "$in" = true
  decide

theorem operatorTest_in [PatternReader] {path : String} {ops : Document} :
    operatorTest path ops ("$in", .array references) = .ok (.isIn references) := by
  have known : compiledOperator? "$in" = some .isIn := by decide
  rw [operatorTest, known]
  rfl

theorem compiles_referenceTest [PatternReader] {fields : List String}
    (name : isDollarKey clause.foreignField = false) :
    Clause.Compiles fields (clause.referenceTest references) := by
  refine (Clause.compiles_operators name (operators?_referenceTest clause references)).mpr ?_
  rw [List.forall_mem_singleton]
  exact fun _ => ⟨_, operatorTest_in⟩

/-- An operator map with the test in it lets through only what passes the test. -/
theorem equalsSome_of_accepts [PatternReader] {fields : List String} {ops : Document}
    (name : isDollarKey clause.foreignField = false) (map : value.operators? = some ops)
    (mem : ("$in", .array references) ∈ ops)
    (accepted : Clause.Accepts fields doc (clause.foreignField, value)) :
    references.any (equalsSome (doc.lookup clause.foreignField)) = true := by
  have each := (Clause.accepts_operators name map).mp accepted _ mem
  rw [OperatorClause.Accepts, operatorTest_in] at each
  obtain ⟨test, same, passed⟩ := each (show "$in" ≠ "$options" by decide)
  rw [← Except.ok.inj same] at passed
  exact passed

/-- A document passes the test if a reference equals the value of the foreign field, or one of its
elements. -/
theorem accepts_referenceTest [PatternReader] {fields : List String}
    (name : isDollarKey clause.foreignField = false) :
    Clause.Accepts fields doc (clause.referenceTest references) ↔
      references.any (equalsSome (doc.lookup clause.foreignField)) = true := by
  have map := operators?_referenceTest clause references
  refine ⟨equalsSome_of_accepts name map List.mem_cons_self, fun passed => ?_⟩
  refine (Clause.accepts_operators name map).mpr ?_
  rw [List.forall_mem_singleton, OperatorClause.Accepts, operatorTest_in]
  exact fun _ => ⟨_, rfl, passed⟩

/-- A logical key cannot hold the test. -/
theorem not_compiles_referenceTest [PatternReader] {fields : List String}
    (dollar : isDollarKey clause.foreignField = true) :
    ¬Clause.Compiles fields (clause.referenceTest references) := by
  rintro ⟨p, compiled⟩
  rw [referenceTest] at compiled
  by_cases logical : clause.foreignField ∈ Operator.logicalKeys
  · simp [compileClause, logical] at compiled
  · by_cases text : clause.foreignField = "$text"
    · have noSearch : Document.get? [("$in", Json.array references)] "$search" = none := by
        simp [Document.get?]
      simp [compileClause, text, Operator.logicalKeys, TextQuery.ofClause, Json.object?, noSearch,
        Except.map] at compiled
    · simp [compileClause, logical, text, dollar] at compiled

theorem distinctKeys_referenceTest : Document.DistinctKeys [clause.referenceTest references] := by
  simp [Document.DistinctKeys, Document.keys]

theorem isWellKeyed_referenceTest (scalars : ∀ r ∈ references, r.isReference = true) :
    (Json.object [clause.referenceTest references]).isWellKeyed = true := by
  have items : (Json.array references).isWellKeyed = true := by
    refine Json.isWellKeyed_array.mpr fun r mem => ?_
    have reference := scalars r mem
    cases r <;> first | rfl | cases reference
  refine Json.isWellKeyed_object.mpr ⟨distinctKeys_referenceTest, ?_⟩
  rw [List.forall_mem_singleton]
  refine Json.isWellKeyed_object.mpr ⟨by simp [Document.DistinctKeys, Document.keys], ?_⟩
  rw [List.forall_mem_singleton]
  exact items

/-! ### Values that equal the test -/

/-- Only a test for equal values equals the test. -/
theorem eq_of_equal_referenceTest (equal : value.equal (clause.referenceTest references).2 = true) :
    ∃ items, value = (clause.referenceTest items).2 ∧
      List.Forall₂ (fun x y => x.equal y = true) items references := by
  cases value with
  | object ops =>
      obtain ⟨sameLength, found⟩ := Json.equal_object_object.mp equal
      obtain ⟨⟨key, operand⟩, rfl⟩ := List.length_eq_one_iff.mp sameLength
      obtain ⟨theirs, present, same⟩ := found _ List.mem_cons_self
      rw [Document.get?_cons, Document.get?_nil, Option.ite_none_right_eq_some] at present
      obtain ⟨rfl, isList⟩ := present
      obtain rfl := Option.some.inj isList
      cases operand with
      | array items =>
          obtain ⟨_, sameList, each⟩ := Json.equal_array.mp same
          obtain rfl := Json.array.inj sameList
          exact ⟨items, rfl, each⟩
      | _ => simp [Json.equal] at same
  | _ => simp [referenceTest, Json.equal] at equal

/-- What equals a reference is one itself. -/
theorem isReference_of_equal {item r : Json} (equal : item.equal r = true)
    (reference : r.isReference = true) : item.isReference = true := by
  cases r with
  | string s => cases item <;> first | rfl | simp [Json.equal] at equal
  | number n => cases item <;> first | rfl | simp [Json.equal] at equal
  | _ => cases reference

theorem isWellKeyed_of_equal_referenceTest (scalars : ∀ r ∈ references, r.isReference = true)
    (equal : value.equal (clause.referenceTest references).2 = true) : value.isWellKeyed = true := by
  obtain ⟨items, rfl, each⟩ := eq_of_equal_referenceTest equal
  have scalars' : ∀ item ∈ items, item.isReference = true := by
    intro item mem
    obtain ⟨r, inReferences, equalR⟩ := each.flip.exists_of_mem_right mem
    exact isReference_of_equal equalR (scalars r inReferences)
  exact (Json.isWellKeyed_object.mp (@isWellKeyed_referenceTest clause items scalars')).2 _
    List.mem_cons_self

/-- A clause that equals the test accepts what the test accepts. -/
theorem accepts_iff_of_equal_referenceTest [PatternReader] {fields : List String}
    (name : isDollarKey clause.foreignField = false) (scalars : ∀ r ∈ references, r.isReference = true)
    (equal : value.equal (clause.referenceTest references).2 = true) :
    Clause.Accepts fields doc (clause.foreignField, value) ↔
      Clause.Accepts fields doc (clause.referenceTest references) := by
  have wellKeyed := (Json.isWellKeyed_object.mp (@isWellKeyed_referenceTest clause references
    scalars)).2 _ List.mem_cons_self
  refine Clause.accepts_congr (isWellKeyed_of_equal_referenceTest scalars equal) wellKeyed equal ?_
    (compiles_referenceTest name)
  obtain ⟨items, rfl, -⟩ := eq_of_equal_referenceTest equal
  have compiles : Clause.Compiles fields (clause.referenceTest items) := compiles_referenceTest name
  exact compiles

end PopulateClause

end DocQuery
