import DocQuery.Proofs.Store.Population

/-!
# References and the records that match them

The query for a batch finds records as a filter does: by any number that compares as equal, and by an
element of a list.  The index hands them out by the text of the foreign field.  So a reference is
replaced by a record exactly if some record holds the reference itself.  A target that matches in
another way is loaded and not handed out, and the reference becomes null.

## Main definitions

* `equalsSome_singleton_cases`: the ways in which a stored value matches a reference
* `PopulateClause.target?_cases`: when a reference stands for a record
* `populate_reference`
-/

namespace DocQuery

variable {v r : Json} {field : String} {p : Predicate} {doc : Document}

/-! ### Records that match a reference -/

/-- A stored value that matches a reference is the reference, a number that compares as equal, or a
list. -/
theorem equalsSome_singleton_cases (reference : r.isReference = true)
    (equals : equalsSome [v] r = true) :
    v = r ∨ (∃ m n, v = .number m ∧ r = .number n ∧ m.order n = .eq) ∨
      ∃ items, v = .array items := by
  rw [Json.equalsSome_of_ne_null (Json.ne_null_of_isReference reference), candidates,
    List.flatMap_singleton, List.any_cons, Bool.or_eq_true] at equals
  rcases equals with same | element
  · cases r with
    | string s => cases v <;> simp_all [Json.matchesOperand, Json.equal]
    | number n => cases v <;> simp_all [Json.matchesOperand, Json.equal]
    | _ => cases reference
  · cases v with
    | array items => exact .inr (.inr ⟨items, rfl⟩)
    | _ => cases element

/-- A reference is no filter for a logical key. -/
theorem isDollarKey_of_compile_reference [PatternReader] (reference : r.isReference = true)
    (compiled : Predicate.compile [(field, r)] [] = .ok p) : isDollarKey field = false := by
  rw [Bool.eq_false_iff]
  intro dollar
  obtain ⟨part, compiledPart⟩ :=
    Predicate.exists_compile_iff.mp ⟨p, compiled⟩ _ List.mem_cons_self
  cases r with
  | string s =>
      simp only [compileClause, dollar] at compiledPart
      split_ifs at compiledPart
  | number n =>
      simp only [compileClause, dollar] at compiledPart
      split_ifs at compiledPart
  | _ => cases reference

/-- A document matches a reference by the value of the field. -/
theorem matchesDocument_reference_iff [PatternReader] (name : '.' ∉ field.toList)
    (reference : r.isReference = true) (compiled : Predicate.compile [(field, r)] [] = .ok p) :
    p.matchesDocument doc = true ↔ ∃ v, doc.get? field = some v ∧ equalsSome [v] r = true := by
  have path := isDollarKey_of_compile_reference reference compiled
  have values : doc.lookup field = (doc.get? field).toList := by
    rw [Document.lookup, Path.segments_of_name name]
    rfl
  rw [Predicate.matchesDocument_iff compiled, List.forall_mem_singleton, Clause.Accepts,
    compileClause_path path, Json.operators?_of_isReference reference]
  simp only [Except.ok.injEq, exists_eq_left', Predicate.matchesDocument_field, FieldTest.holds,
    values]
  cases doc.get? field with
  | none => simp [Json.equalsSome_of_ne_null (Json.ne_null_of_isReference reference), candidates]
  | some v => simp

namespace PopulateClause

variable {clause : PopulateClause}

/-- Where nothing is filtered out, a reference stands for a whole record that holds it, if there is one. -/
theorem target?_cases (whole : clause.projection = .all) (reference : r.isReference = true)
    (stored : List Document) :
    (∃ record ∈ stored, record.get? clause.foreignField = some r ∧
        clause.target? (.allOf []) stored r = some (.object record)) ∨
      (∀ record ∈ stored, record.get? clause.foreignField ≠ some r) ∧
        clause.target? (.allOf []) stored r = none := by
  cases isTarget : clause.target? (.allOf []) stored r with
  | none =>
    rw [target?, Option.map_eq_none_iff, List.find?_eq_none] at isTarget
    refine .inr ⟨fun record mem holds => isTarget record mem ?_, rfl⟩
    rw [Predicate.matchesDocument_allOf, List.all_nil, Bool.true_and]
    exact (Json.any_text_iff reference).mpr holds
  | some shown =>
    rw [target?, Option.map_eq_some_iff] at isTarget
    obtain ⟨record, isFound, rfl⟩ := isTarget
    have passed := List.find?_some isFound
    rw [Bool.and_eq_true] at passed
    refine .inl ⟨record, List.mem_of_find?_eq_some isFound,
      (Json.any_text_iff reference).mp passed.2, ?_⟩
    rw [whole]
    rfl

/-- A clause without a filter of its own is answered, and a reference becomes what it stands for. -/
theorem exists_populated_of_reference [PatternReader] (store : MemoryStore) {docs : List Document}
    (name : '.' ∉ clause.foreignField.toList) (path : isDollarKey clause.foreignField = false)
    (noFilter : clause.filter = []) (noScore : clause.projection.scoreField = none)
    (mem : doc ∈ docs) (here : doc.getPath? clause.path = some r) (reference : r.isReference = true) :
    ∃ populated : Document → Document,
      populate store.lookup docs [clause] = .ok (docs.map populated) ∧
        (populated doc).getPath? clause.path =
          some ((clause.target? (.allOf []) (store.docs clause.source) r).getD .null) := by
  have inBatch : r ∈ clause.references docs :=
    mem_references.mpr ⟨doc, mem, Document.mem_referencesAt_of_reference here reference⟩
  have notEmpty : ¬(clause.references docs).isEmpty = true := fun isEmpty =>
    List.ne_nil_of_mem inBatch (List.isEmpty_iff.mp isEmpty)
  have scalars : ∀ r ∈ clause.references docs, r.isReference = true := fun r =>
    isReference_of_mem_references
  have wellKeyed : (Json.object clause.filter).isWellKeyed = true := by
    rw [noFilter]
    rfl
  have compiled : Predicate.compile clause.filter [] = .ok (.allOf []) := by
    rw [noFilter]
    rfl
  have free : clause.foreignField ∉ clause.filter.keys := by
    rw [noFilter]
    exact List.not_mem_nil
  obtain ⟨q, compiledQuery⟩ := exists_compile_query_of_notMem path wellKeyed compiled free scalars
  obtain ⟨children, found⟩ :
      ∃ children, store.lookup clause.source (clause.query (clause.references docs)) = .ok children :=
    ⟨_, lookup_query_eq_ok_iff.mpr ⟨q, compiledQuery, rfl⟩⟩
  refine ⟨clause.replace (clause.index children), ?_, ?_⟩
  · rw [populate_singleton, apply, if_neg notEmpty, found]
    rfl
  · rw [replace_eq_updatePath, Document.getPath?_updatePath, here, Option.map_some,
      Json.resolve_of_isReference reference,
      lookup_index_eq_target? name noScore wellKeyed free compiled scalars found inBatch]

end PopulateClause

/-- **Which references find their target.**  A clause without a filter that shows whole records puts
in the place of a reference a stored record that holds the reference itself in its foreign field, and
matches the reference as a filter.  If there is none the reference becomes null, though records may
match it: by a number that compares as equal, or by an element of a list. -/
theorem populate_reference [PatternReader] {store : MemoryStore} {clause : PopulateClause}
    {docs : List Document}
    {doc : Document} {r : Json} {p : Predicate} (name : '.' ∉ clause.foreignField.toList)
    (noFilter : clause.filter = []) (whole : clause.projection = .all) (mem : doc ∈ docs)
    (here : doc.getPath? clause.path = some r) (reference : r.isReference = true)
    (compiled : Predicate.compile [(clause.foreignField, r)] [] = .ok p) :
    ∃ populated : Document → Document,
      populate store.lookup docs [clause] = .ok (docs.map populated) ∧
        ((∃ record ∈ store.docs clause.source, p.matchesDocument record = true ∧
            record.get? clause.foreignField = some r ∧
            (populated doc).getPath? clause.path = some (.object record)) ∨
          (populated doc).getPath? clause.path = some .null ∧
            ∀ record ∈ store.docs clause.source, p.matchesDocument record = true →
              ∃ v, record.get? clause.foreignField = some v ∧ v ≠ r ∧
                ((∃ m n, v = .number m ∧ r = .number n ∧ m.order n = .eq) ∨
                  ∃ items, v = .array items)) := by
  have path := isDollarKey_of_compile_reference reference compiled
  have noScore : clause.projection.scoreField = none := by
    rw [whole]
    rfl
  obtain ⟨populated, answered, there⟩ := PopulateClause.exists_populated_of_reference store name path
    noFilter noScore mem here reference
  refine ⟨populated, answered, ?_⟩
  rcases PopulateClause.target?_cases whole reference (store.docs clause.source) with
    ⟨record, inStore, holds, isTarget⟩ | ⟨noneHolds, isTarget⟩
  · refine .inl ⟨record, inStore, ?_, holds, by rw [there, isTarget, Option.getD_some]⟩
    exact (matchesDocument_reference_iff name reference compiled).mpr
      ⟨r, holds, PopulateClause.equalsSome_singleton_self reference⟩
  · refine .inr ⟨by rw [there, isTarget, Option.getD_none], fun record inStore matched => ?_⟩
    obtain ⟨v, holds, equals⟩ := (matchesDocument_reference_iff name reference compiled).mp matched
    have other : v ≠ r := fun same => noneHolds record inStore (same ▸ holds)
    exact ⟨v, holds, other, (equalsSome_singleton_cases reference equals).resolve_left other⟩

/-- A user with a floating-point key. -/
def floatUser : Document := [("_id", .number (.float (.ofInt 1))), ("name", .string "Ada")]

/-- A user with two keys. -/
def twoKeyUser : Document :=
  [("_id", .array [.string "u2", .string "u3"]), ("name", .string "Grace")]

/-- A user with a key of text. -/
def textUser : Document := [("_id", .string "u4"), ("name", .string "Edsger")]

/-- A store with the three users. -/
def spelledStore : MemoryStore := ⟨[("users", [floatUser, twoKeyUser, textUser])], 0⟩

/-- Whole users in place of their keys. -/
def wholeAuthors : PopulateClause where
  path := "author"
  source := "users"
  foreignField := "_id"
  filter := []
  projection := .all

/-- References to the three users: one as an integer, one by the first key of a list. -/
def spelledPage : List Document :=
  [[("author", .number (.ofNat 1))], [("author", .string "u2")], [("author", .string "u4")]]

/-- Each reference matches one user, and only the last is replaced by it. -/
theorem populate_reference_users :
    let matching := fun r : Json => Predicate.allOf [.field "_id" (.equal r)]
    populate spelledStore.lookup spelledPage [wholeAuthors] =
        .ok [[("author", .null)], [("author", .null)], [("author", .object textUser)]] ∧
      (matching (.number (.ofNat 1))).matchesDocument floatUser = true ∧
      (matching (.string "u2")).matchesDocument twoKeyUser = true ∧
      ∀ record ∈ spelledStore.docs "users",
        (matching (.string "u2")).matchesDocument record = true →
          ∃ items, record.get? "_id" = some (.array items) := by
  intro matching
  have answered : populate spelledStore.lookup spelledPage [wholeAuthors] =
      .ok [[("author", .null)], [("author", .null)], [("author", .object textUser)]] := rfl
  refine ⟨answered, by decide +kernel, by decide +kernel, fun record inStore matched => ?_⟩
  obtain ⟨populated, same, replaced⟩ := @populate_reference _ spelledStore wholeAuthors spelledPage
    [("author", .string "u2")] (.string "u2") (matching (.string "u2")) (by decide) rfl rfl
    (by simp [spelledPage]) rfl rfl rfl
  have second : [("author", .null)] = populated [("author", .string "u2")] :=
    (List.cons.inj (List.cons.inj (Except.ok.inj (answered.symm.trans same))).2).1
  rw [← second] at replaced
  rcases replaced with ⟨found, -, -, -, there⟩ | ⟨-, others⟩
  · cases there
  · obtain ⟨v, holds, -, ⟨m, n, -, isNumber, -⟩ | ⟨items, rfl⟩⟩ := others record inStore matched
    · cases isNumber
    · exact ⟨items, holds⟩

end DocQuery
