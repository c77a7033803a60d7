import DocQuery.Proofs.Store.Population

/-!
# The trace of a dotted join key

References are matched by a field of the target, which is kept in for the match and stripped again
if the projection does not show it.  For a dotted field that can leave a trace: adding the field to
an inclusion makes the object that holds it, and stripping takes the field out of an object that the
inclusion lists as a whole.  A record is put in place as the projection shows it exactly if the
field did not have to be added, or the inclusion had room for it (`Document.HasRoom`).

## Main definitions

* `PopulateClause.record_eq_project_iff`: when a record has no trace of the join key
* `populated_record_eq_project_iff`
-/

namespace DocQuery

namespace PopulateClause

variable {clause : PopulateClause} {doc : Document} {r : Json}

/-- Without a field for the relevance a record does not depend on the relevance. -/
theorem record_of_noScore (noScore : clause.projection.scoreField = none) (score : Option Binary64) :
    clause.record doc score = clause.record doc none := by
  rw [record, record, loaded_of_noScore noScore, loaded_of_noScore noScore]

/-- **When the join key leaves no trace.**  A record that is found by a dotted field is put in place as
the projection shows it, unless an inclusion does not list the field; and then exactly if it lists no
place above the field and shows something else inside the object that holds it. -/
theorem record_eq_project_iff (dotted : '.' ∈ clause.foreignField.toList)
    (noScore : clause.projection.scoreField = none)
    (stored : doc.getPath? clause.foreignField = some r) (reference : r.isReference = true)
    (score : Option Binary64) :
    clause.record doc score = doc.project clause.projection none ↔
      ∀ paths, clause.projection.fields = .include paths → clause.foreignField ∉ paths →
        (∀ p ∈ paths, Path.covers p clause.foreignField = false) ∧
          ∃ p ∈ paths, Path.covers (Path.parent clause.foreignField) p = true ∧
            doc.getPath? p ≠ none := by
  by_cases listed : ∀ paths, clause.projection.fields = .include paths → clause.foreignField ∈ paths
  · exact iff_of_true (record_of_notAdded noScore listed score) fun paths fields unlisted =>
      absurd (listed paths fields) unlisted
  · simp only [not_forall] at listed
    obtain ⟨paths, fields, unlisted⟩ := listed
    rw [record_of_added noScore fields unlisted, Document.project_of_noScore noScore, fields,
      Document.removePath_keep_include_iff dotted stored (Json.object?_of_isReference reference)]
    constructor
    · rintro room _ same -
      obtain rfl := Projection.Fields.include.inj same
      exact room
    · exact fun room => room paths rfl unlisted

/-- A record that is put in place of a reference is a stored one that has the reference in its foreign
field. -/
theorem exists_stored_of_lookup_index [PatternReader] {store : MemoryStore} {references : List Json}
    {children : List Document} {v : Json} (apart : clause.KeyApart)
    (found : store.lookup clause.source (clause.query references) = .ok children)
    (reference : r.isReference = true)
    (looked : (clause.index children).lookup r.text = some v) :
    ∃ stored ∈ store.docs clause.source, stored.getPath? clause.foreignField = some r ∧
      ∃ score, v = .object (clause.record stored score) := by
  obtain ⟨p, compiled, -⟩ := lookup_query_eq_ok_iff.mp found
  rw [lookup_index apart compiled found] at looked
  obtain ⟨stored, isFound, rfl⟩ := Option.map_eq_some_iff.mp looked
  have passed := List.find?_some isFound
  rw [Bool.and_eq_true] at passed
  exact ⟨stored, List.mem_of_find?_eq_some isFound, getPath?_of_keyOf_text passed.2 reference, _, rfl⟩

end PopulateClause

/-- **What a dotted join key does to populated records.**  Every record that population puts in the
place of a reference is a view of a stored record with the reference in its foreign field, and it is
the projection of that record exactly if the clause's projection is no inclusion without the foreign
field, or is one that lists no place above the field and shows something else inside the object that
holds it. -/
theorem populated_record_eq_project_iff [PatternReader] {store : MemoryStore}
    {clause : PopulateClause}
    {docs data : List Document} (dotted : '.' ∈ clause.foreignField.toList)
    (noScore : clause.projection.scoreField = none)
    (populated : populate store.lookup docs [clause] = .ok data) :
    List.Forall₂ (fun doc after => ∀ r record, doc.getPath? clause.path = some r →
      r.isReference = true → after.getPath? clause.path = some (.object record) →
        ∃ stored ∈ store.docs clause.source, stored.getPath? clause.foreignField = some r ∧
          record = clause.record stored none ∧
          (record = stored.project clause.projection none ↔
            ∀ paths, clause.projection.fields = .include paths → clause.foreignField ∉ paths →
              (∀ p ∈ paths, Path.covers p clause.foreignField = false) ∧
                ∃ p ∈ paths, Path.covers (Path.parent clause.foreignField) p = true ∧
                  stored.getPath? p ≠ none)) docs data := by
  have apart : clause.KeyApart := by
    intro field isScore
    rw [noScore] at isScore
    cases isScore
  rw [PopulateClause.populate_singleton] at populated
  refine (PopulateClause.forall₂_updatePath_of_apply populated).imp ?_
  rintro doc after (rfl | ⟨children, found, rfl⟩) r record here reference there
  · -- nothing was put in place
    rw [here] at there
    obtain rfl := Option.some.inj there
    cases reference
  · rw [Document.getPath?_updatePath, here, Option.map_some, Option.some.injEq,
      Json.resolve_of_isReference reference] at there
    cases looked : (clause.index children).lookup r.text with
    | none =>
        rw [looked] at there
        cases there
    | some v =>
        rw [looked, Option.getD_some] at there
        obtain ⟨stored, inStore, keyed, score, isRecord⟩ :=
          PopulateClause.exists_stored_of_lookup_index apart found reference looked
        obtain rfl := Json.object.inj (there.symm.trans isRecord)
        exact ⟨stored, inStore, keyed, PopulateClause.record_of_noScore noScore score,
          PopulateClause.record_eq_project_iff dotted noScore keyed reference score⟩

/-- A user who is known by a key inside another object. -/
def keyedUser : Document :=
  [("name", .string "Ada"), ("meta", .object [("id", .string "k1"), ("kind", .string "staff")])]

/-- A store with that user only. -/
def keyedStore : MemoryStore := ⟨[("users", [keyedUser])], 0⟩

/-- The listed fields of the users with the given keys. -/
def keyedAuthors (paths : List String) : PopulateClause where
  path := "author"
  source := "users"
  foreignField := "meta.id"
  filter := []
  projection := ⟨.include paths, none⟩

/-- Next to a sibling the join key leaves no trace.  Without one it leaves an empty object, which the
projection does not show. -/
theorem populated_record_eq_project_iff_users :
    let clean : Document := [("name", .string "Ada"), ("meta", .object [("kind", .string "staff")])]
    let traced : Document := [("name", .string "Ada"), ("meta", .object [])]
    populate keyedStore.lookup [[("author", .string "k1")]] [keyedAuthors ["name", "meta.kind"]] =
        .ok [[("author", .object clean)]] ∧
      clean = keyedUser.project (keyedAuthors ["name", "meta.kind"]).projection none ∧
      populate keyedStore.lookup [[("author", .string "k1")]] [keyedAuthors ["name"]] =
        .ok [[("author", .object traced)]] ∧
      traced ≠ keyedUser.project (keyedAuthors ["name"]).projection none := by
  intro clean traced
  have populated : populate keyedStore.lookup [[("author", .string "k1")]]
      [keyedAuthors ["name", "meta.kind"]] = .ok [[("author", .object clean)]] := rfl
  have populated' : populate keyedStore.lookup [[("author", .string "k1")]]
      [keyedAuthors ["name"]] = .ok [[("author", .object traced)]] := rfl
  have onlyUser : ∀ stored ∈ keyedStore.docs "users", stored = keyedUser := fun stored mem =>
    List.mem_singleton.mp mem
  refine ⟨populated, ?_, populated', ?_⟩
  · have each := populated_record_eq_project_iff (by decide) rfl populated
    obtain ⟨stored, mem, -, -, same⟩ :=
      (List.forall₂_cons.mp each).1 (.string "k1") clean rfl rfl rfl
    obtain rfl := onlyUser stored mem
    refine same.mpr fun paths fields _ => ?_
    obtain rfl := Projection.Fields.include.inj fields
    exact ⟨by decide +kernel, "meta.kind", by decide, by decide +kernel, by decide +kernel⟩
  · have each := populated_record_eq_project_iff (by decide) rfl populated'
    obtain ⟨stored, mem, -, -, same⟩ :=
      (List.forall₂_cons.mp each).1 (.string "k1") traced rfl rfl rfl
    obtain rfl := onlyUser stored mem
    intro clean
    obtain ⟨-, p, listed, inside, -⟩ := same.mp clean ["name"] rfl (by decide)
    rw [List.mem_singleton.mp listed] at inside
    exact absurd inside (by decide +kernel)

end DocQuery
