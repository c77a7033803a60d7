import DocQuery.Proofs.Store.Loaded
import Mathlib.Data.List.Find

/-!
# Population, reference by reference

A batch is populated by one query and one index.  The outcome is that of looking up every reference
on its own: the first stored record that matches the clause's filter and has the reference in its
foreign field, shown through the clause's projection (`populate_exact`).  This holds where the
filter says nothing about the foreign field.

Where it does, a `$in` on that field gives way to the references of the batch, and what is put in
place matches only the rest of the filter (`records_of_populate`).

## Main definitions

* `Json.isReferable`: references, lists of references and null
* `Document.updatePath`: a change at one place
* `PopulateClause.target?`: the record that a reference stands for
* `populate_exact`, `records_of_populate`
-/

namespace DocQuery

/-! ### Values that can be replaced -/

/-- Whether a value is null, a reference or a list of references. -/
def Json.isReferable : Json → Bool
  | .null => true
  | .array items => items.all Json.isReference
  | v => v.isReference

/-- A document has nothing but references at a path, if anything. -/
def Document.ReferableAt (doc : Document) (path : String) : Prop :=
  ∀ v, doc.getPath? path = some v → v.isReferable = true

instance (doc : Document) (path : String) : Decidable (doc.ReferableAt path) :=
  decidable_of_iff ((doc.getPath? path).all Json.isReferable = true) <| by
    rw [Document.ReferableAt]
    cases doc.getPath? path <;> simp

/-- Change the value at a path, if there is one. -/
def Document.updatePath (doc : Document) (path : String) (f : Json → Json) : Document :=
  match doc.getPath? path with
  | some v => doc.setPath path (f v)
  | none => doc

namespace Json

/-- What a value becomes when every reference is looked up. -/
def resolve (target? : Json → Option Json) : Json → Json
  | .array items => .array (items.filterMap target?)
  | .null => .null
  | r => (target? r).getD .null

variable {v : Json} {f g : Json → Option Json}

theorem isReferable_cases (referable : v.isReferable = true) :
    v = .null ∨ v.isReference = true ∨
      ∃ items, v = .array items ∧ ∀ item ∈ items, item.isReference = true := by
  cases v with
  | null => exact .inl rfl
  | array items => exact .inr (.inr ⟨items, rfl, List.all_eq_true.mp referable⟩)
  | _ => exact .inr (.inl referable)

theorem resolve_of_isReference (reference : v.isReference = true) :
    v.resolve f = (f v).getD .null := by
  cases v <;> first | rfl | cases reference

theorem resolve_array_congr {items : List Json} (same : ∀ item ∈ items, f item = g item) :
    (array items).resolve f = (array items).resolve g :=
  congrArg array (List.filterMap_congr same)

/-- Among references there are no records. -/
theorem records_of_isReferable (referable : v.isReferable = true) : v.records = [] := by
  cases v with
  | array items =>
      refine List.filterMap_eq_nil_iff.mpr fun item mem => ?_
      have reference := List.all_eq_true.mp referable item mem
      cases item <;> first | rfl | cases reference
  | object members => cases referable
  | _ => rfl

/-- Every record in a resolved value was looked up. -/
theorem exists_of_mem_records_resolve {record : Document} (mem : record ∈ (v.resolve f).records) :
    ∃ item found, f item = some found ∧ record ∈ found.records := by
  have single : ∀ item, record ∈ ((f item).getD .null).records →
      ∃ item found, f item = some found ∧ record ∈ found.records := by
    intro item inside
    cases looked : f item with
    | none =>
        rw [looked] at inside
        cases inside
    | some found =>
        rw [looked] at inside
        exact ⟨item, found, looked, inside⟩
  cases v with
  | null => cases mem
  | array items =>
      obtain ⟨found, inItems, isObject⟩ := List.mem_filterMap.mp mem
      obtain ⟨item, -, looked⟩ := List.mem_filterMap.mp inItems
      refine ⟨item, found, looked, ?_⟩
      cases found with
      | object members => exact List.mem_singleton.mpr (Option.some.inj isObject).symm
      | _ => cases isObject
  | _ => exact single _ mem

end Json

namespace Document

variable {doc : Document} {path : String} {f g : Json → Json} {v : Json}

theorem updatePath_of_some (found : doc.getPath? path = some v) :
    doc.updatePath path f = doc.setPath path (f v) := by
  rw [updatePath, found]

theorem updatePath_of_none (absent : doc.getPath? path = none) : doc.updatePath path f = doc := by
  rw [updatePath, absent]

theorem updatePath_congr (same : ∀ v, doc.getPath? path = some v → f v = g v) :
    doc.updatePath path f = doc.updatePath path g := by
  cases found : doc.getPath? path with
  | none => rw [updatePath_of_none found, updatePath_of_none found]
  | some v => rw [updatePath_of_some found, updatePath_of_some found, same v found]

/-- Where the change keeps the value, the document stays as it is. -/
theorem updatePath_eq_self (same : ∀ v, doc.getPath? path = some v → f v = v) :
    doc.updatePath path f = doc := by
  cases found : doc.getPath? path with
  | none => exact updatePath_of_none found
  | some v => rw [updatePath_of_some found, same v found, setPath_own found]

/-- The value at the path is the changed one. -/
theorem getPath?_updatePath : (doc.updatePath path f).getPath? path = (doc.getPath? path).map f := by
  cases found : doc.getPath? path with
  | none => rw [updatePath_of_none found, found, Option.map_none]
  | some v =>
      rw [updatePath_of_some found, Option.map_some]
      exact descend?_write_self (Path.segments_ne_nil path)

/-- Nothing but the value at the path has changed: putting the old value back gives back the
document. -/
theorem setPath_updatePath (found : doc.getPath? path = some v) :
    (doc.updatePath path f).setPath path v = doc := by
  rw [updatePath_of_some found, setPath_setPath, setPath_own found]

theorem mem_referencesAt_of_reference (found : doc.getPath? path = some v)
    (reference : v.isReference = true) : v ∈ doc.referencesAt path := by
  rw [referencesAt, found]
  cases v with
  | string s => exact List.mem_singleton.mpr rfl
  | number n => exact List.mem_singleton.mpr rfl
  | _ => cases reference

theorem mem_referencesAt_of_array {items : List Json} {r : Json}
    (found : doc.getPath? path = some (.array items)) (mem : r ∈ items)
    (reference : r.isReference = true) : r ∈ doc.referencesAt path := by
  rw [referencesAt, found]
  exact List.mem_filter.mpr ⟨mem, reference⟩

end Document

namespace PopulateClause

variable {clause : PopulateClause} {store : MemoryStore} {docs next : List Document}
  {doc : Document} {p : Predicate} {r : Json}

theorem replacement_eq_resolve (records : List (String × Json)) :
    replacement records = Json.resolve fun r => records.lookup r.text := by
  funext v
  cases v <;> rfl

theorem replace_eq_updatePath (records : List (String × Json)) (doc : Document) :
    clause.replace records doc =
      doc.updatePath clause.path (Json.resolve fun r => records.lookup r.text) := by
  cases found : doc.getPath? clause.path with
  | none => simp only [replace, Document.updatePath, found]
  | some v => simp only [replace, Document.updatePath, found, replacement_eq_resolve]

/-- What a clause makes of a document: it is left alone, or its value is looked up in the index of the
batch. -/
theorem forall₂_updatePath_of_apply [PatternReader]
    (applied : clause.apply store.lookup docs = .ok next) :
    List.Forall₂ (fun doc after => after = doc ∨ ∃ children,
      store.lookup clause.source (clause.query (clause.references docs)) = .ok children ∧
        after = doc.updatePath clause.path
          (Json.resolve fun r => (clause.index children).lookup r.text)) docs next := by
  rw [apply] at applied
  split at applied
  · obtain rfl := Except.ok.inj applied
    exact List.forall₂_same.mpr fun doc _ => .inl rfl
  · obtain ⟨children, found, replaced⟩ := Except.bind_eq_ok_iff.mp applied
    rw [← Except.ok.inj replaced, List.forall₂_map_right_iff]
    exact List.forall₂_same.mpr fun doc _ => .inr ⟨children, found, replace_eq_updatePath _ doc⟩

/-- Every record that an index brings is a view of a stored record that the query matches. -/
theorem exists_of_mem_records_resolve_index [PatternReader] {references : List Json}
    {children : List Document} {v : Json} {record : Document}
    (found : store.lookup clause.source (clause.query references) = .ok children)
    (inside : record ∈ (v.resolve fun r => (clause.index children).lookup r.text).records) :
    ∃ p, Predicate.compile (clause.query references).filter [] = .ok p ∧
      ∃ doc ∈ store.docs clause.source, p.matchesDocument doc = true ∧
        record = clause.record doc (p.relevance doc) := by
  obtain ⟨item, shown, looked, inShown⟩ := Json.exists_of_mem_records_resolve inside
  obtain ⟨front, back, split, -⟩ := List.lookup_eq_some_iff.mp looked
  obtain ⟨p, compiled, stored, inStore, matched, rfl⟩ :=
    exists_of_mem_index found (split ▸ List.mem_append_right _ List.mem_cons_self)
  exact ⟨p, compiled, stored, inStore, matched, List.mem_singleton.mp inShown⟩

/-- References are resolved alike by lookups that agree on them. -/
theorem updatePath_resolve_congr {f g : Json → Option Json} (referable : doc.ReferableAt clause.path)
    (same : ∀ r ∈ doc.referencesAt clause.path, f r = g r) :
    doc.updatePath clause.path (Json.resolve f) = doc.updatePath clause.path (Json.resolve g) := by
  refine Document.updatePath_congr fun v found => ?_
  rcases Json.isReferable_cases (referable v found) with rfl | reference | ⟨items, rfl, references⟩
  · rfl
  · rw [Json.resolve_of_isReference reference, Json.resolve_of_isReference reference,
      same v (Document.mem_referencesAt_of_reference found reference)]
  · exact Json.resolve_array_congr fun item mem =>
      same item (Document.mem_referencesAt_of_array found mem (references item mem))

/-- A document without references at the path stays as it is. -/
theorem updatePath_resolve_eq_self {f : Json → Option Json} (referable : doc.ReferableAt clause.path)
    (none : doc.referencesAt clause.path = []) :
    doc.updatePath clause.path (Json.resolve f) = doc := by
  have noReference := List.eq_nil_iff_forall_not_mem.mp none
  refine Document.updatePath_eq_self fun v found => ?_
  rcases Json.isReferable_cases (referable v found) with rfl | reference | ⟨items, rfl, references⟩
  · rfl
  · exact absurd (Document.mem_referencesAt_of_reference found reference) (noReference v)
  · cases items with
    | nil => rfl
    | cons item rest =>
        have here := Document.mem_referencesAt_of_array found List.mem_cons_self
          (references item List.mem_cons_self)
        exact absurd here (noReference item)

/-! ### Population is exact -/

/-- The record that a reference stands for: the first stored one that matches and whose foreign
field has the text of the reference. -/
def target? (clause : PopulateClause) (p : Predicate) (stored : List Document) (r : Json) :
    Option Json :=
  (stored.find? fun doc =>
      p.matchesDocument doc && (doc.get? clause.foreignField).any (·.text == r.text)).map
    fun doc => .object (doc.project clause.projection none)

theorem getPath?_foreignField (name : '.' ∉ clause.foreignField.toList) :
    doc.getPath? clause.foreignField = doc.get? clause.foreignField := by
  rw [Document.getPath?, Path.segments_of_name name, Document.descend?]

/-- A record that is found by a reference is shown through the clause's projection: keeping the
foreign field in and stripping it again leaves no trace. -/
theorem record_of_reference (name : '.' ∉ clause.foreignField.toList)
    (noScore : clause.projection.scoreField = none)
    (stored : doc.get? clause.foreignField = some r) (reference : r.isReference = true)
    (score : Option Binary64) : clause.record doc score = doc.project clause.projection none := by
  by_cases listed : ∀ paths, clause.projection.fields = .include paths → clause.foreignField ∈ paths
  · exact record_of_notAdded noScore listed score
  · simp only [not_forall] at listed
    obtain ⟨paths, fields, unlisted⟩ := listed
    rw [record_of_added noScore fields unlisted, Document.project_of_noScore noScore, fields]
    exact Document.removePath_keep_include_of_name name unlisted
      ((getPath?_foreignField name).trans stored) (Json.object?_of_isReference reference)

/-- A reference of the batch finds in the index what it stands for. -/
theorem lookup_index_eq_target? [PatternReader] {references : List Json} {children : List Document}
    (name : '.' ∉ clause.foreignField.toList) (noScore : clause.projection.scoreField = none)
    (wellKeyed : (Json.object clause.filter).isWellKeyed = true)
    (free : clause.foreignField ∉ clause.filter.keys)
    (compiled : Predicate.compile clause.filter [] = .ok p)
    (scalars : ∀ r ∈ references, r.isReference = true)
    (found : store.lookup clause.source (clause.query references) = .ok children)
    (mem : r ∈ references) :
    (clause.index children).lookup r.text = clause.target? p (store.docs clause.source) r := by
  have reference := scalars r mem
  obtain ⟨q, compiledQuery, -⟩ := lookup_query_eq_ok_iff.mp found
  have apart : clause.KeyApart := by
    intro field isScore
    rw [noScore] at isScore
    cases isScore
  -- the query matches what the clause's filter matches, of the records with a reference
  have meaning : ∀ doc, doc.get? clause.foreignField = some r →
      (q.matchesDocument doc = true ↔ p.matchesDocument doc = true) := by
    intro doc stored
    have passes : references.any (equalsSome (doc.lookup clause.foreignField)) = true := by
      rw [Document.lookup_of_getPath? ((getPath?_foreignField name).trans stored)]
      exact List.any_eq_true.mpr ⟨r, mem, equalsSome_singleton_self reference⟩
    have stands : clause.Stands (Clause.Accepts [] doc) ↔
        ∀ left ∈ clause.filter, Clause.Accepts [] doc left := by
      rw [stands_iff Clause.conjunctive_accepts wellKeyed compiled, standingFilter_of_notMem free]
    rw [matchesDocument_query_iff wellKeyed scalars compiledQuery, stands,
      Predicate.matchesDocument_iff compiled]
    exact and_iff_right passes
  have keyed : ∀ doc, (clause.keyOf doc).any (·.text == r.text) = true ↔
      doc.get? clause.foreignField = some r := by
    intro doc
    rw [← getPath?_foreignField name]
    refine ⟨fun hasText => getPath?_of_keyOf_text hasText reference, fun stored => ?_⟩
    exact (Json.any_text_iff reference).mpr (keyOf_of_reference name stored reference)
  have sameSearch : ((store.docs clause.source).find? fun doc =>
        q.matchesDocument doc && (clause.keyOf doc).any (·.text == r.text)) =
      (store.docs clause.source).find? fun doc =>
        p.matchesDocument doc && (doc.get? clause.foreignField).any (·.text == r.text) := by
    refine List.find?_congr fun doc _ => ?_
    rw [Bool.eq_iff_iff, Bool.and_eq_true, Bool.and_eq_true, keyed, Json.any_text_iff reference]
    exact and_congr_left (meaning doc)
  rw [lookup_index apart compiledQuery found, sameSearch, target?]
  refine Option.map_congr fun doc isFound => ?_
  have passed := List.find?_some isFound
  rw [Bool.and_eq_true] at passed
  rw [record_of_reference name noScore ((Json.any_text_iff reference).mp passed.2) reference]

theorem populate_singleton (find : Lookup) (docs : List Document) :
    populate find docs [clause] = clause.apply find docs := by
  rw [populate]
  cases clause.apply find docs <;> rfl

end PopulateClause

/-- **Population is exact.**  Where the filter of a clause says nothing about the foreign field, the
batch is answered, and every reference becomes the record that it stands for, or null if it stands
for none; a list keeps its order and loses the references that stand for none.  Putting the old value
back gives back the document, so nothing else in it has changed. -/
theorem populate_exact [PatternReader] {store : MemoryStore} {clause : PopulateClause}
    {docs : List Document} {p : Predicate} (name : '.' ∉ clause.foreignField.toList)
    (path : isDollarKey clause.foreignField = false)
    (noScore : clause.projection.scoreField = none)
    (wellKeyed : (Json.object clause.filter).isWellKeyed = true)
    (compiled : Predicate.compile clause.filter [] = .ok p)
    (free : clause.foreignField ∉ clause.filter.keys)
    (referable : ∀ doc ∈ docs, doc.ReferableAt clause.path) :
    let target? := clause.target? p (store.docs clause.source)
    populate store.lookup docs [clause] =
        .ok (docs.map fun doc => doc.updatePath clause.path (Json.resolve target?)) ∧
      ∀ doc ∈ docs,
        (doc.getPath? clause.path = none →
          doc.updatePath clause.path (Json.resolve target?) = doc) ∧
        ∀ v, doc.getPath? clause.path = some v →
          (doc.updatePath clause.path (Json.resolve target?)).getPath? clause.path =
              some (v.resolve target?) ∧
            (doc.updatePath clause.path (Json.resolve target?)).setPath clause.path v = doc := by
  intro target?
  refine ⟨?_, fun doc _ => ⟨Document.updatePath_of_none, fun v found => ⟨?_, ?_⟩⟩⟩
  · rw [PopulateClause.populate_singleton, PopulateClause.apply]
    split
    · next none =>
        have untouched := PopulateClause.references_isEmpty_iff.mp none
        refine congrArg Except.ok ?_
        conv_lhs => rw [← List.map_id docs]
        refine List.map_congr_left fun doc mem => ?_
        rw [PopulateClause.updatePath_resolve_eq_self (referable doc mem) (untouched doc mem)]
        rfl
    · -- the query compiles because the filter does, and every reference of a document is in it
      have scalars : ∀ r ∈ clause.references docs, r.isReference = true := fun r =>
        PopulateClause.isReference_of_mem_references
      obtain ⟨q, compiledQuery⟩ :=
        PopulateClause.exists_compile_query_of_notMem path wellKeyed compiled free scalars
      have found : store.lookup clause.source (clause.query (clause.references docs)) = .ok _ :=
        PopulateClause.lookup_query_eq_ok_iff.mpr ⟨q, compiledQuery, rfl⟩
      rw [found]
      refine congrArg Except.ok (List.map_congr_left fun doc mem => ?_)
      rw [PopulateClause.replace_eq_updatePath]
      refine PopulateClause.updatePath_resolve_congr (referable doc mem) fun r here => ?_
      exact PopulateClause.lookup_index_eq_target? name noScore wellKeyed free compiled scalars
        found (PopulateClause.mem_references.mpr ⟨doc, mem, here⟩)
  · rw [Document.getPath?_updatePath, found, Option.map_some]
  · exact Document.setPath_updatePath found

/-! ### A clause on two authors -/

/-- Two users, one of them inactive. -/
def userStore : MemoryStore :=
  ⟨[("users", [[("_id", .string "u1"), ("name", .string "Ada"), ("active", .bool true)],
    [("_id", .string "u2"), ("name", .string "Grace"), ("active", .bool false)]])], 0⟩

/-- Names of active users in place of their identities. -/
def activeAuthors : PopulateClause where
  path := "author"
  source := "users"
  foreignField := "_id"
  filter := [("active", .bool true)]
  projection := ⟨.include ["name"], none⟩

/-- A list of references, a reference to an inactive user, and no reference. -/
def authorPage : List Document :=
  [[("author", .array [.string "u2", .string "u1"])], [("author", .string "u2")],
    [("title", .string "t")]]

/-- The list keeps the active user, the lone reference becomes null, and the last document stays as
it is. -/
def populatedPage : List Document :=
  [[("author", .array [.object [("name", .string "Ada")]])], [("author", .null)],
    [("title", .string "t")]]

/-- The page of authors is populated reference by reference. -/
theorem populate_exact_authors :
    populate userStore.lookup authorPage [activeAuthors] = .ok populatedPage := by
  have exactly := (@populate_exact _ userStore activeAuthors authorPage
    (.allOf [.field "active" (.equal (.bool true))]) (by decide) (by decide) rfl (by decide) rfl
    (by decide) (by decide +kernel)).1
  rw [exactly]
  rfl

/-! ### What the filter of a clause still says -/

/-- **Whatever is put in place of a reference matches what stays in force of the filter.**  Every
record that population brings is a view of a stored record of the target that matches the clause's
filter without its `$in` on the foreign field, and the whole filter if it has no such `$in`. -/
theorem records_of_populate [PatternReader] {store : MemoryStore} {clause : PopulateClause}
    {docs data : List Document} {p : Predicate}
    (wellKeyed : (Json.object clause.filter).isWellKeyed = true)
    (compiled : Predicate.compile clause.filter [] = .ok p)
    (referable : ∀ doc ∈ docs, doc.ReferableAt clause.path)
    (populated : populate store.lookup docs [clause] = .ok data) :
    ∀ after ∈ data, ∀ v, after.getPath? clause.path = some v → ∀ record ∈ v.records,
      ∃ stored ∈ store.docs clause.source, ∃ score rest, record = clause.record stored score ∧
        Predicate.compile clause.standingFilter [] = .ok rest ∧ rest.matchesDocument stored = true ∧
        ((∀ ops, (clause.foreignField, Json.object ops) ∈ clause.filter →
            "$in" ∉ Document.keys ops) → p.matchesDocument stored = true) := by
  intro after mem v here record inside
  rw [PopulateClause.populate_singleton] at populated
  obtain ⟨doc, inDocs, rfl | ⟨children, found, rfl⟩⟩ :=
    (PopulateClause.forall₂_updatePath_of_apply populated).exists_of_mem_right mem
  · -- nothing was put in place
    rw [Json.records_of_isReferable (referable _ inDocs v here)] at inside
    cases inside
  · have scalars : ∀ r ∈ clause.references docs, r.isReference = true := fun r =>
      PopulateClause.isReference_of_mem_references
    rw [Document.getPath?_updatePath] at here
    obtain ⟨before, -, rfl⟩ := Option.map_eq_some_iff.mp here
    obtain ⟨q, compiledQuery, stored, inStore, matched, shown⟩ :=
      PopulateClause.exists_of_mem_records_resolve_index found inside
    have stands := ((PopulateClause.matchesDocument_query_iff wellKeyed scalars compiledQuery).mp
      matched).2
    rw [PopulateClause.stands_iff Clause.conjunctive_accepts wellKeyed compiled] at stands
    obtain ⟨rest, compiledRest⟩ := Predicate.exists_compile_iff.mpr fun left inRest =>
      (stands left inRest).compiles
    refine ⟨stored, inStore, _, rest, shown, compiledRest,
      (Predicate.matchesDocument_iff compiledRest).mpr stands, fun free => ?_⟩
    rw [PopulateClause.standingFilter_eq_self free] at stands
    exact (Predicate.matchesDocument_iff compiled).mpr stands

/-- A clause whose filter lets the first user through only. -/
def firstAuthor : PopulateClause where
  path := "author"
  source := "users"
  foreignField := "_id"
  filter := [("_id", .object [("$in", .array [.string "u1"])])]
  projection := .all

/-- The references of a batch take the place of a `$in` on the foreign field, so a user is put in
place whom the filter does not let through. -/
theorem records_of_populate_hidden :
    let grace : Document :=
      [("_id", .string "u2"), ("name", .string "Grace"), ("active", .bool false)]
    let p : Predicate := .allOf [.field "_id" (.isIn [.string "u1"])]
    Predicate.compile firstAuthor.filter [] = .ok p ∧ p.matchesDocument grace = false ∧
      populate userStore.lookup [[("author", .string "u2")]] [firstAuthor] =
        .ok [[("author", .object grace)]] ∧
      ∃ stored ∈ userStore.docs "users", ∃ score rest, grace = firstAuthor.record stored score ∧
        Predicate.compile firstAuthor.standingFilter [] = .ok rest ∧
        rest.matchesDocument stored = true := by
  intro grace p
  have populated : populate userStore.lookup [[("author", .string "u2")]] [firstAuthor] =
      .ok [[("author", .object grace)]] := rfl
  refine ⟨rfl, by decide +kernel, populated, ?_⟩
  obtain ⟨stored, inStore, score, rest, shown, compiled, matched, -⟩ :=
    @records_of_populate _ userStore firstAuthor _ _ p (by decide) rfl (by decide +kernel) populated
      _ List.mem_cons_self (.object grace) rfl grace List.mem_cons_self
  exact ⟨stored, inStore, score, rest, shown, compiled, matched⟩

end DocQuery
