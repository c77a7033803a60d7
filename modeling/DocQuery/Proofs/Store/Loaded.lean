import DocQuery.Proofs.Document.Detour
import DocQuery.Proofs.Store.Answer
import DocQuery.Proofs.Store.ReferenceQuery

/-!
# The records that references are replaced by

The query for references loads stored records in the order of insertion, with the foreign field kept
in, and the loaded records are indexed by the text of that field.  So looking a reference up in the
index is a search through the stored records for the first one that matches and has the text
(`PopulateClause.lookup_index`), and what is found is a view of that record (`PopulateClause.record`).

## Main definitions

* `PopulateClause.loaded`, `PopulateClause.keyOf`, `PopulateClause.record`: a stored record as it is
  loaded, the key that it is found by, and what it is put in place as
* `PopulateClause.exists_of_mem_index`, `PopulateClause.lookup_index`
* `PopulateClause.trimmed_keyOf`, `PopulateClause.keyOf_of_reference`: keys and stored values
-/

namespace DocQuery

/-! ### Queries without an order -/

theorem sortRows_nil (rows : List Row) : sortRows [] rows = rows := by
  have each : ∀ rows sorted : List Row,
      rows.foldl (fun sorted row => insertFromEnd [] row sorted) sorted = rows.reverse ++ sorted := by
    intro rows
    induction rows with
    | nil => exact fun sorted => rfl
    | cons row rest ih =>
        intro sorted
        have front : insertFromEnd [] row sorted = row :: sorted := by
          cases sorted with
          | nil => rfl
          | cons last before => rw [insertFromEnd, if_neg (by simp [Row.order])]
        rw [List.foldl_cons, front, ih, List.reverse_cons, List.append_assoc]
        rfl
  rw [sortRows, each, List.append_nil, List.reverse_reverse]

/-- The relevance that is recorded for a document. -/
def Predicate.relevance (p : Predicate) (doc : Document) : Option Binary64 := (p.evaluate doc none).2

theorem MemoryStore.rowOf_plain (p : Predicate) (doc : Document) :
    rowOf p (Row.plain doc) =
      if p.matchesDocument doc then some ⟨doc, p.relevance doc⟩ else none := by
  rw [rowOf, Predicate.matchesDocument, Predicate.relevance, Row.plain]
  rcases p.evaluate doc none with ⟨_ | _, score⟩ <;> rfl

namespace PopulateClause

variable {clause : PopulateClause} {references : List Json} {store : MemoryStore}
  {children : List Document} {p : Predicate} {doc : Document} {r v : Json}

/-! ### Loading -/

/-- A stored record as it is loaded, with the field that references match kept in. -/
def loaded (clause : PopulateClause) (doc : Document) (score : Option Binary64) : Document :=
  MemoryStore.projected (clause.projection.ensureIncluded clause.foreignField) ⟨doc, score⟩

/-- What is put in place of a reference to a stored record. -/
def record (clause : PopulateClause) (doc : Document) (score : Option Binary64) : Document :=
  if clause.stripsForeignField then (clause.loaded doc score).removePath clause.foreignField
  else clause.loaded doc score

/-- The stored records that match are loaded in the order of insertion. -/
theorem lookup_query_eq_ok_iff [PatternReader] :
    store.lookup clause.source (clause.query references) = .ok children ↔
      ∃ p, Predicate.compile (clause.query references).filter [] = .ok p ∧
        children = (store.docs clause.source).filterMap fun doc =>
          if p.matchesDocument doc then some (clause.loaded doc (p.relevance doc)) else none := by
  have loads : ∀ p : Predicate,
      ((store.rows clause.source).filterMap (MemoryStore.rowOf p)).map
          (MemoryStore.projected (clause.query references).projection) =
        (store.docs clause.source).filterMap fun doc =>
          if p.matchesDocument doc then some (clause.loaded doc (p.relevance doc)) else none := by
    intro p
    rw [MemoryStore.rows, List.filterMap_map, List.map_filterMap]
    refine List.filterMap_congr fun doc _ => ?_
    rw [Function.comp_apply, MemoryStore.rowOf_plain]
    split <;> rfl
  rw [MemoryStore.lookup, MemoryStore.search, Except.map_eq_ok_iff]
  simp only [MemoryStore.select, Except.bind_eq_ok_iff, Except.ok.injEq]
  constructor
  · rintro ⟨rows, ⟨p, compiled, rfl⟩, rfl⟩
    refine ⟨p, compiled, ?_⟩
    rw [← loads p]
    show List.map _ (FindQuery.window _ (sortRows [] _)) = _
    rw [sortRows_nil]
    rfl
  · rintro ⟨p, compiled, rfl⟩
    refine ⟨_, ⟨p, compiled, rfl⟩, ?_⟩
    rw [← loads p]
    show List.map _ (FindQuery.window _ (sortRows [] _)) = _
    rw [sortRows_nil]
    rfl

/-! ### The index -/

/-- Whatever is put in place of a reference is a view of a stored record that the query matches. -/
theorem exists_of_mem_index [PatternReader] {text : String}
    (found : store.lookup clause.source (clause.query references) = .ok children)
    (mem : (text, v) ∈ clause.index children) :
    ∃ p, Predicate.compile (clause.query references).filter [] = .ok p ∧
      ∃ doc ∈ store.docs clause.source, p.matchesDocument doc = true ∧
        v = .object (clause.record doc (p.relevance doc)) := by
  obtain ⟨p, compiled, rfl⟩ := lookup_query_eq_ok_iff.mp found
  obtain ⟨child, inChildren, entry⟩ := List.mem_filterMap.mp mem
  obtain ⟨doc, stored, shown⟩ := List.mem_filterMap.mp inChildren
  rw [Option.ite_none_right_eq_some] at shown
  obtain ⟨matched, shown⟩ := shown
  obtain ⟨key, -, same⟩ := Option.map_eq_some_iff.mp entry
  refine ⟨p, compiled, doc, stored, matched, ?_⟩
  rw [← (Prod.mk.inj same).2, record, Option.some.inj shown]

/-- The value that a stored record is found by. -/
def keyOf (clause : PopulateClause) (doc : Document) : Option Json :=
  (doc.keep (clause.projection.ensureIncluded clause.foreignField).fields).getPath?
    clause.foreignField

/-- The field for the relevance is another one than the field that references match. -/
def KeyApart (clause : PopulateClause) : Prop :=
  ∀ field, clause.projection.scoreField = some field → field ≠ Path.root clause.foreignField

theorem removePath_foreignField (foreign : '.' ∉ clause.foreignField.toList) (doc : Document) :
    doc.removePath clause.foreignField = doc.erase clause.foreignField := by
  rw [Document.removePath, Path.segments_of_name foreign, Document.remove]

theorem loaded_of_noScore (noScore : clause.projection.scoreField = none) (doc : Document)
    (score : Option Binary64) : clause.loaded doc score =
      doc.keep (clause.projection.ensureIncluded clause.foreignField).fields := by
  rw [loaded, MemoryStore.projected,
    Document.project_of_noScore ((Projection.scoreField_ensureIncluded _ _).trans noScore)]

/-- A projection that does not have to be told to keep the foreign field in shows a record as it is put
in place: what is stripped is excluded anyway. -/
theorem record_of_notAdded (noScore : clause.projection.scoreField = none)
    (listed : ∀ paths, clause.projection.fields = .include paths → clause.foreignField ∈ paths)
    (score : Option Binary64) : clause.record doc score = doc.project clause.projection none := by
  rw [record, loaded_of_noScore noScore, Document.project_of_noScore noScore, stripsForeignField,
    Projection.ensureIncluded]
  cases fields : clause.projection.fields with
  | all => simp only [fields, Bool.false_eq_true, if_false]
  | «include» paths => simp [listed paths fields, fields]
  | exclude paths =>
      by_cases excluded : clause.foreignField ∈ paths
      · simp only [List.contains_eq_mem, excluded, decide_true, if_true]
        exact Document.removePath_keep_exclude excluded
      · have whole : paths.filter (· ≠ clause.foreignField) = paths := by
          refine List.filter_eq_self.mpr fun path mem => ?_
          have other : path ≠ clause.foreignField := fun same => excluded (same ▸ mem)
          simpa using other
        simp only [List.contains_eq_mem, excluded, decide_false, Bool.false_eq_true, if_false, whole]

/-- To an inclusion without it the foreign field is added, and removed again. -/
theorem record_of_added {paths : List String} (noScore : clause.projection.scoreField = none)
    (fields : clause.projection.fields = .include paths) (unlisted : clause.foreignField ∉ paths)
    (score : Option Binary64) : clause.record doc score =
      (doc.keep (.include (paths ++ [clause.foreignField]))).removePath clause.foreignField := by
  rw [record, loaded_of_noScore noScore, stripsForeignField, Projection.ensureIncluded, fields]
  simp [unlisted]

theorem getPath?_loaded (apart : clause.KeyApart) (score : Option Binary64) :
    (clause.loaded doc score).getPath? clause.foreignField = clause.keyOf doc := by
  rw [loaded, MemoryStore.projected, Document.project, Projection.scoreField_ensureIncluded,
    keyOf]
  cases field : clause.projection.scoreField with
  | none => rfl
  | some s => exact Document.getPath?_insert_of_ne (apart s field)

/-- **Looking a text up** is a search for the first stored record that matches and has the text. -/
theorem lookup_index [PatternReader] (apart : clause.KeyApart)
    (compiled : Predicate.compile (clause.query references).filter [] = .ok p)
    (found : store.lookup clause.source (clause.query references) = .ok children) (text : String) :
    (clause.index children).lookup text =
      ((store.docs clause.source).find? fun doc =>
          p.matchesDocument doc && (clause.keyOf doc).any (·.text == text)).map
        fun doc => .object (clause.record doc (p.relevance doc)) := by
  obtain ⟨q, compiled', rfl⟩ := lookup_query_eq_ok_iff.mp found
  obtain rfl := Except.ok_unique compiled compiled'
  clear found compiled'
  rw [index, List.filterMap_filterMap]
  induction store.docs clause.source with
  | nil => rfl
  | cons doc rest ih =>
      rw [List.filterMap_cons, List.find?_cons]
      cases matched : p.matchesDocument doc with
      | false => simpa using ih
      | true =>
          simp only [if_true, Option.bind_some, getPath?_loaded apart, Bool.true_and]
          cases clause.keyOf doc with
          | none => simpa using ih
          | some key =>
              simp only [Option.map_some, Option.any_some]
              rw [List.lookup_cons]
              by_cases same : key.text = text
              · simp [same, record]
              · simpa [beq_eq_false_iff_ne.mpr same, beq_eq_false_iff_ne.mpr (Ne.symm same)] using ih

/-! ### Keys and stored values -/

/-- Nothing can be taken out of a reference, and nothing but a reference is left as one. -/
theorem eq_of_trimmed {left : Json} (trimmed : v.Trimmed left)
    (reference : v.isReference = true ∨ left.isReference = true) : left = v := by
  cases trimmed with
  | same => rfl
  | object => rcases reference with impossible | impossible <;> cases impossible
  | array => rcases reference with impossible | impossible <;> cases impossible

/-- The key of a stored record is the value of its foreign field, perhaps with something taken out
of it. -/
theorem trimmed_keyOf {key : Json} (found : clause.keyOf doc = some key) :
    ∃ value, doc.getPath? clause.foreignField = some value ∧ value.Trimmed key :=
  Document.exists_trimmed_of_keep found

/-- A stored record with a reference in its foreign field is found by it. -/
theorem keyOf_of_reference (name : '.' ∉ clause.foreignField.toList)
    (stored : doc.getPath? clause.foreignField = some r) (reference : r.isReference = true) :
    clause.keyOf doc = some r := by
  unfold keyOf Projection.ensureIncluded
  cases fields : clause.projection.fields with
  | all =>
      simp only [fields]
      exact stored
  | «include» paths =>
      dsimp only
      split
      · next listed =>
          rw [fields, Document.getPath?_keep_include_of_mem (List.contains_iff_mem.mp listed)]
          exact stored
      · rw [Document.getPath?_keep_include_of_mem (List.mem_append_right _ List.mem_cons_self)]
        exact stored
  | exclude paths =>
      dsimp only
      have shown : ∀ p ∈ paths.filter (· ≠ clause.foreignField),
          Path.covers p clause.foreignField = false := by
        intro p mem
        rw [Bool.eq_false_iff]
        intro covers
        have same := Path.eq_of_covers_name name covers
        simp [same] at mem
      have related := @Document.trimmed_keep_exclude doc _ _ shown
      rw [stored] at related
      generalize (doc.keep (.exclude (paths.filter (· ≠ clause.foreignField)))).getPath?
        clause.foreignField = key at related ⊢
      cases related with
      | some trimmed => rw [eq_of_trimmed trimmed (.inl reference)]

/-- A record that is found by the text of a reference has that reference in its foreign field. -/
theorem getPath?_of_keyOf_text (hasText : (clause.keyOf doc).any (·.text == r.text) = true)
    (reference : r.isReference = true) : doc.getPath? clause.foreignField = some r := by
  obtain ⟨value, stored, trimmed⟩ := trimmed_keyOf ((Json.any_text_iff reference).mp hasText)
  rw [eq_of_trimmed trimmed (.inr reference)]
  exact stored

theorem equalsSome_singleton_self (reference : r.isReference = true) : equalsSome [r] r = true := by
  have self : r.matchesOperand r = true := by
    cases r with
    | string s => simp [Json.matchesOperand, Json.equal]
    | number n => simp [Json.matchesOperand, n.order_self]
    | _ => cases reference
  simp [equalsSome, candidates, self]

/-- Only references, and lists, pass the test on the foreign field. -/
theorem isReference_or_array {value : Json} (scalars : ∀ r ∈ references, r.isReference = true)
    (passed : references.any (equalsSome [value]) = true) :
    value.isReference = true ∨ ∃ items, value = .array items := by
  obtain ⟨r, mem, equals⟩ := List.any_eq_true.mp passed
  have reference := scalars r mem
  cases value with
  | string s => exact .inl rfl
  | number n => exact .inl rfl
  | array items => exact .inr ⟨items, rfl⟩
  | _ =>
      cases r with
      | string s => simp [equalsSome, candidates, Json.array?, Json.matchesOperand, Json.equal] at equals
      | number n => simp [equalsSome, candidates, Json.array?, Json.matchesOperand, Json.equal] at equals
      | _ => cases reference

/-- Nothing is found under the text of null, a truth value or an object. -/
theorem lookup_index_eq_none [PatternReader] (apart : clause.KeyApart)
    (distinct : clause.filter.DistinctKeys)
    (scalars : ∀ r ∈ references, r.isReference = true)
    (found : store.lookup clause.source (clause.query references) = .ok children)
    (noReference : v.isReference = false) (flat : v.array? = none) :
    (clause.index children).lookup v.text = none := by
  obtain ⟨p, compiled, -⟩ := lookup_query_eq_ok_iff.mp found
  rw [lookup_index apart compiled found, Option.map_eq_none_iff, List.find?_eq_none]
  intro doc _ passed
  rw [Bool.and_eq_true] at passed
  obtain ⟨matched, hasText⟩ := passed
  cases isKey : clause.keyOf doc with
  | none =>
      rw [isKey] at hasText
      cases hasText
  | some key =>
      rw [isKey, Option.any_some, beq_iff_eq] at hasText
      obtain ⟨value, stored, trimmed⟩ := trimmed_keyOf isKey
      have test := equalsSome_of_matchesDocument distinct scalars compiled matched
      rw [Document.lookup_of_getPath? stored] at test
      -- the text tells the kind of the key, which is that of a reference or a list
      have kind := Json.kindRank_eq_of_text hasText
      rcases isReference_or_array scalars test with reference | ⟨items, rfl⟩
      · obtain rfl := eq_of_trimmed trimmed (.inl reference)
        rw [Json.eq_of_text_of_isReference reference hasText.symm, reference] at noReference
        cases noReference
      · have list : v.kindRank = 4 := by cases trimmed <;> exact kind.symm
        cases v with
        | array items => cases flat
        | _ => cases list

end PopulateClause

end DocQuery
