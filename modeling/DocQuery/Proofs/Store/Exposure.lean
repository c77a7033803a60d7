import DocQuery.Proofs.Store.Population

/-!
# What population brings to a path

The records that a clause puts in place come from its index, so they have no key that its projection
keeps out.  A later clause can still change what stands at the path: it writes inside a record that
was put there, which brings no key, or it replaces a whole value above the path.  The second one is
the delicate case.  Above the path of a reference stand objects, and an object is never found in an
index, because only references and lists pass the test of the query.  So such a clause leaves null,
and nothing below it.

## Main definitions

* `Json.Lacks`: a value without certain keys in its records
* `PopulateClause.Conceals`: clauses that keep certain keys out of what they put in place
* `Document.Sealed`: what a run of clauses preserves
* `PopulateClause.forall₂_lacks_of_apply`, `sealed_of_populate`
-/

namespace DocQuery

variable {names places : List String} {path : String} {doc : Document} {v : Json}

/-! ### Values without certain keys -/

/-- No record in a value has one of the named keys. -/
def Json.Lacks (names : List String) (v : Json) : Prop :=
  ∀ record ∈ v.records, ∀ name ∈ names, name ∉ record.keys

theorem Json.lacks_of_isReferable (referable : v.isReferable = true) : v.Lacks names := by
  intro record inside
  rw [records_of_isReferable referable] at inside
  cases inside

theorem Json.lacks_object {members : Document} :
    (object members).Lacks names ↔ ∀ name ∈ names, name ∉ members.keys :=
  List.forall_mem_singleton

/-- What is left of a reference, or of a list of references, is the whole of it. -/
theorem Json.Trimmed.eq_of_isReferable {left : Json} (trimmed : v.Trimmed left)
    (referable : v.isReferable = true) : left = v := by
  cases trimmed with
  | same => rfl
  | object => cases referable
  | array items left flat =>
      refine congrArg Json.array (flat fun item mem => ?_)
      have reference := List.all_eq_true.mp referable item mem
      cases item <;> first | rfl | cases reference

/-! ### A document on its way through the clauses -/

/-- No record at a path has one of the named keys, and at the places of clauses above the path there
are objects and null only. -/
structure Document.Sealed (names places : List String) (path : String) (doc : Document) : Prop where
  lacks : ∀ v, doc.getPath? path = some v → v.Lacks names
  hollow : ∀ above ∈ places, Path.covers above path = true → above ≠ path →
    ∀ v, doc.getPath? above = some v → v = .null ∨ ∃ members, v = .object members

/-- A change keeps a document sealed if at the path it brings none of the keys, and if of objects and
null it leaves null. -/
theorem Document.Sealed.updatePath {place : String} {f : Json → Json}
    (closed : doc.Sealed names places path) (inPlaces : place ∈ places)
    (brings : path = place → ∀ v, (f v).Lacks names) (null : f .null = .null)
    (object : ∀ members, f (.object members) = .null) :
    (doc.updatePath place f).Sealed names places path := by
  cases found : doc.getPath? place with
  | none =>
      rw [updatePath_of_none found]
      exact closed
  | some old =>
      rw [updatePath_of_some found]
      -- a change above the path leaves null there
      have emptied : ∀ {q}, Path.covers place q = true → place ≠ q → Path.covers q path = true →
          f old = .null := by
        intro q covers differ below
        rcases closed.hollow place inPlaces (Path.covers_trans covers below)
          (Path.ne_of_covers covers below differ) old found with rfl | ⟨members, rfl⟩
        · exact null
        · exact object members
      refine ⟨fun v found' => ?_, fun above listed covers differ v found' => ?_⟩
      · have reads := readAfterWrite found (f old) path
        rw [found'] at reads
        generalize read : some v = shown at reads
        cases reads with
        | here same => exact Option.some.inj read ▸ brings same old
        | above _ _ members written before sameKeys =>
            have lacks := Json.lacks_object.mp (closed.lacks _ before)
            rw [← sameKeys] at lacks
            exact Option.some.inj read ▸ Json.lacks_object.mpr lacks
        | below differ covers rest =>
            rw [emptied covers differ.symm (Path.covers_iff.mpr List.prefix_rfl)] at read
            cases read
        | apart => exact closed.lacks v read.symm
      · have reads := readAfterWrite found (f old) above
        rw [found'] at reads
        generalize read : some v = shown at reads
        cases reads with
        | here same =>
            subst same
            rw [Option.some.inj read]
            exact .inl (emptied covers differ (Path.covers_iff.mpr List.prefix_rfl))
        | above _ _ members written => exact .inr ⟨written, Option.some.inj read⟩
        | below notSame below rest =>
            rw [emptied below notSame.symm covers] at read
            cases read
        | apart => exact closed.hollow above listed covers differ v read.symm

/-! ### Clauses that keep keys out -/

namespace PopulateClause

variable {clause : PopulateClause} {store : MemoryStore} {docs next children : List Document}
  {references : List Json} {paths : List String} {name : String}

/-- Whatever a clause puts in place has none of the named keys. -/
def Conceals (clause : PopulateClause) (names : List String) : Prop :=
  ∀ doc score, ∀ name ∈ names, name ∉ (clause.record doc score).keys

/-- A key is in what is put in place only if it is loaded, and not if it is loaded for the match
only. -/
theorem mem_keys_record (foreign : '.' ∉ clause.foreignField.toList) {score : Option Binary64}
    (mem : name ∈ (clause.record doc score).keys) :
    name ∈ (clause.loaded doc score).keys ∧
      (clause.stripsForeignField = true → name ≠ clause.foreignField) := by
  unfold record at mem
  split at mem
  · rw [removePath_foreignField foreign] at mem
    have present : ((clause.loaded doc score).erase clause.foreignField).get? name ≠ none :=
      fun absent => Document.get?_eq_none_iff.mp absent mem
    rw [Document.get?_erase] at present
    split at present
    · exact absurd rfl present
    · next other =>
        refine ⟨?_, fun _ => Ne.symm other⟩
        by_contra absent
        exact present (Document.get?_eq_none_iff.mpr absent)
  · next keeps => exact ⟨mem, fun strips => absurd strips keeps⟩

/-- An inclusion of paths that start elsewhere conceals a name: the foreign field is stripped again if
it has that name. -/
theorem notMem_keys_record_include (foreign : '.' ∉ clause.foreignField.toList)
    (projection : clause.projection = ⟨.include paths, none⟩)
    (elsewhere : ∀ path ∈ paths, Path.root path ≠ name) (score : Option Binary64) :
    name ∉ (clause.record doc score).keys := by
  intro mem
  obtain ⟨inLoaded, notStripped⟩ := mem_keys_record foreign mem
  have root : Path.root clause.foreignField = clause.foreignField := by
    rw [Path.root, Path.segments_of_name foreign]
    rfl
  rw [stripsForeignField, projection] at notStripped
  rw [loaded_of_noScore (by rw [projection]), projection, Projection.ensureIncluded] at inLoaded
  dsimp only at inLoaded notStripped
  split at inLoaded
  · obtain ⟨path, listed, starts, -⟩ := Document.mem_keys_keep_include inLoaded
    exact elsewhere path listed starts
  · next unlisted =>
      obtain ⟨path, listed, starts, -⟩ := Document.mem_keys_keep_include inLoaded
      rcases List.mem_append.mp listed with inPaths | isField
      · exact elsewhere path inPaths starts
      · rw [List.mem_singleton.mp isField, root] at starts
        exact notStripped (by simpa using unlisted) starts.symm

/-- An exclusion of a name conceals it: the foreign field is taken out of the exclusion for the match
only. -/
theorem notMem_keys_record_exclude (foreign : '.' ∉ clause.foreignField.toList)
    (projection : clause.projection = ⟨.exclude paths, none⟩) (plain : '.' ∉ name.toList)
    (excluded : name ∈ paths) (score : Option Binary64) : name ∉ (clause.record doc score).keys := by
  intro mem
  obtain ⟨inLoaded, notStripped⟩ := mem_keys_record foreign mem
  rw [stripsForeignField, projection] at notStripped
  rw [loaded_of_noScore (by rw [projection]), projection, Projection.ensureIncluded] at inLoaded
  dsimp only at inLoaded notStripped
  by_cases isField : name = clause.foreignField
  · exact notStripped (List.contains_iff_mem.mpr (isField ▸ excluded)) isField
  · have listed : name ∈ paths.filter (· ≠ clause.foreignField) :=
      List.mem_filter.mpr ⟨excluded, by simpa using isField⟩
    exact Document.notMem_keys_keep_exclude plain listed inLoaded

/-! ### Runs of clauses -/

/-- Every record that an index brings is concealed. -/
theorem lacks_resolve_index [PatternReader] (conceals : clause.Conceals names)
    (found : store.lookup clause.source (clause.query references) = .ok children) (v : Json) :
    (v.resolve fun r => (clause.index children).lookup r.text).Lacks names := by
  intro record inside
  obtain ⟨p, -, stored, -, -, rfl⟩ := exists_of_mem_records_resolve_index found inside
  exact conceals stored _

/-- A clause changes a document at its path only, and brings nothing that it conceals. -/
theorem forall₂_lacks_of_apply [PatternReader] (conceals : clause.Conceals names)
    (applied : clause.apply store.lookup docs = .ok next) :
    List.Forall₂ (fun doc after => after = doc ∨
      ∃ v : Json, v.Lacks names ∧ after = doc.setPath clause.path v) docs next := by
  refine (forall₂_updatePath_of_apply applied).imp fun doc after change => ?_
  rcases change with unchanged | ⟨children, found, rfl⟩
  · exact .inl unchanged
  · cases here : doc.getPath? clause.path with
    | none => exact .inl (Document.updatePath_of_none here)
    | some v =>
        exact .inr ⟨_, lacks_resolve_index conceals found v, Document.updatePath_of_some here⟩

/-- A clause keeps documents sealed, if it conceals the keys or has another path. -/
theorem sealed_of_apply [PatternReader] (apart : clause.KeyApart)
    (distinct : clause.filter.DistinctKeys)
    (inPlaces : clause.path ∈ places) (conceals : path = clause.path → clause.Conceals names)
    (applied : clause.apply store.lookup docs = .ok next) :
    List.Forall₂ (fun doc after => doc.Sealed names places path → after.Sealed names places path)
      docs next := by
  refine (forall₂_updatePath_of_apply applied).imp fun doc after change closed => ?_
  rcases change with rfl | ⟨children, found, rfl⟩
  · exact closed
  · have scalars : ∀ r ∈ clause.references docs, r.isReference = true := fun r =>
      isReference_of_mem_references
    refine closed.updatePath inPlaces (fun same => lacks_resolve_index (conceals same) found) rfl
      fun members => ?_
    rw [Json.resolve, lookup_index_eq_none apart distinct scalars found rfl rfl]
    · rfl
    · exact fun _ impossible => nomatch impossible
    · exact fun impossible => nomatch impossible

end PopulateClause

/-- **A run of clauses keeps documents sealed**, if every clause on the path conceals the keys. -/
theorem sealed_of_populate [PatternReader] {store : MemoryStore} {clauses : List PopulateClause}
    {docs data : List Document} (apart : ∀ clause ∈ clauses, clause.KeyApart)
    (distinct : ∀ clause ∈ clauses, clause.filter.DistinctKeys)
    (inPlaces : ∀ clause ∈ clauses, clause.path ∈ places)
    (conceals : ∀ clause ∈ clauses, path = clause.path → clause.Conceals names)
    (populated : populate store.lookup docs clauses = .ok data) :
    List.Forall₂ (fun doc after => doc.Sealed names places path → after.Sealed names places path)
      docs data := by
  induction clauses generalizing docs with
  | nil =>
      obtain rfl := Except.ok.inj populated
      exact List.forall₂_same.mpr fun doc _ => id
  | cons clause rest ih =>
      obtain ⟨next, applied, others⟩ := Except.bind_eq_ok_iff.mp populated
      have first := PopulateClause.sealed_of_apply (apart clause List.mem_cons_self)
        (distinct clause List.mem_cons_self) (inPlaces clause List.mem_cons_self)
        (conceals clause List.mem_cons_self) applied
      have later := ih (fun c mem => apart c (List.mem_cons_of_mem _ mem))
        (fun c mem => distinct c (List.mem_cons_of_mem _ mem))
        (fun c mem => inPlaces c (List.mem_cons_of_mem _ mem))
        (fun c mem => conceals c (List.mem_cons_of_mem _ mem)) others
      refine (first.comp later).imp ?_
      rintro doc after ⟨middle, step, run⟩ closed
      exact run (step closed)

/-! ### Projected documents -/

/-- In a field with the relevance there is nothing but the relevance. -/
theorem Document.eq_of_getPath?_insert {field : String} {score w : Json}
    (scalar : score.object? = none) (own : Path.root path = field)
    (found : (doc.insert field score).getPath? path = some w) :
    Path.segments path = [field] ∧ w = score := by
  rw [getPath?, Path.segments_eq_cons, own] at found
  by_cases last : (Path.segments path).tail = []
  · rw [last, descend?, get?_insert_self] at found
    refine ⟨?_, (Option.some.inj found).symm⟩
    rw [Path.segments_eq_cons, last, own]
  · rw [descend?_cons last, get?_insert_self, Option.bind_some, Json.below?, scalar] at found
    cases found

/-- A projection of a stored document with nothing but references at a path is sealed, unless the
relevance is at a place above the path. -/
theorem sealed_projected {p : Projection} {row : Row} (stored : row.doc.getPath? path = some v)
    (referable : v.isReferable = true)
    (scored : ∀ field, p.scoreField = some field → '.' ∉ field.toList ∧
      (field ∈ places → Path.covers field path = true → field = path)) :
    (MemoryStore.projected p row).Sealed names places path := by
  have kept : (row.doc.keep p.fields).Sealed names places path := by
    refine ⟨fun w here => ?_, fun above _ covers differ w here => ?_⟩
    · obtain ⟨whole, found, trimmed⟩ := Document.exists_trimmed_of_keep here
      obtain rfl : v = whole := Option.some.inj (stored.symm.trans found)
      exact trimmed.eq_of_isReferable referable ▸ Json.lacks_of_isReferable referable
    · obtain ⟨whole, found, trimmed⟩ := Document.exists_trimmed_of_keep here
      obtain ⟨members, isObject⟩ := Document.exists_object_of_covers stored covers differ
      obtain rfl : Json.object members = whole := Option.some.inj (isObject.symm.trans found)
      cases trimmed with
      | same => exact .inr ⟨members, rfl⟩
      | object _ left => exact .inr ⟨left, rfl⟩
  rw [MemoryStore.projected, Document.project]
  cases isScore : p.scoreField with
  | none => exact kept
  | some field =>
      obtain ⟨undotted, notAbove⟩ := scored field isScore
      generalize known : (row.score.map fun s => Json.number (.float s)).getD .null = score
      have scalar : score.object? = none ∧ score.isReferable = true := by
        rw [← known]
        cases row.score <;> exact ⟨rfl, rfl⟩
      dsimp only
      by_cases own : Path.root path = field
      · refine ⟨fun w here => ?_, fun above listed covers differ w here => ?_⟩
        · obtain ⟨-, rfl⟩ := Document.eq_of_getPath?_insert scalar.1 own here
          exact Json.lacks_of_isReferable scalar.2
        · -- a place above the path with a value could only be the field of the relevance itself
          have ownAbove := (Path.root_eq_of_covers covers).trans own
          obtain ⟨single, -⟩ := Document.eq_of_getPath?_insert scalar.1 ownAbove here
          obtain rfl : above = field :=
            Path.segments_injective (single.trans (Path.segments_of_name undotted).symm)
          exact absurd (notAbove listed covers) differ
      · refine ⟨fun w here => ?_, fun above listed covers differ w here => ?_⟩
        · rw [Document.getPath?_insert_of_ne (Ne.symm own)] at here
          exact kept.lacks w here
        · rw [← Path.root_eq_of_covers covers] at own
          rw [Document.getPath?_insert_of_ne (Ne.symm own)] at here
          exact kept.hollow above listed covers differ w here

end DocQuery
