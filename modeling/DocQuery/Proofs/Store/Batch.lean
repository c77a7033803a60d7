import DocQuery.Proofs.Store.Population
import DocQuery.Proofs.Store.Relevance

/-!
# Population of a batch, document by document

Whether anything is loaded, and what, depends on all documents of a batch.  What a document becomes
does not, as long as it is ready: it has nothing, null, a reference or a list with a reference at the
path.  A reference finds the same record in the index of any batch that asks for it, and null, a
truth value or an object finds none.

A document that is not ready is left alone by itself, and changed beside a document with a reference.
So population is a matter of each document (`populate_alone`) where every clause finds the document
ready, or finds no reference in the whole batch.

## Main definitions

* `Json.isReady`, `Document.ReadyAt`: values that become the same in any batch
* `Undisturbed`: documents that stay ready through all clauses
* `PopulateClause.apply_alone`, `populate_alone`
-/

namespace DocQuery

/-! ### Documents that are ready -/

/-- Whether a value becomes the same in any batch: null, a reference, an empty list, or a list with a
reference and without lists inside. -/
def Json.isReady : Json → Bool
  | .null => true
  | .array items =>
    items.isEmpty || (items.any Json.isReference && items.all fun item => item.array?.isNone)
  | v => v.isReference

/-- A document has nothing at a path but what becomes the same in any batch. -/
def Document.ReadyAt (doc : Document) (path : String) : Prop :=
  ∀ v, doc.getPath? path = some v → v.isReady = true

instance (doc : Document) (path : String) : Decidable (doc.ReadyAt path) :=
  decidable_of_iff ((doc.getPath? path).all Json.isReady = true) <| by
    rw [Document.ReadyAt]
    cases doc.getPath? path <;> simp

theorem Json.isReady_cases {v : Json} (ready : v.isReady = true) :
    v = .null ∨ v.isReference = true ∨ v = .array [] ∨
      ∃ items, v = .array items ∧ (∃ r ∈ items, r.isReference = true) ∧
        ∀ item ∈ items, item.array? = none := by
  cases v with
  | null => exact .inl rfl
  | array items =>
      refine .inr (.inr ?_)
      rw [isReady, Bool.or_eq_true, Bool.and_eq_true] at ready
      rcases ready with empty | ⟨some, flat⟩
      · exact .inl (congrArg array (List.isEmpty_iff.mp empty))
      · refine .inr ⟨items, rfl, List.any_eq_true.mp some, fun item mem => ?_⟩
        exact Option.isNone_iff_eq_none.mp (List.all_eq_true.mp flat item mem)
  | _ => exact .inr (.inl ready)

namespace PopulateClause

variable {clause : PopulateClause} {store : MemoryStore} {references others : List Json}
  {children children' docs next : List Document} {doc : Document} {r : Json}

/-! ### Indexes of two batches -/

/-- A reference finds the same record in the indexes of all batches that ask for it. -/
theorem lookup_index_congr [PatternReader] (apart : clause.KeyApart)
    (wellKeyed : (Json.object clause.filter).isWellKeyed = true)
    (scalars : ∀ r ∈ references, r.isReference = true)
    (scalars' : ∀ r ∈ others, r.isReference = true)
    (found : store.lookup clause.source (clause.query references) = .ok children)
    (found' : store.lookup clause.source (clause.query others) = .ok children')
    (mem : r ∈ references) (mem' : r ∈ others) :
    (clause.index children).lookup r.text = (clause.index children').lookup r.text := by
  have reference := scalars r mem
  obtain ⟨p, compiled, -⟩ := lookup_query_eq_ok_iff.mp found
  obtain ⟨q, compiled', -⟩ := lookup_query_eq_ok_iff.mp found'
  -- a record with this reference passes both tests, and the rest of the two queries is the same
  have both : ∀ doc : Document, (clause.keyOf doc).any (·.text == r.text) = true →
      p.matchesDocument doc = q.matchesDocument doc := by
    intro doc hasText
    have only := Document.lookup_of_getPath? (getPath?_of_keyOf_text hasText reference)
    have passes : ∀ list : List Json, r ∈ list →
        list.any (equalsSome (doc.lookup clause.foreignField)) = true := by
      intro list inList
      rw [only]
      exact List.any_eq_true.mpr ⟨r, inList, equalsSome_singleton_self reference⟩
    rw [Bool.eq_iff_iff, matchesDocument_query_iff wellKeyed scalars compiled,
      matchesDocument_query_iff wellKeyed scalars' compiled']
    simp only [passes references mem, passes others mem', true_and]
  have sameSearch : ((store.docs clause.source).find? fun doc =>
        p.matchesDocument doc && (clause.keyOf doc).any (·.text == r.text)) =
      (store.docs clause.source).find? fun doc =>
        q.matchesDocument doc && (clause.keyOf doc).any (·.text == r.text) := by
    refine List.find?_congr fun doc _ => ?_
    cases hasText : (clause.keyOf doc).any (·.text == r.text) with
    | false => rw [Bool.and_false, Bool.and_false]
    | true => rw [both doc hasText]
  rw [lookup_index apart compiled found, lookup_index apart compiled' found', sameSearch]
  refine Option.map_congr fun doc isFound => ?_
  have passed := List.find?_some isFound
  rw [Bool.and_eq_true] at passed
  rw [relevance_congr wellKeyed scalars compiled compiled' ((both doc passed.2).trans passed.1)
    passed.1]

/-! ### One clause -/

/-- A ready document without references has nothing to replace. -/
theorem updatePath_resolve_eq_self_of_ready {f : Json → Option Json} (ready : doc.ReadyAt clause.path)
    (none : doc.referencesAt clause.path = []) :
    doc.updatePath clause.path (Json.resolve f) = doc := by
  have noReference := List.eq_nil_iff_forall_not_mem.mp none
  refine Document.updatePath_eq_self fun v here => ?_
  rcases Json.isReady_cases (ready v here) with
    rfl | reference | rfl | ⟨items, rfl, ⟨r, inItems, reference⟩, -⟩
  · rfl
  · exact absurd (Document.mem_referencesAt_of_reference here reference) (noReference v)
  · rfl
  · exact absurd (Document.mem_referencesAt_of_array here inItems reference) (noReference r)

/-- A ready document is resolved alike by lookups that agree on its references and find neither null,
nor truth values, nor objects. -/
theorem updatePath_resolve_congr_of_ready {f g : Json → Option Json}
    (ready : doc.ReadyAt clause.path) (same : ∀ r ∈ doc.referencesAt clause.path, f r = g r)
    (absent : ∀ item : Json, item.isReference = false → item.array? = none → f item = none ∧ g item = none) :
    doc.updatePath clause.path (Json.resolve f) = doc.updatePath clause.path (Json.resolve g) := by
  refine Document.updatePath_congr fun v here => ?_
  rcases Json.isReady_cases (ready v here) with rfl | reference | rfl | ⟨items, rfl, -, flat⟩
  · rfl
  · rw [Json.resolve_of_isReference reference, Json.resolve_of_isReference reference,
      same v (Document.mem_referencesAt_of_reference here reference)]
  · rfl
  · refine Json.resolve_array_congr fun item inItems => ?_
    cases reference : item.isReference with
    | true => exact same item (Document.mem_referencesAt_of_array here inItems reference)
    | false =>
        obtain ⟨noF, noG⟩ := absent item reference (flat item inItems)
        rw [noF, noG]

theorem apply_of_isEmpty (none : (clause.references docs).isEmpty = true) (find : Lookup) :
    clause.apply find docs = .ok docs := by
  rw [apply, if_pos none]

theorem references_singleton_isEmpty_iff :
    (clause.references [doc]).isEmpty = true ↔ doc.referencesAt clause.path = [] := by
  rw [references_isEmpty_iff, List.forall_mem_singleton]

/-- A document that a clause finds ready becomes what it becomes alone. -/
theorem apply_alone [PatternReader] (apart : clause.KeyApart)
    (wellKeyed : (Json.object clause.filter).isWellKeyed = true)
    (applied : clause.apply store.lookup docs = .ok next) :
    List.Forall₂ (fun doc after =>
      (clause.references docs).isEmpty = true ∨ doc.ReadyAt clause.path →
        clause.apply store.lookup [doc] = .ok [after]) docs next := by
  by_cases none : (clause.references docs).isEmpty = true
  · rw [apply_of_isEmpty none] at applied
    obtain rfl := Except.ok.inj applied
    refine List.forall₂_same.mpr fun doc mem _ => apply_of_isEmpty ?_ _
    exact references_singleton_isEmpty_iff.mpr (references_isEmpty_iff.mp none doc mem)
  · have scalars : ∀ docs : List Document, ∀ r ∈ clause.references docs, r.isReference = true :=
      fun _ r => isReference_of_mem_references
    have distinct := (Json.isWellKeyed_object.mp wellKeyed).1
    rw [apply, if_neg none] at applied
    obtain ⟨children, found, replaced⟩ := Except.bind_eq_ok_iff.mp applied
    obtain ⟨p, compiled, -⟩ := lookup_query_eq_ok_iff.mp found
    rw [← Except.ok.inj replaced, List.forall₂_map_right_iff]
    refine List.forall₂_same.mpr fun doc mem ready => ?_
    have ready := ready.resolve_left none
    by_cases own : (clause.references [doc]).isEmpty = true
    · rw [apply_of_isEmpty own, replace_eq_updatePath, updatePath_resolve_eq_self_of_ready ready
        (references_singleton_isEmpty_iff.mp own)]
    · -- the query for the one document compiles, because that does not depend on the references
      obtain ⟨q, compiled'⟩ := (exists_compile_query_iff wellKeyed (scalars [doc])).mpr
        ((exists_compile_query_iff wellKeyed (scalars docs)).mp ⟨p, compiled⟩)
      have found' : store.lookup clause.source (clause.query (clause.references [doc])) = .ok _ :=
        lookup_query_eq_ok_iff.mpr ⟨q, compiled', rfl⟩
      rw [apply, if_neg own, found']
      refine congrArg (fun after => Except.ok [after]) ?_
      rw [replace_eq_updatePath, replace_eq_updatePath]
      refine updatePath_resolve_congr_of_ready ready (fun r here => ?_) fun item noReference flat =>
        ⟨lookup_index_eq_none apart distinct (scalars _) found' noReference flat,
          lookup_index_eq_none apart distinct (scalars _) found noReference flat⟩
      exact lookup_index_congr apart wellKeyed (scalars [doc]) (scalars docs) found' found
        (mem_references.mpr ⟨doc, List.mem_cons_self, here⟩) (mem_references.mpr ⟨doc, mem, here⟩)

end PopulateClause

/-! ### All clauses -/

/-- A document stays ready through all clauses, as far as the batch has references at all. -/
def Undisturbed (find : Lookup) : List PopulateClause → List Document → Document → Prop
  | [], _, _ => True
  | clause :: rest, docs, doc =>
    ((clause.references docs).isEmpty = true ∨ doc.ReadyAt clause.path) ∧
      ∀ next after, clause.apply find docs = .ok next → clause.apply find [doc] = .ok [after] →
        Undisturbed find rest next after

/-- **Population of a document does not depend on the rest of the batch**, where every clause finds
the document ready or finds no reference in the batch: it becomes what it becomes alone. -/
theorem populate_alone [PatternReader] {store : MemoryStore} {clauses : List PopulateClause}
    {docs data : List Document} (apart : ∀ clause ∈ clauses, clause.KeyApart)
    (wellKeyed : ∀ clause ∈ clauses, (Json.object clause.filter).isWellKeyed = true)
    (populated : populate store.lookup docs clauses = .ok data) :
    List.Forall₂ (fun doc after => Undisturbed store.lookup clauses docs doc →
      populate store.lookup [doc] clauses = .ok [after]) docs data := by
  induction clauses generalizing docs with
  | nil =>
      obtain rfl := Except.ok.inj populated
      exact List.forall₂_same.mpr fun doc _ _ => rfl
  | cons clause rest ih =>
      obtain ⟨next, applied, others⟩ := Except.bind_eq_ok_iff.mp populated
      have first := PopulateClause.apply_alone (apart clause List.mem_cons_self)
        (wellKeyed clause List.mem_cons_self) applied
      have later := ih (fun c mem => apart c (List.mem_cons_of_mem _ mem))
        (fun c mem => wellKeyed c (List.mem_cons_of_mem _ mem)) others
      refine (first.comp later).imp ?_
      rintro doc after ⟨middle, step, run⟩ ⟨ready, onwards⟩
      have alone := step ready
      rw [populate, alone]
      exact run (onwards next middle applied alone)

/-- The documents of a page become alone what they become together. -/
theorem populate_alone_authors :
    populate userStore.lookup authorPage [activeAuthors] = .ok populatedPage ∧
      List.Forall₂ (fun doc after => populate userStore.lookup [doc] [activeAuthors] = .ok [after])
        authorPage populatedPage := by
  have populated : populate userStore.lookup authorPage [activeAuthors] = .ok populatedPage := rfl
  have apart : ∀ clause ∈ [activeAuthors], clause.KeyApart := by
    rw [List.forall_mem_singleton]
    exact fun field isScore => nomatch isScore
  have ready : ∀ doc ∈ authorPage, Undisturbed userStore.lookup [activeAuthors] authorPage doc := by
    intro doc mem
    have here : ∀ doc ∈ authorPage, doc.ReadyAt activeAuthors.path := by decide +kernel
    exact ⟨.inr (here doc mem), fun _ _ _ _ => trivial⟩
  have each := populate_alone apart (by decide) populated
  rw [List.forall₂_iff_zip] at each ⊢
  exact ⟨populated, each.1, fun mem => each.2 mem (ready _ (List.of_mem_zip mem).1)⟩

/-- An embedded object is left alone by itself and lost beside a reference. -/
example :
    let embedded : Document := [("author", .object [("name", .string "x")])]
    populate userStore.lookup [embedded] [activeAuthors] = .ok [embedded] ∧
      populate userStore.lookup [embedded, [("author", .string "u1")]] [activeAuthors] =
        .ok [[("author", .null)], [("author", .object [("name", .string "Ada")])]] :=
  ⟨rfl, rfl⟩

end DocQuery
