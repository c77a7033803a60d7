import DocQuery.Proofs.Predicate.Meaning
import DocQuery.Query.Service
import DocQuery.Store.Memory

/-!
# Where the records of an answer come from

A successful query returns one record for each row that it selected, and every selected row holds
a stored record that matches the filter.  Sorting, the window, the projection and the references
change the order, the number and the looks of the records; none of them brings in a record of its
own.

## Main definitions

* `MemoryStore.Originals`: the stored records that the records of an answer were made from
* `MemoryStore.exists_originals`: every answer has them
* `Service.planOf`, `Service.find_of_execute`: an answered request, as a query to the store
-/

namespace DocQuery

/-! ### Sorting and cutting -/

section Rows

variable {keys : List SortKey}

theorem insertFromEnd_perm (row : Row) (rows : List Row) :
    (insertFromEnd keys row rows).Perm (row :: rows) := by
  induction rows with
  | nil => exact .refl _
  | cons last before ih =>
      unfold insertFromEnd
      split
      · exact (ih.cons last).trans (.swap row last before)
      · exact .refl _

theorem sortRows_perm (keys : List SortKey) (rows : List Row) : (sortRows keys rows).Perm rows := by
  suffices general : ∀ sorted : List Row,
      (rows.foldl (fun sorted row => insertFromEnd keys row sorted) sorted).Perm (rows ++ sorted) by
    have sorted := general []
    rw [List.append_nil] at sorted
    exact (List.reverse_perm _).trans sorted
  induction rows with
  | nil => exact fun sorted => .refl _
  | cons row rest ih =>
      intro sorted
      refine (ih _).trans ?_
      exact ((insertFromEnd_perm row sorted).append_left rest).trans List.perm_middle

theorem FindQuery.window_sublist_drop {α : Type} (q : FindQuery) (rows : List α) :
    (q.window rows).Sublist (rows.drop (q.skip.getD 0)) := by
  unfold window
  cases q.limit with
  | none => exact .refl _
  | some n => exact List.take_sublist _ _

theorem FindQuery.window_sublist {α : Type} (q : FindQuery) (rows : List α) :
    (q.window rows).Sublist rows :=
  (q.window_sublist_drop rows).trans (List.drop_sublist _ _)

end Rows

/-! ### Populating -/

section Populate

variable {find : Lookup} {docs data : List Document}

theorem PopulateClause.length_apply {clause : PopulateClause}
    (h : clause.apply find docs = .ok data) : data.length = docs.length := by
  unfold apply at h
  dsimp only at h
  split at h
  · rw [← Except.ok.inj h]
  · obtain ⟨children, _, populated⟩ := Except.bind_eq_ok_iff.mp h
    rw [← Except.ok.inj populated, List.length_map]

/-- References are replaced record by record: no record is lost and none is added. -/
theorem length_populate {clauses : List PopulateClause} (h : populate find docs clauses = .ok data) :
    data.length = docs.length := by
  induction clauses generalizing docs with
  | nil => rw [← Except.ok.inj h]
  | cons clause rest ih =>
      obtain ⟨next, first, others⟩ := Except.bind_eq_ok_iff.mp h
      rw [ih others, PopulateClause.length_apply first]

end Populate

/-! ### Finding -/

namespace MemoryStore

variable {store : MemoryStore} {c : Collection} {q : FindQuery} {rows : List Row}
  {data : List Document}

theorem rowOf_eq_some {p : Predicate} {row out : Row} (h : rowOf p row = some out) :
    out.doc = row.doc ∧ p.matchesDocument row.doc = true := by
  unfold rowOf at h
  rw [Predicate.matchesDocument, p.evaluate_fst row.doc none row.score]
  rcases found : p.evaluate row.doc row.score with ⟨_ | _, score⟩ <;> rw [found] at h
  · cases h
  · exact ⟨(Option.some.inj h) ▸ rfl, rfl⟩

/-- Every selected row holds a stored record that matches the filter. -/
theorem select_ok [PatternReader] (h : store.select c q = .ok rows) :
    ∃ p, Predicate.compile q.filter c.textFields = .ok p ∧
      ∀ row ∈ rows, row.doc ∈ store.docs c.name ∧ p.matchesDocument row.doc = true := by
  obtain ⟨p, compiled, selected⟩ := Except.bind_eq_ok_iff.mp h
  refine ⟨p, compiled, fun row mem => ?_⟩
  rw [← Except.ok.inj selected] at mem
  have found := (sortRows_perm q.sort _).subset ((q.window_sublist _).subset mem)
  obtain ⟨stored, inStore, fromRow⟩ := List.mem_filterMap.mp found
  obtain ⟨doc, inDocs, rfl⟩ := List.mem_map.mp inStore
  obtain ⟨same, matched⟩ := rowOf_eq_some fromRow
  rw [same]
  exact ⟨inDocs, matched⟩

/-- The stored records that the records of an answer were made from, in the order of the answer: the
rows that the query selects. -/
structure Originals [PatternReader] (store : MemoryStore) (c : Collection) (q : FindQuery)
    (rows : List Row) (data : List Document) : Prop where
  selected : store.select c q = .ok rows
  stored : ∀ row ∈ rows, row.doc ∈ store.docs c.name
  sameLength : data.length = rows.length
  shown : populate store.lookup (rows.map (projected q.projection)) q.populate = .ok data

/-- Every answer has its originals, and all of them match the filter of the query. -/
theorem exists_originals [PatternReader] (found : store.find c q = .ok data) :
    ∃ rows, store.Originals c q rows data ∧ ∃ p, Predicate.compile q.filter c.textFields = .ok p ∧
      ∀ row ∈ rows, p.matchesDocument row.doc = true := by
  obtain ⟨docs, searched, shown⟩ := Except.bind_eq_ok_iff.mp found
  obtain ⟨rows, selected, rfl⟩ := Except.map_eq_ok_iff.mp searched
  obtain ⟨p, compiled, each⟩ := select_ok selected
  refine ⟨rows, ⟨selected, fun row mem => (each row mem).1, ?_, shown⟩, p, compiled,
    fun row mem => (each row mem).2⟩
  rw [length_populate shown, List.length_map]

end MemoryStore

/-! ### Requests -/

namespace Service

variable {service : Service} {store : RecordStore} {ref : CollectionRef} {request : Request}
  {c : Collection} {response : Response}

/-- A service that knows no collection by name and has the standard bounds on its pages. -/
def bare : Service := ⟨.empty, .standard⟩

/-- The plan of a request to a collection. -/
def planOf [PatternReader] (service : Service) (c : Collection) (request : Request) : Plan :=
  .ofNormal service.registry c (request.normalize c service.settings)

theorem execute_eq [PatternReader] (resolved : service.registry.resolve ref = .ok c) :
    service.execute store ref request = (service.planOf c request).run store store := by
  rw [execute, plan, resolved]
  rfl

end Service

theorem Plan.asked_eq_ok_iff {α : Type} {result : Except StoreError α} {v : α} :
    Plan.asked result = .ok v ↔ result = .ok v := by
  cases result <;> simp [Plan.asked]

/-- A response is made of what the store finds for the query of the plan. -/
theorem Plan.exists_respond_of_run {plan : Plan} {found counted : RecordStore} {response : Response}
    (h : plan.run found counted = .ok response) :
    ∃ data total, found.find plan.collection plan.query = .ok data ∧
      plan.respond data total = response := by
  obtain ⟨data, searched, rest⟩ := Except.bind_eq_ok_iff.mp h
  refine ⟨data, ?_⟩
  cases page : plan.request.pagination with
  | none =>
      simp only [page] at rest
      exact ⟨_, asked_eq_ok_iff.mp searched, Except.ok.inj rest⟩
  | some p =>
      simp only [page] at rest
      obtain ⟨total, _, responded⟩ := Except.bind_eq_ok_iff.mp rest
      exact ⟨total, asked_eq_ok_iff.mp searched, Except.ok.inj responded⟩

theorem Plan.run_ok {plan : Plan} {found counted : RecordStore} {response : Response}
    (h : plan.run found counted = .ok response) :
    found.find plan.collection plan.query = .ok response.data := by
  obtain ⟨data, total, searched, rfl⟩ := exists_respond_of_run h
  exact searched

/-- A response warns of all that was left out. -/
theorem Plan.warnings_of_run {plan : Plan} {found counted : RecordStore} {response : Response}
    (h : plan.run found counted = .ok response) :
    response.warnings = plan.diagnostics.map Diagnostic.message := by
  obtain ⟨data, total, -, rfl⟩ := exists_respond_of_run h
  rfl

/-- The data of an answered request are what the store finds for its query. -/
theorem Service.find_of_execute [PatternReader] {service : Service} {store : RecordStore}
    {ref : CollectionRef} {request : Request} {c : Collection} {response : Response}
    (resolved : service.registry.resolve ref = .ok c)
    (answered : service.execute store ref request = .ok response) :
    store.find c (service.planOf c request).query = .ok response.data :=
  Plan.run_ok (execute_eq resolved ▸ answered)

end DocQuery
