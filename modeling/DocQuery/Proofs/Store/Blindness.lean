import DocQuery.Proofs.Document.Without
import DocQuery.Proofs.Predicate.Meaning
import DocQuery.Query.Service
import DocQuery.Store.Memory

/-!
# Queries that do not see some fields

A query whose filter, sort keys and projection stay away from some fields gives the same result on
two stores whose records agree once those fields are taken away.  The proof takes the fields away
from the rows of one store and follows the query step by step: matching, sorting, cutting and
projecting all give the same with and without them.

## Main definitions

* `Row.without`: a row without some fields of its record
* `FindQuery.Blind`: queries that stay away from some fields
* `FindQuery.Blind.find_congr`, `FindQuery.Blind.count_congr`
-/

namespace DocQuery

variable {names : List String}

/-! ### Matching -/

theorem evaluateAll_congr {parts : List Predicate} {doc doc' : Document}
    (same : ∀ p ∈ parts, ∀ score, p.evaluate doc score = p.evaluate doc' score) (score : Option Binary64) :
    evaluateAll parts doc score = evaluateAll parts doc' score := by
  induction parts generalizing score with
  | nil => rfl
  | cons p rest ih =>
      rw [evaluateAll, evaluateAll, same p List.mem_cons_self]
      rcases p.evaluate doc' score with ⟨_ | _, score'⟩
      · rfl
      · exact ih (fun q mem => same q (List.mem_cons_of_mem _ mem)) score'

/-- A filter on other fields does not see the named ones. -/
theorem Predicate.evaluate_without [PatternReader] {filter : Document} {fields : List String}
    {p : Predicate} (compiled : compile filter fields = .ok p)
    (visible : ∀ member ∈ filter, isDollarKey member.1 = false ∧ Path.root member.1 ∉ names)
    (doc : Document) (score : Option Binary64) :
    p.evaluate (doc.without names) score = p.evaluate doc score := by
  obtain ⟨parts, h, rfl⟩ := compile_ok_iff.mp compiled
  refine evaluateAll_congr (fun part mem score => ?_) score
  obtain ⟨member, inFilter, compiledPart⟩ := (compileClauses_ok_iff.mp h).exists_of_mem_right mem
  obtain ⟨path, seen⟩ := visible _ inFilter
  rw [compileClause_path path] at compiledPart
  have shape : ∃ test, part = .field member.1 test := by
    split at compiledPart
    · obtain ⟨tests, _, rfl⟩ := Except.map_eq_ok_iff.mp compiledPart
      exact ⟨_, rfl⟩
    · exact ⟨_, (Except.ok.inj compiledPart).symm⟩
  obtain ⟨test, rfl⟩ := shape
  rw [evaluate, evaluate, Document.lookup_without seen]

/-! ### Sorting and cutting -/

section Rows

variable {keys : List SortKey} {F : Row → Row}

theorem map_insertFromEnd (same : ∀ a b, Row.order keys (F a) (F b) = Row.order keys a b) (row : Row)
    (rows : List Row) :
    (insertFromEnd keys row rows).map F = insertFromEnd keys (F row) (rows.map F) := by
  induction rows with
  | nil => rfl
  | cons last before ih =>
      rw [List.map_cons, insertFromEnd, insertFromEnd, same]
      split
      · rw [List.map_cons, ih]
      · rfl

/-- Sorting sees no more of the rows than their order. -/
theorem map_sortRows (same : ∀ a b, Row.order keys (F a) (F b) = Row.order keys a b)
    (rows : List Row) :
    (sortRows keys rows).map F = sortRows keys (rows.map F) := by
  suffices general : ∀ sorted : List Row,
      (rows.foldl (fun sorted row => insertFromEnd keys row sorted) sorted).map F =
        (rows.map F).foldl (fun sorted row => insertFromEnd keys row sorted) (sorted.map F) by
    rw [sortRows, sortRows, List.map_reverse, general []]
    rfl
  induction rows with
  | nil => exact fun sorted => rfl
  | cons row rest ih =>
      intro sorted
      rw [List.foldl_cons, List.map_cons, List.foldl_cons, ih, map_insertFromEnd same]

theorem FindQuery.map_window {α β : Type} (q : FindQuery) (f : α → β) (rows : List α) :
    (q.window rows).map f = q.window (rows.map f) := by
  unfold window
  cases q.limit <;> simp [List.map_take, List.map_drop]

/-- A row without some fields of its record. -/
def Row.without (names : List String) (row : Row) : Row := ⟨row.doc.without names, row.score⟩

theorem Row.order_without
    (visible : ∀ path direction, .field path direction ∈ keys → Path.root path ∉ names) (a b : Row) :
    Row.order keys (a.without names) (b.without names) = Row.order keys a b := by
  induction keys with
  | nil => rfl
  | cons key rest ih =>
      have later := ih fun path direction mem =>
        visible path direction (List.mem_cons_of_mem _ mem)
      rw [order, order, later]
      cases key with
      | textScore => rfl
      | field path direction =>
          have seen := visible path direction List.mem_cons_self
          have value : ∀ row : Row, (row.without names).sortValue path = row.sortValue path := by
            intro row
            rw [sortValue, sortValue, without, Document.getPath?_without seen]
          rw [keyOrder, keyOrder, value, value]

end Rows

/-! ### Queries -/

/-- A query stays away from some fields. -/
structure FindQuery.Blind (names : List String) (q : FindQuery) : Prop where
  filter : ∀ member ∈ q.filter, isDollarKey member.1 = false ∧ Path.root member.1 ∉ names
  sort : ∀ path direction, .field path direction ∈ q.sort → Path.root path ∉ names
  projection : q.projection.Blind names
  populate : q.populate = []

namespace FindQuery.Blind

variable {q : FindQuery} {c : Collection} {store store' : MemoryStore} {p : Predicate}

theorem rowOf_without [PatternReader] (blind : q.Blind names)
    (compiled : Predicate.compile q.filter c.textFields = .ok p) (row : Row) :
    (MemoryStore.rowOf p row).map (Row.without names) = MemoryStore.rowOf p (row.without names) := by
  rw [MemoryStore.rowOf, MemoryStore.rowOf, Row.without,
    Predicate.evaluate_without compiled blind.filter row.doc row.score]
  rcases p.evaluate row.doc row.score with ⟨_ | _, score⟩ <;> rfl

theorem projected_without (blind : q.Blind names) (row : Row) :
    MemoryStore.projected q.projection (row.without names) =
      MemoryStore.projected q.projection row := by
  rw [MemoryStore.projected, MemoryStore.projected, Document.project, Document.project, Row.without,
    blind.projection row.doc]

/-- What a blind query finds can be read off the records without the named fields. -/
theorem search_eq [PatternReader] (blind : q.Blind names)
    (compiled : Predicate.compile q.filter c.textFields = .ok p) :
    store.search c q = .ok ((q.window (sortRows q.sort
      ((((store.docs c.name).map (Document.without names)).map Row.plain).filterMap
        (MemoryStore.rowOf p)))).map (MemoryStore.projected q.projection)) := by
  -- taking fields away goes through the steps of the query from the records outwards
  have rows : ((store.rows c.name).filterMap (MemoryStore.rowOf p)).map (Row.without names) =
      (((store.docs c.name).map (Document.without names)).map Row.plain).filterMap
        (MemoryStore.rowOf p) := by
    rw [MemoryStore.rows, List.map_filterMap]
    simp only [blind.rowOf_without compiled, List.filterMap_map, List.map_map]
    rfl
  rw [MemoryStore.search, MemoryStore.select, compiled, ← rows,
    ← map_sortRows (Row.order_without blind.sort), ← q.map_window, List.map_map]
  exact congrArg Except.ok (List.map_congr_left fun row _ => (blind.projected_without row).symm)

theorem find_congr [PatternReader] (blind : q.Blind names)
    (agree : (store.docs c.name).map (Document.without names) =
      (store'.docs c.name).map (Document.without names)) : store.find c q = store'.find c q := by
  have searched : store.search c q = store'.search c q := by
    cases compiled : Predicate.compile q.filter c.textFields with
    | error e => rw [MemoryStore.search, MemoryStore.search, MemoryStore.select, MemoryStore.select,
        compiled]; rfl
    | ok p => rw [blind.search_eq compiled, blind.search_eq compiled, agree]
  rw [MemoryStore.find, MemoryStore.find, searched, blind.populate]
  rfl

theorem count_congr [PatternReader] (blind : q.Blind names)
    (agree : (store.docs c.name).map (Document.without names) =
      (store'.docs c.name).map (Document.without names)) :
    store.count c q.filter = store'.count c q.filter := by
  cases compiled : Predicate.compile q.filter c.textFields with
  | error e => rw [MemoryStore.count, MemoryStore.count, compiled]; rfl
  | ok p =>
      have counted : ∀ docs : List Document, (docs.filter p.matchesDocument).length =
          ((docs.map (Document.without names)).filter p.matchesDocument).length := by
        intro docs
        rw [List.filter_map, List.length_map]
        congr 2
        funext doc
        rw [Function.comp_apply, Predicate.matchesDocument, Predicate.matchesDocument,
          Predicate.evaluate_without compiled blind.filter]
      rw [MemoryStore.count, MemoryStore.count, compiled]
      exact congrArg Except.ok (by rw [counted, agree, ← counted])

end FindQuery.Blind

end DocQuery
