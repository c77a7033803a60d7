import DocQuery.Proofs.Filter.Fusion
import DocQuery.Proofs.Predicate.TextFree
import DocQuery.Proofs.Store.Loaded

/-!
# Pipelines that come to one query

A pipeline of filters, then at most one each of sort keys, a number to skip, a number to keep and a
count, can be run in two ways.  The store in memory applies its stages to the rows one after the
other; a database fuses it into one query.  Both give the same records in the same order, and the
count is the number of the records that the query finds.

The filters carry the argument.  Applied in turn they keep the rows whose record matches each of
them (`applyStages_keep`), and a record matches the fused filter exactly if it matches each of them
(`Predicate.matchesDocument_fuseFilters`).  A text search would also leave a relevance on the row,
and the two ways of running could then leave different ones; filters that search no text leave the
row as it is, and so does the fused one.

## Main definitions

* `QueryPipeline`: a pipeline that comes to one query, kind of stage by kind of stage
* `aggregate_eq_find`: running the stages and running the query
-/

namespace DocQuery

variable {fields : List String} {filter : Document} {filters : List Document} {p : Predicate}
  {parts : List Predicate} {doc : Document} {rows : List Row} {row : Row}

/-! ### The fused filter -/

/-- Clauses that compile and search no text are closed under `$and`. -/
theorem Clause.conjunctive_textFree [PatternReader] : Conjunctive fun member =>
    Compiles fields member ∧ clauseSearchesText member.1 member.2 = false := by
  intro items nonempty
  have search : clauseSearchesText "$and" (.array items) = false ↔
      ∀ item ∈ items, itemSearchesText item = false := by
    rw [← itemsSearchText_eq_false_iff, clauseSearchesText]
    simp [Operator.logicalKeys]
  dsimp only
  rw [search, conjunctive_compiles items nonempty, ← forall₂_and]
  refine forall₂_congr fun item _ => ?_
  constructor
  · rintro ⟨⟨members, rfl, compile⟩, noText⟩
    rw [itemSearchesText, searchesText_eq_false_iff] at noText
    exact ⟨members, rfl, fun member mem => ⟨compile member mem, noText member mem⟩⟩
  · rintro ⟨members, rfl, each⟩
    refine ⟨⟨members, rfl, fun member mem => (each member mem).1⟩, ?_⟩
    rw [itemSearchesText, searchesText_eq_false_iff]
    exact fun member mem => (each member mem).2

section Fused

variable [PatternReader]
    (compiled : List.Forall₂ (fun filter p => Predicate.compile filter fields = .ok p)
  filters parts)

include compiled

theorem compiles_of_compiled : ∀ filter ∈ filters, ∀ member ∈ filter,
    Clause.Compiles fields member := by
  intro filter inFilters
  have compiles := List.exists_forall₂_iff.mp ⟨parts, compiled⟩ filter inFilters
  exact Predicate.exists_compile_iff.mp compiles

/-- In filters that compile, every `$and` is a list with members. -/
theorem lists_of_compiled : ∀ filter ∈ filters, ∀ value, ("$and", value) ∈ filter →
    ∃ items, value = .array items ∧ items ≠ [] := by
  intro filter inFilters value mem
  exact Clause.exists_items_of_compiles_and (compiles_of_compiled compiled filter inFilters _ mem)

/-- **The fused filter compiles and searches no text**, if that holds of each of the filters. -/
theorem exists_compile_fuseFilters (noText : ∀ filter ∈ filters, searchesText filter = false) :
    (∃ p, Predicate.compile (Sql.fuseFilters filters) fields = .ok p) ∧
      searchesText (Sql.fuseFilters filters) = false := by
  have each := (forall_mem_fuseFilters Clause.conjunctive_textFree
    (lists_of_compiled compiled)).mpr fun filter inFilters member mem =>
      ⟨compiles_of_compiled compiled filter inFilters member mem,
        searchesText_eq_false_iff.mp (noText filter inFilters) member mem⟩
  exact ⟨Predicate.exists_compile_iff.mpr fun member mem => (each member mem).1,
    searchesText_eq_false_iff.mpr fun member mem => (each member mem).2⟩

theorem all_matchesDocument_iff : parts.all (·.matchesDocument doc) = true ↔
    ∀ filter ∈ filters, ∀ member ∈ filter, Clause.Accepts fields doc member := by
  have functional : ∀ filter p q, Predicate.compile filter fields = .ok p →
      Predicate.compile filter fields = .ok q → p = q := fun filter p q => Except.ok_unique
  rw [compiled.all_iff functional]
  refine forall₂_congr fun filter inFilters => ?_
  obtain ⟨p, compiles⟩ := List.exists_forall₂_iff.mp ⟨parts, compiled⟩ filter inFilters
  rw [← Predicate.matchesDocument_iff compiles]
  constructor
  · rintro ⟨q, same, matched⟩
    rwa [Except.ok_unique compiles same]
  · exact fun matched => ⟨p, compiles, matched⟩

/-- **A record matches the fused filter exactly if it matches each of the filters.** -/
theorem Predicate.matchesDocument_fuseFilters
    (fused : Predicate.compile (Sql.fuseFilters filters) fields = .ok p) :
    p.matchesDocument doc = parts.all (·.matchesDocument doc) := by
  rw [Bool.eq_iff_iff, Predicate.matchesDocument_iff fused, all_matchesDocument_iff compiled,
    forall_mem_fuseFilters Clause.conjunctive_accepts (lists_of_compiled compiled)]

end Fused

namespace MemoryStore

/-! ### Filters as stages -/

/-- A predicate that leaves the relevance keeps the rows whose record matches it. -/
theorem filterMap_rowOf (keeps : p.KeepsScore) (rows : List Row) :
    rows.filterMap (rowOf p) = rows.filter fun row => p.matchesDocument row.doc := by
  have each (row : Row) : rowOf p row = if p.matchesDocument row.doc then some row else none := by
    rw [rowOf, Predicate.matchesDocument, ← p.evaluate_fst row.doc row.score none]
    have same := keeps row.doc row.score
    rcases result : p.evaluate row.doc row.score with ⟨_ | _, after⟩ <;> rw [result] at same
    · rfl
    · obtain rfl : after = row.score := same
      rfl
  rw [← List.filterMap_eq_filter]
  exact List.filterMap_congr fun row _ => by rw [each row, Option.guard_apply]

theorem applyStages_append [PatternReader] (first second : List Stage) :
    applyStages fields rows (first ++ second) =
      (applyStages fields rows first).bind fun rows => applyStages fields rows second := by
  induction first generalizing rows with
  | nil => rfl
  | cons stage rest ih =>
      rw [List.cons_append, applyStages, applyStages]
      cases applyStage fields rows stage with
      | error e => rfl
      | ok next => exact ih

/-- Filters applied in turn keep the rows whose record matches each of them. -/
theorem applyStages_keep [PatternReader] (compiled : List.Forall₂ (fun filter p =>
      Predicate.compile filter fields = .ok p) filters parts)
    (keeps : ∀ part ∈ parts, part.KeepsScore) (rows : List Row) :
    applyStages fields rows (filters.map .keep) =
      .ok (rows.filter fun row => parts.all (·.matchesDocument row.doc)) := by
  induction compiled generalizing rows with
  | nil => simp [applyStages]
  | @cons filter part filters parts head _ ih =>
      rw [List.forall_mem_cons] at keeps
      have first : applyStage fields rows (.keep filter) =
          .ok (rows.filter fun row => part.matchesDocument row.doc) := by
        rw [applyStage, head, ← filterMap_rowOf keeps.1]
        rfl
      rw [List.map_cons, applyStages, first]
      refine (ih keeps.2 _).trans ?_
      simp only [List.filter_filter, List.all_cons, Bool.and_comm]

end MemoryStore

/-! ### The stages behind the filters -/

/-- A pipeline that comes to one query: filters, then at most one stage of each further kind. -/
structure QueryPipeline where
  filters : List Document
  sort : Option (List SortKey)
  skip : Option Nat
  limit : Option Nat
  /-- The field for the number of rows, if the rows are counted. -/
  countField : Option String

namespace QueryPipeline

variable {form : QueryPipeline}

/-- The stages that sort the rows and cut out a window. -/
def windowStages (form : QueryPipeline) : List Stage :=
  (form.sort.map .sort).toList ++ (form.skip.map .skip).toList ++ (form.limit.map .limit).toList

/-- The stages, in their order. -/
def stages (form : QueryPipeline) : List Stage :=
  form.filters.map .keep ++ (form.windowStages ++ (form.countField.map .count).toList)

/-- The query that the stages come to, the count aside. -/
def query (form : QueryPipeline) : FindQuery :=
  { FindQuery.matching (Sql.fuseFilters form.filters) with
    sort := form.sort.getD [], skip := form.skip, limit := form.limit }

/-- The records that are answered with where the query finds the given ones. -/
def answer (form : QueryPipeline) (found : List Document) : List Document :=
  match form.countField with
  | some field => [[(field, .ofNat found.length)]]
  | none => found

theorem leadingFilters_keep (stages : List Stage) :
    Sql.leadingFilters (filters.map .keep ++ stages) =
      (filters ++ (Sql.leadingFilters stages).1, (Sql.leadingFilters stages).2) := by
  induction filters with
  | nil => rfl
  | cons filter rest ih => rw [List.map_cons, List.cons_append, Sql.leadingFilters, ih]; rfl

/-- **Nothing is left over** of a pipeline that comes to one query. -/
theorem shapeOf_stages (form : QueryPipeline) :
    Sql.shapeOf form.stages = ⟨form.query, form.countField, []⟩ := by
  obtain ⟨filters, sort, skip, limit, countField⟩ := form
  have behind : Sql.leadingFilters
      ((⟨filters, sort, skip, limit, countField⟩ : QueryPipeline).windowStages ++
        (countField.map .count).toList) =
      ([], (⟨filters, sort, skip, limit, countField⟩ : QueryPipeline).windowStages ++
        (countField.map .count).toList) := by
    cases sort <;> cases skip <;> cases limit <;> cases countField <;> rfl
  rw [Sql.shapeOf, stages, leadingFilters_keep, behind, List.append_nil]
  cases sort <;> cases skip <;> cases limit <;> cases countField <;> rfl

/-- Sorting and cutting in turn is what the query does with the rows. -/
theorem applyStages_windowStages [PatternReader] (form : QueryPipeline) (rows : List Row) :
    MemoryStore.applyStages fields rows form.windowStages =
      .ok (form.query.window (sortRows form.query.sort rows)) := by
  obtain ⟨filters, sort, skip, limit, countField⟩ := form
  cases sort <;> cases skip <;> cases limit <;>
    simp [windowStages, query, FindQuery.window, MemoryStore.applyStages, MemoryStore.applyStage,
      sortRows_nil, bind, Except.bind]

theorem applyStages_count [PatternReader] (form : QueryPipeline) (rows : List Row) :
    (MemoryStore.applyStages fields rows (form.countField.map .count).toList).map (·.map Row.doc) =
      .ok (form.answer (rows.map Row.doc)) := by
  rw [answer]
  cases form.countField with
  | none => rfl
  | some field => rw [List.length_map]; rfl

end QueryPipeline

/-- **A pipeline that comes to one query answers with what the query finds**, in the same order, or
with the number of it: nothing is left over of its stages, the query succeeds, and the rows that the
stages leave one after the other are those that the query selects. -/
theorem aggregate_eq_find [PatternReader] {store : MemoryStore} {c : Collection}
    {pipeline : List Document}
    {form : QueryPipeline} (parsed : Stage.ofPipeline pipeline = .ok form.stages)
    (noText : ∀ filter ∈ form.filters, searchesText filter = false)
    (compiles : ∀ filter ∈ form.filters, ∃ p, Predicate.compile filter c.textFields = .ok p) :
    ∃ q, Sql.shapeOf form.stages = ⟨q, form.countField, []⟩ ∧
      ∃ found, store.find c q = .ok found ∧
        store.aggregate c pipeline = .ok (form.answer found) := by
  refine ⟨form.query, form.shapeOf_stages, ?_⟩
  obtain ⟨parts, compiled⟩ := List.exists_forall₂_iff.mpr compiles
  obtain ⟨⟨p, fused⟩, fusedNoText⟩ := exists_compile_fuseFilters compiled noText
  have kept : (store.rows c.name).filterMap (MemoryStore.rowOf p) =
      (store.rows c.name).filter fun row => parts.all (·.matchesDocument row.doc) := by
    rw [MemoryStore.filterMap_rowOf (Predicate.keepsScore_of_compile fused fusedNoText)]
    simp only [Predicate.matchesDocument_fuseFilters compiled fused]
  have keeps : ∀ part ∈ parts, part.KeepsScore := by
    intro part mem
    obtain ⟨filter, inFilters, compiles⟩ := compiled.exists_of_mem_right mem
    exact Predicate.keepsScore_of_compile compiles (noText filter inFilters)
  -- the rows that both ways of running end with
  let rows := form.query.window (sortRows form.query.sort
    ((store.rows c.name).filter fun row => parts.all (·.matchesDocument row.doc)))
  refine ⟨rows.map Row.doc, ?_, ?_⟩
  · have selected : store.select c form.query = .ok rows := by
      have compiled : Predicate.compile form.query.filter c.textFields = .ok p := fused
      rw [MemoryStore.select, compiled]
      exact congrArg (fun kept => Except.ok (form.query.window (sortRows form.query.sort kept)))
        kept
    rw [MemoryStore.find, MemoryStore.search, selected]
    rfl
  · have staged : MemoryStore.applyStages c.textFields (store.rows c.name) form.stages =
        MemoryStore.applyStages c.textFields rows (form.countField.map .count).toList := by
      rw [QueryPipeline.stages, MemoryStore.applyStages_append,
        MemoryStore.applyStages_keep compiled keeps, Except.bind, MemoryStore.applyStages_append,
        form.applyStages_windowStages]
      rfl
    have answered : store.aggregate c pipeline =
        (MemoryStore.applyStages c.textFields (store.rows c.name) form.stages).map
          (·.map Row.doc) := by
      rw [MemoryStore.aggregate, parsed]
      rfl
    rw [answered, staged, form.applyStages_count]

/-- Two filters for one field, the first with an `$and` of its own, then an order and a window: the
second filter joins the `$and`, and the one query finds what the stages leave. -/
theorem aggregate_eq_find_people :
    let adult : Document := [("age", .object [("$gte", .ofNat 18)])]
    let active : Document := [("status", .string "active"), ("$and", .array [.object adult])]
    let named : Document := [("status", .object [("$ne", .string "closed")]),
      ("name", .string "Ada")]
    let pipeline : List Document := [[("$match", .object active)], [("$match", .object named)],
      [("$sort", .object [("age", .ofNat 1)])], [("$limit", .ofNat 1)]]
    let form : QueryPipeline :=
      ⟨[active, named], some [.field "age" .ascending], none, some 1, none⟩
    let person (age : Nat) (status : String) : Document :=
      [("name", .string "Ada"), ("age", .ofNat age), ("status", .string status)]
    let store : MemoryStore := ⟨[("people", [person 40 "active", person 30 "active",
      person 20 "closed", person 10 "active"])], 0⟩
    Stage.ofPipeline pipeline = .ok form.stages ∧
      (∀ filter ∈ form.filters, searchesText filter = false) ∧
      (∀ filter ∈ form.filters, ∃ p, Predicate.compile filter [] = .ok p) ∧
      Sql.shapeOf form.stages = ⟨form.query, none, []⟩ ∧
      form.query.filter = [("status", .string "active"),
        ("$and", .array [.object adult, .object named])] ∧
      store.find (Collection.named "people") form.query = .ok [person 30 "active"] ∧
      store.aggregate (Collection.named "people") pipeline = .ok [person 30 "active"] := by
  intro adult active named pipeline form person store
  have parsed : Stage.ofPipeline pipeline = .ok form.stages := rfl
  have noText : ∀ filter ∈ form.filters, searchesText filter = false := by decide
  have compiles : ∀ filter ∈ form.filters, ∃ p, Predicate.compile filter [] = .ok p := by
    intro filter mem
    exact Except.exists_eq_ok_of_isOk
      ((by decide +kernel : ∀ filter ∈ form.filters, (Predicate.compile filter []).isOk = true)
        filter mem)
  have foundOne : store.find (Collection.named "people") form.query =
      .ok [person 30 "active"] := rfl
  obtain ⟨q, shape, found, finds, aggregates⟩ :=
    @aggregate_eq_find _ store (Collection.named "people") pipeline form parsed noText compiles
  obtain rfl : form.query = q :=
    congrArg Sql.PipelineShape.query (form.shapeOf_stages.symm.trans shape)
  obtain rfl := Except.ok_unique foundOne finds
  exact ⟨parsed, noText, compiles, shape, rfl, foundOne, aggregates⟩

end DocQuery
