import DocQuery.Proofs.Query.HiddenPaths
import Mathlib.Algebra.Order.Floor.Div

/-!
# Pages of an answer

A request for a page asks the store twice, for the records of the page and for the number of all
matches.  Both answers come from the records that the same request without a page returns: the
page is a slice of them, the number is how many they are, and all pages one after the other give
them back.

A store counts with 64 bits, and so is the number of records to skip, which stops at the greatest
such number where the product of page and size exceeds it.  An answer that can be counted ends
before that place, so the page is empty there as it should be.

## Main definitions

* `pageSlice`: the part of a list that a page shows
* `Request.onPage`: a request for a page by number and size
* `MemoryStore.find_window`, `MemoryStore.count_of_find`: what the store is asked for
* `pages_partition_answer`
-/

namespace DocQuery

/-! ### Slices of a list -/

section Slices

variable {α : Type} {rows : List α} {page limit : Nat}

/-- The part of a list on a page of a given size: the elements from the first place of the page up
to its last one or the end of the list. -/
def pageSlice (rows : List α) (page limit : Nat) : List α :=
  rows.extract ((page - 1) * limit) (min (page * limit) rows.length)

theorem pageSlice_succ (rows : List α) (before limit : Nat) :
    pageSlice rows (before + 1) limit = (rows.drop (before * limit)).take limit := by
  have ends : (before + 1) * limit = before * limit + limit := Nat.succ_mul before limit
  rw [pageSlice, Nat.add_sub_cancel, List.extract_eq_take_drop, ends, List.take_eq_take_iff,
    List.length_drop]
  omega

/-- Skipping no further than the greatest count cuts the same page out of a list that can be
counted. -/
theorem take_drop_eq_pageSlice (countable : rows.length ≤ countLimit) (first : 1 ≤ page) :
    (rows.drop (min ((page - 1) * limit) countLimit)).take limit = pageSlice rows page limit := by
  obtain ⟨before, rfl⟩ := Nat.exists_eq_add_of_le' first
  rw [pageSlice_succ, Nat.add_sub_cancel]
  by_cases reached : before * limit ≤ countLimit
  · rw [Nat.min_eq_left reached]
  · -- both places are past the end of the list
    have beyond : rows.length ≤ before * limit := by omega
    rw [Nat.min_eq_right (by omega), List.drop_eq_nil_iff.mpr countable,
      List.drop_eq_nil_iff.mpr beyond]

/-- The first pages one after the other are the first elements. -/
theorem flatMap_pageSlice (rows : List α) (limit count : Nat) :
    ((List.range count).flatMap fun i => pageSlice rows (i + 1) limit) =
      rows.take (count * limit) := by
  induction count with
  | zero => simp
  | succ count ih =>
      rw [List.range_succ, List.flatMap_append, ih, List.flatMap_singleton, pageSlice_succ,
        Nat.succ_mul, List.take_add]

/-- A page shows something exactly if the list goes past the pages before it. -/
theorem pageSlice_ne_nil_iff (positive : 1 ≤ limit) :
    pageSlice rows (page + 1) limit ≠ [] ↔ page * limit < rows.length := by
  rw [pageSlice_succ, ← List.length_pos_iff, List.length_take, List.length_drop]
  omega

end Slices

/-! ### Where a page stands -/

namespace PageSummary

variable {s : PageSummary}

theorem totalPages_eq_ceilDiv (positive : 0 < s.pageSize) :
    s.totalPages = s.totalCount ⌈/⌉ s.pageSize := by
  rw [totalPages, if_neg (by omega), Nat.ceilDiv_eq_add_pred_div]

/-- A page follows exactly if there are more records than the pages so far hold. -/
theorem hasNext_iff (positive : 0 < s.pageSize) :
    s.hasNext = true ↔ s.currentPage * s.pageSize < s.totalCount := by
  rw [hasNext, decide_eq_true_eq, totalPages_eq_ceilDiv positive, ← Nat.not_le, ← Nat.not_le,
    ceilDiv_le_iff_le_mul positive, Nat.mul_comm]

end PageSummary

/-! ### What the store is asked for -/

namespace MemoryStore

variable {store : MemoryStore} {c : Collection} {q : FindQuery} {data : List Document}

theorem isSome_rowOf (p : Predicate) (doc : Document) :
    (rowOf p (Row.plain doc)).isSome = p.matchesDocument doc := by
  rw [rowOf, Predicate.matchesDocument, Row.plain]
  rcases p.evaluate doc none with ⟨_ | _, score⟩ <;> rfl

/-- As many rows are selected as records match. -/
theorem length_filterMap_rowOf (store : MemoryStore) (collection : String) (p : Predicate) :
    ((store.rows collection).filterMap (rowOf p)).length =
      ((store.docs collection).filter p.matchesDocument).length := by
  rw [rows, List.filterMap_map, List.length_filterMap_eq_countP, List.countP_eq_length_filter]
  simp only [Function.comp_apply, isSome_rowOf]

/-- A query without references and without a window finds the projected rows, sorted. -/
theorem find_whole [PatternReader] (noRefs : q.populate = []) (noSkip : q.skip = none)
    (noLimit : q.limit = none) :
    store.find c q = (Predicate.compile q.filter c.textFields).map fun p =>
      (sortRows q.sort ((store.rows c.name).filterMap (rowOf p))).map (projected q.projection) := by
  rw [find, search, select, noRefs]
  cases Predicate.compile q.filter c.textFields with
  | error e => rfl
  | ok p =>
      simp only [FindQuery.window, noSkip, noLimit]
      rfl

/-- What a query finds in a window is that window of all that it finds. -/
theorem find_window [PatternReader] (noRefs : q.populate = []) (noSkip : q.skip = none)
    (noLimit : q.limit = none) (found : store.find c q = .ok data) (skip limit : Nat) :
    store.find c { q with skip := some skip, limit := some limit } =
      .ok ((data.drop skip).take limit) := by
  rw [find_whole noRefs noSkip noLimit] at found
  obtain ⟨p, compiled, rfl⟩ := Except.map_eq_ok_iff.mp found
  rw [find, search, select, compiled, noRefs, ← List.map_drop, ← List.map_take]
  rfl

/-- The number of matches is the number of records that the query without a window finds. -/
theorem count_of_find [PatternReader] (noRefs : q.populate = []) (noSkip : q.skip = none)
    (noLimit : q.limit = none)
    (found : store.find c q = .ok data) : store.count c q.filter = .ok data.length := by
  rw [find_whole noRefs noSkip noLimit] at found
  obtain ⟨p, compiled, rfl⟩ := Except.map_eq_ok_iff.mp found
  rw [count, compiled, List.length_map, (sortRows_perm _ _).length_eq, length_filterMap_rowOf]
  rfl

end MemoryStore

/-! ### Requests for pages -/

/-- A request for a page of the results, by its number and its size. -/
def Request.onPage (request : Request) (page limit : Nat) : Request :=
  { request with pagination := some (PageRequest.numbered page limit) }

section Execute

variable {service : Service} {store : MemoryStore} {ref : CollectionRef} {c : Collection}
  {request : Request} {whole : Response} {page limit : Nat}

/-- A size within the bounds of the service is taken as it is. -/
theorem Page.ofRequest_numbered {settings : PageSettings} (first : 1 ≤ page) (positive : 1 ≤ limit)
    (within : limit ≤ max 1 settings.maxLimit) :
    Page.ofRequest (.numbered page limit) settings =
      ⟨page, limit, min ((page - 1) * limit) countLimit, none, none⟩ := by
  have size : Page.limitOf (.numbered page limit) settings = limit := by
    have given : (some limit).filter (0 < ·) = some limit := by
      simp only [Option.filter_some, decide_eq_true_eq]
      rw [if_pos (by omega)]
    rw [Page.limitOf, PageRequest.numbered, given, Option.getD_some]
    omega
  have number : max 1 page = page := by omega
  simp only [Page.ofRequest, size]
  simp only [PageRequest.numbered, Option.getD_some, number]

/-- Without a page the store is asked for the whole answer. -/
theorem window_planOf [PatternReader] (unpaged : request.pagination = none) :
    (service.planOf c request).query.skip = none ∧
      (service.planOf c request).query.limit = none := by
  constructor <;> simp [Service.planOf, Plan.ofNormal, Request.normalize, unpaged]

/-- The plan of a page differs from the plan of the whole answer in the window only. -/
theorem query_onPage [PatternReader] :
    (service.planOf c (request.onPage page limit)).query =
      { (service.planOf c request).query with
        skip := some (Page.ofRequest (.numbered page limit) service.settings).skip
        limit := some (Page.ofRequest (.numbered page limit) service.settings).limit } := rfl

/-- A plan with a page succeeds where the store finds and counts. -/
theorem Plan.run_paged {plan : Plan} {window : Page} {found counted : RecordStore}
    {data : List Document} {total : Nat} (paged : plan.request.pagination = some window)
    (finds : found.find plan.collection plan.query = .ok data)
    (counts : counted.count plan.collection plan.query.filter = .ok total) :
    plan.run found counted = .ok (plan.respond data total) := by
  rw [run, finds, paged, counts]
  rfl

/-- A request for a page succeeds where the request for everything does; it returns the slice of
the page and counts all records. -/
theorem execute_onPage [PatternReader] (resolved : service.registry.resolve ref = .ok c)
    (noExpansions : (request.normalize c service.settings).expansions = [])
    (unpaged : request.pagination = none)
    (answered : service.execute store.records ref request = .ok whole)
    (countable : whole.data.length ≤ countLimit) (first : 1 ≤ page) (positive : 1 ≤ limit)
    (within : limit ≤ max 1 service.settings.maxLimit) :
    ∃ response, service.execute store.records ref (request.onPage page limit) = .ok response ∧
      response.data = pageSlice whole.data page limit ∧
      response.summary = ⟨whole.data.length, page, limit⟩ := by
  have found := Service.find_of_execute resolved answered
  have noRefs : (service.planOf c request).query.populate = [] :=
    Plan.populate_ofNormal noExpansions
  have noSkip : (service.planOf c request).query.skip = none := (window_planOf unpaged).1
  have noLimit : (service.planOf c request).query.limit = none := (window_planOf unpaged).2
  have numbered : Page.ofRequest (.numbered page limit) service.settings =
      ⟨page, limit, min ((page - 1) * limit) countLimit, none, none⟩ :=
    Page.ofRequest_numbered first positive within
  have paged : (service.planOf c (request.onPage page limit)).request.pagination =
      some ⟨page, limit, min ((page - 1) * limit) countLimit, none, none⟩ := congrArg some numbered
  have finds : store.find c (service.planOf c (request.onPage page limit)).query =
      .ok (pageSlice whole.data page limit) := by
    rw [query_onPage, numbered, MemoryStore.find_window noRefs noSkip noLimit found,
      take_drop_eq_pageSlice countable first]
  have counts : store.count c (service.planOf c (request.onPage page limit)).query.filter =
      .ok whole.data.length := by
    rw [query_onPage]
    exact MemoryStore.count_of_find (q := (service.planOf c request).query) noRefs noSkip noLimit
      found
  refine ⟨_, (Service.execute_eq resolved).trans (Plan.run_paged paged finds counts), rfl, ?_⟩
  rw [Plan.respond, paged]

/-- **The pages of an answer partition it.**  Where a request without a page and without
expansions succeeds, so does the request for each of its pages, of any size within the bounds of
the service.  A page shows its slice of the whole answer, says how many records and pages there
are and whether the next page shows anything, and all pages one after the other are the whole
answer. -/
theorem pages_partition_answer [PatternReader] (resolved : service.registry.resolve ref = .ok c)
    (noExpansions : (request.normalize c service.settings).expansions = [])
    (unpaged : request.pagination = none)
    (answered : service.execute store.records ref request = .ok whole)
    (countable : whole.data.length ≤ countLimit) (positive : 1 ≤ limit)
    (within : limit ≤ max 1 service.settings.maxLimit) :
    ∃ pages : Nat → Response,
      (∀ page, 1 ≤ page →
        service.execute store.records ref (request.onPage page limit) = .ok (pages page) ∧
        (pages page).data =
          whole.data.extract ((page - 1) * limit) (min (page * limit) whole.data.length) ∧
        (pages page).summary.totalCount = whole.data.length ∧
        (pages page).summary.totalPages = whole.data.length ⌈/⌉ limit ∧
        ((pages page).summary.hasNext = true ↔ (pages (page + 1)).data ≠ [])) ∧
      ((List.range (whole.data.length ⌈/⌉ limit)).flatMap fun i => (pages (i + 1)).data) =
        whole.data := by
  have each : ∀ page, ∃ response, 1 ≤ page →
      service.execute store.records ref (request.onPage page limit) = .ok response ∧
      response.data = pageSlice whole.data page limit ∧
      response.summary = ⟨whole.data.length, page, limit⟩ := by
    intro page
    by_cases first : 1 ≤ page
    · obtain ⟨response, shown⟩ := execute_onPage resolved noExpansions unpaged answered countable
        first positive within
      exact ⟨response, fun _ => shown⟩
    · exact ⟨whole, fun h => absurd h first⟩
  choose pages shown using each
  refine ⟨pages, fun page first => ?_, ?_⟩
  · obtain ⟨executed, data, summary⟩ := shown page first
    have sized : 0 < (pages page).summary.pageSize := by rw [summary]; exact positive
    refine ⟨executed, data, by rw [summary], ?_, ?_⟩
    · rw [PageSummary.totalPages_eq_ceilDiv sized, summary]
    · rw [PageSummary.hasNext_iff sized, (shown (page + 1) (by omega)).2.1,
        pageSlice_ne_nil_iff positive, summary]
  · have data : ∀ i, (pages (i + 1)).data = pageSlice whole.data (i + 1) limit :=
      fun i => (shown (i + 1) (by omega)).2.1
    have enough : whole.data.length ≤ whole.data.length ⌈/⌉ limit * limit := by
      rw [Nat.mul_comm]
      exact (ceilDiv_le_iff_le_mul positive).mp le_rfl
    simp only [data]
    rw [flatMap_pageSlice, List.take_of_length_le enough]

end Execute

/-! ### Three records on two pages -/

/-- A record of a measurement. -/
def measured (id : String) (value : Nat) : Document :=
  [("_id", .string id), ("value", .ofNat value)]

/-- Of four records a filter leaves three, which a page size of two puts on two pages. -/
theorem pages_partition_answer_measured :
    let store : MemoryStore :=
      ⟨[("log", [measured "a" 3, measured "b" 9, measured "c" 1, measured "d" 7])], 0⟩
    let request : Request := { Request.empty with
      filters := [("value_gt", .ofNat 1)], sort := some (.text "value:desc") }
    ∃ whole first second,
      Service.bare.execute store.records (.definition (.named "log")) request = .ok whole ∧
      whole.data.length = 3 ∧
      Service.bare.execute store.records (.definition (.named "log")) (request.onPage 1 2) =
        .ok first ∧
      Service.bare.execute store.records (.definition (.named "log")) (request.onPage 2 2) =
        .ok second ∧
      first.summary.hasNext = true ∧ second.summary.hasNext = false ∧
      first.data ++ second.data = whole.data := by
  intro store request
  obtain ⟨whole, answered⟩ := Except.exists_eq_ok_of_isOk
    (x := Service.bare.execute store.records (.definition (.named "log")) request)
    (by decide +kernel)
  have three : (Service.bare.execute store.records (.definition (.named "log"))
      request).toOption.map (·.data.length) = some 3 := by decide +kernel
  rw [answered] at three
  have length : whole.data.length = 3 := Option.some.inj three
  have positive : 1 ≤ 2 := by decide
  obtain ⟨pages, each, together⟩ := pages_partition_answer (c := .named "log") rfl rfl rfl answered
    (by rw [length]; decide) positive (by decide)
  obtain ⟨executed, -, -, -, next⟩ := each 1 (by decide)
  obtain ⟨executed', second, -, -, next'⟩ := each 2 (by decide)
  obtain ⟨-, third, -⟩ := each 3 (by decide)
  refine ⟨whole, pages 1, pages 2, answered, length, executed, executed', ?_, ?_, ?_⟩
  · rw [next, second, ← List.length_pos_iff]
    simp [length]
  · rw [Bool.eq_false_iff, Ne, next', third]
    simp [length]
  · have count : 3 ⌈/⌉ 2 = 2 := by rw [Nat.ceilDiv_eq_add_pred_div]
    rw [length, count] at together
    simpa [List.range_succ] using together

end DocQuery
