import DocQuery.Proofs.Query.Pages

/-!
# Pages while others insert

A request for a page asks the store twice, for the records of the page and for the number of all
matches, and nothing holds the store still in between.  Other clients may insert any number of
records into any collections after the records were found and before they are counted.

A store only ever grows: an insertion leaves the records of every collection where they are and puts
at most one behind them.  So a filter matches at least as many records when they are counted as when
they were found, and the total that a response reports covers the window that it shows, whether the
page was asked for by its number or by an offset.

The total has 64 bits.  One that exceeded them could come after a window whose skip had stopped at
the greatest count, and that window would name a page past the last one.

## Main definitions

* `MemoryStore.insertAll`, `MemoryStore.docs_insertAll`: a store after insertions
* `MemoryStore.window_le_count`: where the window of a query ends
* `Service.executeAmid`: a request that is answered while others insert
* `total_covers_window`
-/

namespace DocQuery

/-! ### A store that grows -/

namespace MemoryStore

variable {store : MemoryStore} {c : Collection} {q : FindQuery} {data : List Document}

/-- The store after insertions into any collections, one after the other. -/
def insertAll (store : MemoryStore) (insertions : List (String × Document)) : MemoryStore :=
  insertions.foldl (fun store insertion => (store.insert insertion.1 insertion.2).1) store

theorem lookup_append (doc : Document) (collection name : String)
    (collections : List (String × List Document)) :
    (append doc collection collections).lookup name =
      if name = collection then some ((collections.lookup name).getD [] ++ [doc])
      else collections.lookup name := by
  induction collections with
  | nil =>
      rw [append, List.lookup_cons]
      by_cases same : name = collection
      · simp [same]
      · simp [beq_false_of_ne same, same]
  | cons head rest ih =>
      obtain ⟨first, docs⟩ := head
      by_cases here : first = collection
      · rw [append, if_pos here, List.lookup_cons, List.lookup_cons, here]
        by_cases same : name = collection
        · simp [same]
        · simp [beq_false_of_ne same, same]
      · rw [append, if_neg here, List.lookup_cons, List.lookup_cons, ih]
        by_cases same : name = first
        · simp [same, here]
        · simp [beq_false_of_ne same]

/-- An insertion puts its record behind those of its collection and touches no other. -/
theorem docs_insert (store : MemoryStore) (collection name : String) (doc : Document) :
    ∃ stored, (store.insert collection doc).1.docs name =
      if name = collection then store.docs name ++ [stored] else store.docs name := by
  have appended : ∀ stored, ((append stored collection store.collections).lookup name).getD [] =
      if name = collection then store.docs name ++ [stored] else store.docs name := by
    intro stored
    rw [lookup_append, docs]
    split <;> rfl
  unfold insert
  split
  · exact ⟨_, appended _⟩
  · exact ⟨_, appended _⟩

/-- **One insertion** leaves the records of every collection where they are. -/
theorem docs_prefix_insert (store : MemoryStore) (collection name : String) (doc : Document) :
    store.docs name <+: (store.insert collection doc).1.docs name := by
  obtain ⟨stored, present⟩ := docs_insert store collection name doc
  rw [present]
  split
  · exact List.prefix_append _ _
  · exact List.prefix_rfl

/-- **Any number of insertions** leave the records of every collection where they are. -/
theorem docs_prefix_insertAll (store : MemoryStore) (insertions : List (String × Document))
    (name : String) : store.docs name <+: (store.insertAll insertions).docs name := by
  induction insertions generalizing store with
  | nil => exact List.prefix_rfl
  | cons insertion rest ih =>
      have first := docs_prefix_insert store insertion.1 name insertion.2
      exact first.trans (ih _)

/-- A filter that was counted is counted after insertions too, and matches no fewer records. -/
theorem count_insertAll [PatternReader] {filter : Document} {total : Nat}
    (counted : store.count c filter = .ok total) (insertions : List (String × Document)) :
    ∃ later, (store.insertAll insertions).count c filter = .ok later ∧ total ≤ later := by
  obtain ⟨p, compiled, rest⟩ := Except.bind_eq_ok_iff.mp counted
  rw [← Except.ok.inj rest, count, compiled]
  refine ⟨_, rfl, ?_⟩
  exact ((docs_prefix_insertAll store insertions c.name).sublist.filter _).length_le

/-- The window of a query that shows something ends at or before the number of all matches. -/
theorem window_le_count [PatternReader] (found : store.find c q = .ok data) :
    ∃ total, store.count c q.filter = .ok total ∧
      (data ≠ [] → q.skip.getD 0 + data.length ≤ total) := by
  obtain ⟨searched, search, populated⟩ := Except.bind_eq_ok_iff.mp found
  obtain ⟨rows, selected, rfl⟩ := Except.map_eq_ok_iff.mp search
  obtain ⟨p, compiled, window⟩ := Except.bind_eq_ok_iff.mp selected
  refine ⟨((store.docs c.name).filter p.matchesDocument).length, ?_, fun shown => ?_⟩
  · rw [count, compiled]
    rfl
  have sameLength : data.length = rows.length := by
    rw [length_populate populated, List.length_map]
  have matching : (sortRows q.sort ((store.rows c.name).filterMap (rowOf p))).length =
      ((store.docs c.name).filter p.matchesDocument).length := by
    rw [(sortRows_perm _ _).length_eq, length_filterMap_rowOf]
  have within := (Except.ok.inj window ▸ q.window_sublist_drop _).length_le
  rw [List.length_drop, matching] at within
  have nonempty : 0 < data.length := List.length_pos_iff.mpr shown
  omega

end MemoryStore

/-! ### Where a page starts -/

section Page

variable {wanted : PageRequest} {settings : PageSettings}

theorem Page.one_le_limitOf : 1 ≤ Page.limitOf wanted settings := by
  rw [Page.limitOf]
  omega

theorem Page.one_le_limit : 1 ≤ (Page.ofRequest wanted settings).limit := Page.one_le_limitOf

/-- The pages before the reported one end at or before the window, unless its skip has stopped at
the greatest count. -/
theorem Page.before_le_skip
    (counted : (Page.ofRequest wanted settings).skip < countLimit) :
    ((Page.ofRequest wanted settings).page - 1) * (Page.ofRequest wanted settings).limit ≤
      (Page.ofRequest wanted settings).skip := by
  unfold Page.ofRequest at counted ⊢
  cases asked : wanted.offset with
  | some offset =>
      rw [asked] at counted
      exact Nat.div_mul_le_self offset _
  | none =>
      rw [asked] at counted
      dsimp only at counted ⊢
      omega

/-- A page that starts before the end of the results is one of their pages. -/
theorem PageSummary.currentPage_le_totalPages {s : PageSummary} (positive : 0 < s.pageSize)
    (starts : (s.currentPage - 1) * s.pageSize < s.totalCount) : s.currentPage ≤ s.totalPages := by
  have before : s.currentPage - 1 < s.totalPages := by
    rw [totalPages_eq_ceilDiv positive, ← Nat.not_le, ceilDiv_le_iff_le_mul positive, Nat.mul_comm,
      Nat.not_le]
    exact starts
  omega

end Page

/-! ### Requests answered while others insert -/

/-- Answer a request while others insert: the records are found before the insertions and counted
after them. -/
def Service.executeAmid [PatternReader] (service : Service) (store : MemoryStore)
    (insertions : List (String × Document)) (ref : CollectionRef) (request : Request) :
    Except QueryError Response := do
  (← service.plan ref request).run store.records (store.insertAll insertions).records

section Execute

variable {service : Service} {store : MemoryStore} {insertions : List (String × Document)}
  {ref : CollectionRef} {c : Collection} {request : Request} {wanted : PageRequest}
  {response : Response}

theorem Service.executeAmid_eq [PatternReader] (resolved : service.registry.resolve ref = .ok c) :
    service.executeAmid store insertions ref request =
      (service.planOf c request).run store.records (store.insertAll insertions).records := by
  rw [executeAmid, plan, resolved]
  rfl

theorem Service.pagination_planOf [PatternReader] (paged : request.pagination = some wanted) :
    (service.planOf c request).request.pagination = some (.ofRequest wanted service.settings) := by
  show request.pagination.map _ = _
  rw [paged]
  rfl

/-- A plan with a page answers with what is found and what is counted. -/
theorem Plan.found_and_counted {plan : Plan} {window : Page} {found counted : RecordStore}
    (paged : plan.request.pagination = some window)
    (answered : plan.run found counted = .ok response) :
    found.find plan.collection plan.query = .ok response.data ∧
      counted.count plan.collection plan.query.filter = .ok response.summary.totalCount ∧
      response.summary.currentPage = window.page ∧ response.summary.pageSize = window.limit := by
  obtain ⟨data, searched, rest⟩ := Except.bind_eq_ok_iff.mp answered
  simp only [paged] at rest
  obtain ⟨total, counts, responded⟩ := Except.bind_eq_ok_iff.mp rest
  obtain rfl := Except.ok.inj responded
  rw [respond, paged]
  exact ⟨asked_eq_ok_iff.mp searched, asked_eq_ok_iff.mp counts, rfl, rfl⟩

/-- A request for a page shows what is found before the insertions and says how many records match
after them. -/
theorem Service.found_and_counted_amid [PatternReader] (paged : request.pagination = some wanted)
    (answered : service.executeAmid store insertions ref request = .ok response) :
    ∃ c, service.registry.resolve ref = .ok c ∧
      store.find c (service.planOf c request).query = .ok response.data ∧
      (store.insertAll insertions).count c (service.planOf c request).query.filter =
        .ok response.summary.totalCount ∧
      response.summary.currentPage = (Page.ofRequest wanted service.settings).page ∧
      response.summary.pageSize = (Page.ofRequest wanted service.settings).limit := by
  obtain ⟨plan, planned, ran⟩ := Except.bind_eq_ok_iff.mp answered
  obtain ⟨c, resolved, rest⟩ := Except.bind_eq_ok_iff.mp planned
  obtain rfl := Except.ok.inj rest
  exact ⟨c, resolved, Plan.found_and_counted (Service.pagination_planOf paged) ran⟩

/-- Insertions by others fail no request and change nothing of what a page shows; they can only
raise its total. -/
theorem exists_executeAmid_of_execute [PatternReader] {alone : Response}
    (paged : request.pagination = some wanted)
    (answered : service.execute store.records ref request = .ok alone)
    (insertions : List (String × Document)) :
    ∃ response, service.executeAmid store insertions ref request = .ok response ∧
      response.data = alone.data ∧ alone.summary.totalCount ≤ response.summary.totalCount := by
  -- an answer without disturbance is one amid no insertions
  have amidNone : service.executeAmid store [] ref request = .ok alone := answered
  obtain ⟨c, resolved, found, counted, -⟩ := Service.found_and_counted_amid paged amidNone
  obtain ⟨later, recounted, more⟩ := MemoryStore.count_insertAll counted insertions
  have window : (service.planOf c request).request.pagination =
      some (.ofRequest wanted service.settings) := Service.pagination_planOf paged
  have answers := (Service.executeAmid_eq resolved).trans (Plan.run_paged window found recounted)
  refine ⟨_, answers, rfl, ?_⟩
  rw [Plan.respond, window]
  exact more

/-- **The total covers the window.**  However many records others insert between the find and the
count of a request for a page, a response that shows something says a total that its window does
not exceed, and the page that it names is one of the pages of that total. -/
theorem total_covers_window [PatternReader] (paged : request.pagination = some wanted)
    (answered : service.executeAmid store insertions ref request = .ok response)
    (countable : response.summary.totalCount ≤ countLimit) (shown : response.data ≠ []) :
    (Page.ofRequest wanted service.settings).skip + response.data.length ≤
        response.summary.totalCount ∧
      response.summary.currentPage ≤ response.summary.totalPages := by
  obtain ⟨c, resolved, found, counted, page, limit⟩ :=
    Service.found_and_counted_amid paged answered
  obtain ⟨before, countedBefore, covers⟩ := MemoryStore.window_le_count found
  obtain ⟨later, recounted, more⟩ := MemoryStore.count_insertAll countedBefore insertions
  have total : response.summary.totalCount = later := Except.ok_unique counted recounted
  have skipped : (service.planOf c request).query.skip =
      some (Page.ofRequest wanted service.settings).skip :=
    congrArg (Option.map Page.skip) (Service.pagination_planOf paged)
  have covered : (Page.ofRequest wanted service.settings).skip + response.data.length ≤
      response.summary.totalCount := by
    have within := covers shown
    rw [skipped, Option.getD_some] at within
    omega
  have nonempty : 0 < response.data.length := List.length_pos_iff.mpr shown
  have below : (Page.ofRequest wanted service.settings).skip < countLimit := by omega
  have starts := Page.before_le_skip below
  refine ⟨covered, PageSummary.currentPage_le_totalPages (limit ▸ Page.one_le_limit) ?_⟩
  rw [page, limit]
  omega

end Execute

/-- A page by offset that does not start where a page by number would, and two insertions of which
one meets the filter. -/
theorem total_covers_window_measured :
    let store : MemoryStore :=
      ⟨[("log", [measured "a" 3, measured "b" 9, measured "c" 1, measured "d" 7])], 0⟩
    let wanted : PageRequest := ⟨none, some 2, some 1, none⟩
    let request : Request := { Request.empty with
      filters := [("value_gt", .ofNat 1)], pagination := some wanted }
    ∃ response, Service.bare.executeAmid store
        [("log", measured "e" 5), ("notes", measured "f" 8)] (.definition (.named "log")) request =
          .ok response ∧
      response.data.length = 2 ∧ response.summary.totalCount = 4 ∧
      (Page.ofRequest wanted Service.bare.settings).skip + response.data.length ≤
        response.summary.totalCount ∧
      response.summary.currentPage ≤ response.summary.totalPages := by
  intro store wanted request
  obtain ⟨response, answered⟩ := Except.exists_eq_ok_of_isOk
    (x := Service.bare.executeAmid store [("log", measured "e" 5), ("notes", measured "f" 8)]
      (.definition (.named "log")) request)
    (by decide +kernel)
  have numbers : (Service.bare.executeAmid store
      [("log", measured "e" 5), ("notes", measured "f" 8)]
      (.definition (.named "log")) request).toOption.map
        (fun response => (response.data.length, response.summary.totalCount)) = some (2, 4) := by
    decide +kernel
  rw [answered] at numbers
  obtain ⟨two, four⟩ := Prod.mk.inj (Option.some.inj numbers)
  refine ⟨response, answered, two, four, total_covers_window rfl answered ?_ ?_⟩
  · rw [four]
    decide
  · rw [← List.length_pos_iff, two]
    decide

end DocQuery
