import DocQuery.Proofs.Document.Sorting
import DocQuery.Proofs.Filter.Mapping
import DocQuery.Proofs.Filter.Merge
import DocQuery.Proofs.Number.Whole
import DocQuery.Proofs.Query.HiddenPaths
import DocQuery.Proofs.Search.Hits
import DocQuery.Proofs.Search.Visibility
import DocQuery.Proofs.Store.Blindness
import DocQuery.Proofs.Store.Loaded

/-!
# The order of relevance

Whoever searches a text by relevance gets the records from the most hits down, each with the number
of its hits.  The relevance of a record is what the last text clause records that has matched on the
way through the filter, and defaults may bring text clauses of their own, in branches that fail later
as well as in ones that match.  What makes the number that of the request is the place of its clause:
no filter of a collection, of a service or of a client comes with the key of a text search, so the
clause of the request is the last member of the merged filter.  A record that matches passes it last,
and it writes over whatever the clauses inside the other members have left.

## Main definitions

* `Plan.filterOf_text`: the place of the text clause
* `Predicate.relevance_concat_text`: what is recorded in the end
* `RankedBy`: sorted by a score, ties in their order
* `relevance_order_faithful`
-/

namespace DocQuery

/-! ### The place of the text clause -/

/-- No flat filter is mapped to a clause with the key of a text search. -/
theorem text_notMem_mapFilters [PatternReader] (filters : Document) (trust : Trust) :
    "$text" ∉ (mapFilters filters trust).clauses.keys := by
  intro mem
  obtain ⟨entry, -, ⟨path, field⟩ | ⟨-, logical, same⟩⟩ := exists_entry_of_mem_keys_mapFilters mem
  · have dollar := FilterKey.isDollarKey_parse path
    rw [field] at dollar
    cases dollar
  · rw [same] at logical
    exact absurd logical (by decide)

theorem text_notMem_mergeFilters {defaults client : Document} (distinct : defaults.DistinctKeys)
    (distinct' : client.DistinctKeys) (notInDefaults : "$text" ∉ defaults.keys)
    (notInClient : "$text" ∉ client.keys) : "$text" ∉ (mergeFilters defaults client).keys := by
  intro mem
  rcases mem_keys_mergeFilters distinct distinct' mem with inDefaults | inClient | isAnd
  · exact notInDefaults inDefaults
  · exact notInClient inClient
  · exact absurd isAnd (by decide)

/-- The merged filter of a request brings no text search. -/
theorem text_notMem_normalize [PatternReader] (request : Request) (c : Collection)
    (settings : PageSettings) :
    let normal := request.normalize c settings
    "$text" ∉ (mergeFilters normal.defaultFilters normal.filters).keys := by
  refine text_notMem_mergeFilters distinctKeys_mergeFilters (distinctKeys_mapFilters _ _) ?_
    (text_notMem_mapFilters _ _)
  exact text_notMem_mergeFilters (distinctKeys_mapFilters _ _) (distinctKeys_mapFilters _ _)
    (text_notMem_mapFilters _ _) (text_notMem_mapFilters _ _)

/-- The clause of a text search is the last member of a filter that brings none. -/
theorem Plan.filterOf_text {normal : NormalRequest} {clause : Json}
    (asked : normal.fullText.bind FullTextSearch.clause? = some clause)
    (noText : "$text" ∉ (mergeFilters normal.defaultFilters normal.filters).keys) :
    (Plan.filterOf normal).1 =
      mergeFilters normal.defaultFilters normal.filters ++ [("$text", clause)] := by
  simp only [filterOf, asked, FullTextSearch.addClause, Document.get?_eq_none_iff.mpr noText]
  exact Document.insert_of_notMem noText

/-! ### What is recorded in the end -/

namespace Predicate

variable {parts : List Predicate} {m : TextMatcher} {doc : Document}

theorem compile_concat_text [PatternReader] {filter : Document} {clause : Json} {query : TextQuery}
    {fields : List String} {p : Predicate} (read : TextQuery.ofClause clause = .ok query)
    (compiled : compile (filter ++ [("$text", clause)]) fields = .ok p) :
    ∃ parts, p = .allOf (parts ++ [.text (.ofQuery query fields)]) := by
  obtain ⟨parts, each, rfl⟩ := compile_ok_iff.mp compiled
  have backwards := List.forall₂_reverse_iff.mpr (compileClauses_ok_iff.mp each)
  rw [List.reverse_append] at backwards
  obtain ⟨last, others, compiledLast, -, reversed⟩ := List.forall₂_cons_left_iff.mp backwards
  obtain rfl := Except.ok_unique compiledLast (compileClause_text read)
  refine ⟨others.reverse, congrArg allOf ?_⟩
  rw [← List.reverse_reverse parts, reversed, List.reverse_cons]

/-- Whatever the parts before it record, a last text clause that matches records its own relevance. -/
theorem evaluateAll_concat_text (score : Option Binary64)
    (matched : (evaluateAll (parts ++ [.text m]) doc score).1 = true) :
    ∃ own, m.score? doc = some own ∧ (evaluateAll (parts ++ [.text m]) doc score).2 = some own := by
  induction parts generalizing score with
  | nil =>
      rw [List.nil_append, evaluateAll, evaluate] at matched ⊢
      cases found : m.score? doc with
      | none =>
          rw [found] at matched
          cases matched
      | some own => exact ⟨own, rfl, rfl⟩
  | cons part rest ih =>
      rw [List.cons_append, evaluateAll] at matched ⊢
      rcases recorded : part.evaluate doc score with ⟨_ | _, next⟩ <;> rw [recorded] at matched
      · cases matched
      · exact ih next matched

/-- **The last text clause decides the relevance.**  A record that matches has the relevance of the
search, and that is the number of its hits. -/
theorem relevance_concat_text (matched : (allOf (parts ++ [.text m])).matchesDocument doc = true) :
    (allOf (parts ++ [.text m])).relevance doc = some (.ofInt (m.hits doc)) ∧ 1 ≤ m.hits doc := by
  rw [matchesDocument, evaluate] at matched
  obtain ⟨own, found, recorded⟩ := evaluateAll_concat_text none matched
  obtain ⟨rfl, positive⟩ := TextMatcher.hits_of_score? found
  exact ⟨recorded, positive⟩

end Predicate

/-! ### Sorting by a score -/

/-- The records that were found, sorted: none has a greater score than one before it, and records
with equal scores keep their order. -/
structure RankedBy (score : Document → Binary64) (found ranked : List Document) : Prop where
  perm : ranked.Perm found
  sorted : ranked.Pairwise fun before doc => (score doc).order (score before) ≠ .gt
  ties : ∀ s, (ranked.filter fun doc => (score doc).equal s) =
    found.filter fun doc => (score doc).equal s

section Ranking

variable {score : Document → Binary64}

/-- A record with its score. -/
def Row.scored (score : Document → Binary64) (doc : Document) : Row := ⟨doc, some (score doc)⟩

theorem Row.order_textScore (a b : Document) (s t : Binary64) :
    Row.order [.textScore] ⟨a, some s⟩ ⟨b, some t⟩ = t.order s :=
  Ordering.then_eq

theorem Binary64.order_beq_eq (x y : Binary64) : (x.order y == .eq) = x.equal y := by
  rw [Bool.eq_iff_iff, beq_iff_eq, equal_iff, order, compare_eq_iff_eq]

/-- Relevances alone are ordered transitively, whatever the records are. -/
theorem orderFits_textScore : OrderFits [.textScore] fun _ => True := by
  have noFields : ∀ row : Row, row.SortTextsIn [.textScore] fun _ => False := by
    intro row path direction mem
    cases List.mem_singleton.mp mem
  intro a b c _ _ _
  exact Row.fits_order (fun _ _ _ _ _ none => none.elim) (noFields a) (noFields b) (noFields c)

theorem Row.map_doc_scored (docs : List Document) :
    (docs.map (scored score)).map Row.doc = docs := by
  rw [List.map_map]
  exact List.map_id docs

/-- Sorting scored records by relevance ranks them. -/
theorem exists_rankedBy (score : Document → Binary64) (found : List Document) :
    ∃ ranked, RankedBy score found ranked ∧
      sortRows [.textScore] (found.map (Row.scored score)) = ranked.map (Row.scored score) := by
  have perm := sortRows_perm [.textScore] (found.map (Row.scored score))
  obtain ⟨sorted, ties⟩ := sortRows_of_orderFits orderFits_textScore
    fun row (_ : row ∈ found.map (Row.scored score)) => trivial
  -- sorting keeps the rows, and each of them is a scored record
  obtain ⟨ranked, shape⟩ : ∃ ranked : List Document,
      sortRows [.textScore] (found.map (Row.scored score)) = ranked.map (Row.scored score) := by
    generalize sortRows [.textScore] (found.map (Row.scored score)) = rows at perm
    refine ⟨rows.map Row.doc, ?_⟩
    calc rows = rows.map id := (List.map_id rows).symm
      _ = rows.map (Row.scored score ∘ Row.doc) := List.map_congr_left fun row mem => by
        obtain ⟨doc, -, rfl⟩ := List.mem_map.mp (perm.subset mem)
        rfl
      _ = (rows.map Row.doc).map (Row.scored score) := List.map_map.symm
  rw [shape] at perm sorted ties
  refine ⟨ranked, ⟨?_, ?_, fun s => ?_⟩, shape⟩
  · have again := perm.map Row.doc
    rwa [Row.map_doc_scored, Row.map_doc_scored] at again
  · simpa only [List.pairwise_map, Row.scored, Row.order_textScore] using sorted
  · have tied := congrArg (List.map Row.doc) (ties ⟨[], some s⟩ trivial)
    rw [List.filter_map, List.filter_map, Row.map_doc_scored, Row.map_doc_scored] at tied
    simpa only [Function.comp_def, Row.scored, Row.order_textScore, Binary64.order_beq_eq] using tied

end Ranking

/-! ### Searches of requests by relevance -/

section Answer

variable {service : Service} {store : MemoryStore} {ref : CollectionRef} {c : Collection}
  {request : Request} {response : Response} {search : FullTextSearch}

/-- The rows that match, if each has the score that it is given. -/
theorem MemoryStore.filterMap_rowOf_scored {p : Predicate} {score : Document → Binary64}
    (each : ∀ doc, p.matchesDocument doc = true → p.relevance doc = some (score doc))
    (collection : String) :
    (store.rows collection).filterMap (rowOf p) =
      ((store.docs collection).filter p.matchesDocument).map (Row.scored score) := by
  rw [rows, List.filterMap_map, ← List.filterMap_eq_filter, List.map_filterMap]
  refine List.filterMap_congr fun doc _ => ?_
  rw [Function.comp_apply, rowOf_plain, Option.guard_apply]
  split
  · next matched => rw [each doc matched, Option.map_some, Row.scored]
  · rfl

/-- A score that is known is reported. -/
theorem Document.get?_project_score {p : Projection} {field : String}
    (reported : p.scoreField = some field) (doc : Document) (score : Binary64) :
    (doc.project p (some score)).get? field = some (.number (.float score)) := by
  rw [project, reported]
  exact get?_insert_self _ _ _

/-- Without keys of its own a request for relevance sorts by it alone, and reports it. -/
theorem Plan.query_byScore [PatternReader] {registry : Registry} {normal : NormalRequest}
    (wants : wantsScore normal = true) (noSort : normal.sorting = []) :
    (ofNormal registry c normal).query.sort = [.textScore] ∧
      (ofNormal registry c normal).query.projection.scoreField = some "score" := by
  rw [wantsScore] at wants
  constructor
  · simp [ofNormal, sortOf, wantsScore, wants, noSort, SortKey.withTextScore]
  · simp [ofNormal, projectionOf, wantsScore, wants, Projection.withTextScore]

/-- The text search of a request is kept in its canonical form unless it is blank. -/
theorem Request.fullText_normalize [PatternReader] {settings : PageSettings}
    (searched : request.fullText = some search) (notBlank : search.isBlank = false) :
    (request.normalize c settings).fullText = some search := by
  simp [normalize, searched, notBlank]

/-- The filter of a request for a text compiles to a predicate whose relevance is the number of hits
of that text, whatever the defaults search for. -/
theorem Service.relevance_planOf [PatternReader] (searched : request.fullText = some search)
    (notBlank : search.isBlank = false) {p : Predicate}
    (compiled : Predicate.compile (service.planOf c request).query.filter c.textFields = .ok p)
    {doc : Document} (matched : p.matchesDocument doc = true) :
    let m := TextMatcher.ofQuery search.query c.textFields
    p.relevance doc = some (.ofInt (m.hits doc)) ∧ 1 ≤ m.hits doc := by
  obtain ⟨clause, built⟩ : ∃ clause, search.clause? = some clause := by
    rw [FullTextSearch.clause?, if_neg (by rw [notBlank]; decide)]
    exact ⟨_, rfl⟩
  have asked : (request.normalize c service.settings).fullText.bind FullTextSearch.clause? =
      some clause := by
    rw [Request.fullText_normalize searched notBlank, Option.bind_some, built]
  have filter : (service.planOf c request).query.filter = _ :=
    Plan.filterOf_text asked (text_notMem_normalize request c service.settings)
  rw [filter] at compiled
  obtain ⟨parts, rfl⟩ :=
    Predicate.compile_concat_text (FullTextSearch.ofClause_clause? built) compiled
  exact Predicate.relevance_concat_text matched

/-- **The order of relevance is faithful.**  An answered search by relevance without other sort keys
and without expansions shows the matching records sorted by the number of their hits, as a binary64
value, from the most hits down, and records with equal scores in the order in which they were
inserted.  Every record that is shown has its score in the field `score`, which is one at least and,
below `2 ^ 53` hits, exactly their number. -/
theorem relevance_order_faithful [PatternReader] (resolved : service.registry.resolve ref = .ok c)
    (searched : request.fullText = some search) (notBlank : search.isBlank = false)
    (byScore : search.sortByScore = true)
    (noSort : (request.normalize c service.settings).sorting = [])
    (noExpansions : (request.normalize c service.settings).expansions = [])
    (answered : service.execute store.records ref request = .ok response) :
    let m := TextMatcher.ofQuery search.query c.textFields
    let score (doc : Document) : Binary64 := .ofInt (m.hits doc)
    let query := (service.planOf c request).query
    let shown (doc : Document) : Document := doc.project query.projection (some (score doc))
    ∃ p ranked, Predicate.compile query.filter c.textFields = .ok p ∧
      RankedBy score ((store.docs c.name).filter p.matchesDocument) ranked ∧
      response.data = (query.window ranked).map shown ∧
      (response.data.Pairwise fun before after => ∃ s t,
        before.get? "score" = some (.number (.float s)) ∧
          after.get? "score" = some (.number (.float t)) ∧ t.order s ≠ .gt) ∧
      ∀ doc ∈ ranked, (shown doc).get? "score" = some (.number (.float (score doc))) ∧
        1 ≤ m.hits doc ∧ (Binary64.ofInt 1).order (score doc) ≠ .gt ∧
        (m.hits doc < 2 ^ 53 → (score doc).numerator = m.hits doc * (score doc).denominator) := by
  intro m score query shown
  have wants : Plan.wantsScore (request.normalize c service.settings) = true := by
    rw [Plan.wantsScore, Request.fullText_normalize searched notBlank]
    exact byScore
  obtain ⟨sort, scoreField⟩ : query.sort = [.textScore] ∧ query.projection.scoreField = some "score" :=
    Plan.query_byScore wants noSort
  have noRefs : query.populate = [] := Plan.populate_ofNormal noExpansions
  obtain ⟨docs, found, shownDocs⟩ :=
    Except.bind_eq_ok_iff.mp (Service.find_of_execute resolved answered)
  obtain ⟨rows, selected, rfl⟩ := Except.map_eq_ok_iff.mp found
  obtain ⟨p, compiled, windowed⟩ := Except.bind_eq_ok_iff.mp selected
  have relevance : ∀ doc, p.matchesDocument doc = true →
      p.relevance doc = some (score doc) ∧ 1 ≤ m.hits doc := fun doc matched =>
    Service.relevance_planOf searched notBlank compiled matched
  obtain ⟨ranked, isRanked, inOrder⟩ :=
    exists_rankedBy score ((store.docs c.name).filter p.matchesDocument)
  have data : response.data = (query.window ranked).map shown := by
    have rows : (store.rows c.name).filterMap (MemoryStore.rowOf p) = _ :=
      MemoryStore.filterMap_rowOf_scored (fun doc matched => (relevance doc matched).1) c.name
    change populate store.lookup _ query.populate = _ at shownDocs
    rw [noRefs] at shownDocs
    rw [← Except.ok.inj shownDocs, ← Except.ok.inj windowed]
    change (query.window (sortRows query.sort _)).map _ = _
    rw [sort, rows, inOrder, ← query.map_window, List.map_map]
    rfl
  have reported : ∀ doc, (shown doc).get? "score" = some (.number (.float (score doc))) := fun doc =>
    Document.get?_project_score scoreField doc (score doc)
  refine ⟨p, ranked, compiled, isRanked, data, ?_, fun doc mem => ?_⟩
  · rw [data, List.pairwise_map]
    refine (isRanked.sorted.sublist (query.window_sublist ranked)).imp fun ordered => ?_
    exact ⟨_, _, reported _, reported _, ordered⟩
  · have matched := (List.mem_filter.mp (isRanked.perm.subset mem)).2
    have positive := (relevance doc matched).2
    exact ⟨reported doc, positive, Binary64.one_le_ofInt positive, Binary64.ofInt_exact⟩

end Answer

/-! ### A default that searches a text -/

/-- A collection that shows notes, and drafts of any kind. -/
def notes : Collection :=
  { Collection.named "notes" with
    defaultFilters := [("$or", .array [.object [("$text", .object [("$search", .string "draft")])],
      .object [("kind", .string "note")]])] }

/-- A record of a kind with a text. -/
def written (id kind text : String) : Document :=
  [("_id", .string id), ("kind", .string kind), ("text", .string text)]

/-- The draft has one hit of the default and three of the request, and the three put it in front of
two notes with one hit each; a page that is no draft is not shown. -/
theorem relevance_order_faithful_notes :
    let store : MemoryStore := ⟨[("notes", [written "a" "note" "plum jam",
      written "b" "page" "draft: plum, plum, plum", written "c" "note" "plum tart",
      written "d" "page" "plum plum"])], 0⟩
    let search : FullTextSearch := { FullTextSearch.plain "plum" with sortByScore := true }
    let request : Request := { Request.empty with fullText := some search }
    let m := TextMatcher.ofQuery search.query []
    ∃ (response : Response) (p : Predicate) (ranked : List Document),
      Service.bare.execute store.records (.definition notes) request = .ok response ∧
      RankedBy (fun doc => .ofInt (m.hits doc)) ((store.docs "notes").filter p.matchesDocument)
        ranked ∧
      response.data.length = ranked.length ∧
      response.data.map (fun doc => (doc.get? "score").map Json.text) =
        [some "3.0", some "1.0", some "1.0"] ∧
      response.data.map (fun doc => (doc.get? "_id").bind Json.string?) =
        [some "b", some "a", some "c"] := by
  intro store search request m
  obtain ⟨response, answered⟩ := Except.exists_eq_ok_of_isOk
    (x := Service.bare.execute store.records (.definition notes) request) (by decide +kernel)
  obtain ⟨p, ranked, -, isRanked, data, -⟩ :=
    relevance_order_faithful (c := notes) rfl rfl (by decide +kernel) rfl rfl rfl answered
  have shown : (Service.bare.execute store.records (.definition notes) request).toOption.map
      (fun response => (response.data.map fun doc => (doc.get? "score").map Json.text,
        response.data.map fun doc => (doc.get? "_id").bind Json.string?)) =
      some ([some "3.0", some "1.0", some "1.0"], [some "b", some "a", some "c"]) := by
    decide +kernel
  rw [answered] at shown
  obtain ⟨scores, ids⟩ := Prod.mk.inj (Option.some.inj shown)
  refine ⟨response, p, ranked, answered, isRanked, ?_, scores, ids⟩
  rw [data, List.length_map]
  rfl

end DocQuery
