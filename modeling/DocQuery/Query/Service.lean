import DocQuery.Collection.Registry
import DocQuery.Query.Normal
import DocQuery.Store.Basic

/-!
# Answering requests

A request is answered in two steps.  `plan` resolves the collection and puts the query together:
filter, text search, sort keys, references to populate, projection and window.  `Plan.run` then asks
the store for the records and, if a page was wanted, for the number of all matches.

Parts of a request that cannot be used are left out, and their texts become warnings.

## Main definitions

* `Plan`, `plan`
* `Response`, `Plan.run`, `execute`
* `aggregate`: a pipeline, passed through to the store
-/

namespace DocQuery

/-- A query put together from a request. -/
structure Plan where
  collection : Collection
  /-- The request in canonical form; its expansions are those that are carried out. -/
  request : NormalRequest
  query : FindQuery
  /-- All that was left out. -/
  diagnostics : List Diagnostic

namespace Plan

/-- The filter of the defaults and the client with the text search in it. -/
def filterOf (request : NormalRequest) : Document × List Diagnostic :=
  let merged := mergeFilters request.defaultFilters request.filters
  match request.fullText.bind FullTextSearch.clause? with
  | some clause =>
    let (filter, dropped) := FullTextSearch.addClause merged clause
    (filter, dropped.toList)
  | none => (merged, [])

/-- Whether the relevance is wanted. -/
def wantsScore (request : NormalRequest) : Bool := request.fullText.any (·.sortByScore)

/-- The keys to sort by; the relevance comes last. -/
def sortOf (request : NormalRequest) : List SortKey :=
  let keys := request.sorting.map fun s => SortKey.field s.field s.direction
  if wantsScore request then SortKey.withTextScore keys else keys

/-- The clause that carries out an expansion, and what is left out of the target's filters.  The
target's restricted fields stay hidden and its default filters hold. -/
def clauseTo [PatternReader] (expansion : Expansion) (relation : Relation) (target : Collection) :
    PopulateClause × List Diagnostic :=
  let selection := Selection.restrict (expansion.select.getD []) target.restrictedFields
  let defaults := mapFilters target.defaultFilters .trusted
  ({ path := expansion.path
     source := relation.collection
     foreignField := relation.foreignField
     filter := defaults.clauses
     projection := Projection.ofSelection selection target.idField }, defaults.diagnostics)

/-- What becomes of an expansion: nothing if its path is restricted, a warning if no registered
collection is behind it, a clause otherwise. -/
def populateOne [PatternReader] (registry : Registry) (c : Collection) (restricted : List String)
    (expansion : Expansion) : Option PopulateClause × List Diagnostic :=
  if isRestricted restricted expansion.path then (none, [])
  else
    match c.relation? expansion.path with
    | none => (none, [.unknownRelation c.name expansion.path])
    | some relation =>
      match registry.get? relation.collection with
      | none => (none, [.unknownRelation c.name expansion.path])
      | some target =>
        let (clause, diagnostics) := clauseTo expansion relation target
        (some clause, diagnostics)

/-- The clauses of all expansions. -/
def populateOf [PatternReader] (registry : Registry) (c : Collection) (request : NormalRequest) :
    List PopulateClause × List Diagnostic :=
  let parts := request.expansions.map (populateOne registry c request.restrictedFields)
  (parts.filterMap Prod.fst, parts.flatMap Prod.snd)

/-- The projection of the selection, in which expanded paths survive and restricted ones do not. -/
def projectionOf (c : Collection) (request : NormalRequest) : Projection :=
  let selection := Selection.restrict request.fields request.restrictedFields
  let p := (request.expansions.map Expansion.path).foldl Projection.ensureIncluded
    (Projection.ofSelection selection c.idField)
  if wantsScore request then p.withTextScore else p

/-- The plan of a request in canonical form. -/
def ofNormal [PatternReader] (registry : Registry) (c : Collection) (request : NormalRequest) :
    Plan :=
  let (filter, dropped) := filterOf request
  let (clauses, unusable) := populateOf registry c request
  let carriedOut := request.expansions.filter fun e => clauses.any (·.path = e.path)
  let request := { request with expansions := carriedOut }
  { collection := c
    request
    query := {
      filter
      sort := sortOf request
      projection := projectionOf c request
      populate := clauses
      skip := request.pagination.map Page.skip
      limit := request.pagination.map Page.limit }
    diagnostics := request.diagnostics ++ dropped ++ unusable }

end Plan

/-- What a response says about the request. -/
structure Echo where
  filters : Document
  sort : List SortField
  fields : List String
  expand : List Expansion
  search : Option String

/-- The answer to a request. -/
structure Response where
  data : List Document
  summary : PageSummary
  cursor : Option String
  echo : Echo
  warnings : List String

namespace Plan

/-- The canonical request, for the client to see. -/
def echo (plan : Plan) : Echo where
  filters := plan.request.filters
  sort := plan.request.sorting
  fields := plan.request.fields
  expand := plan.request.expansions
  search := plan.request.fullText.map fun search => Text.trim search.searchText

/-- The response with the found records and the number of all matches. -/
def respond (plan : Plan) (data : List Document) (total : Nat) : Response where
  data
  summary :=
    match plan.request.pagination with
    | some page => ⟨total, page.page, page.limit⟩
    | none => ⟨total, 1, total⟩
  cursor := plan.request.pagination.bind Page.cursor
  echo := plan.echo
  warnings := plan.diagnostics.map Diagnostic.message

/-- An answer of a store, seen as part of a query. -/
def asked {α : Type} : Except StoreError α → Except QueryError α
  | .ok v => .ok v
  | .error e => .error (.store e)

/-- Carry out a plan.  The records are found in one state of the store and counted in a later one,
because others may insert in between. -/
def run (plan : Plan) (found counted : RecordStore) : Except QueryError Response := do
  let data ← asked (found.find plan.collection plan.query)
  let total ← match plan.request.pagination with
    | some _ => asked (counted.count plan.collection plan.query.filter)
    | none => .ok data.length
  .ok (plan.respond data total)

end Plan

/-- A service: the collections it knows and the bounds on its pages. -/
structure Service where
  registry : Registry
  settings : PageSettings

namespace Service

/-- The plan of a request to a collection. -/
def plan [PatternReader] (service : Service) (ref : CollectionRef) (request : Request) :
    Except QueryError Plan := do
  let c ← service.registry.resolve ref
  .ok (.ofNormal service.registry c (request.normalize c service.settings))

/-- Answer a request. -/
def execute [PatternReader] (service : Service) (store : RecordStore) (ref : CollectionRef)
    (request : Request) :
    Except QueryError Response := do
  (← service.plan ref request).run store store

/-- Run a pipeline over a collection. -/
def aggregate (service : Service) (store : RecordStore) (ref : CollectionRef)
    (pipeline : List Document) : Except QueryError (List Document) := do
  let c ← service.registry.resolve ref
  Plan.asked (store.aggregate c pipeline)

end Service

end DocQuery
