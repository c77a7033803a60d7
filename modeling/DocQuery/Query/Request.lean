import DocQuery.Collection.Basic
import DocQuery.Filter.Operator
import DocQuery.Query.Expansion
import DocQuery.Query.FullText
import DocQuery.Query.Page
import DocQuery.Query.Sort

/-!
# Requests

Everything that a client may ask of a collection, each section in one of its accepted forms.  A
request comes from the parameters of a query string or from a JSON body; on the way it loses all
that touches restricted fields.

## Main definitions

* `Request`
* `Request.enforceRestrictions`: a request without what touches restricted fields
* `Request.ofParameters`: the request of query-string parameters
* `Request.decode`, `Request.ofBody`: the request of a JSON body
-/

namespace DocQuery

/-- A request to a collection. -/
structure Request where
  /-- Flat filters of the client. -/
  filters : Document
  /-- Flat filters of the service, which always apply. -/
  defaultFilters : Document
  sort : Option SortSpec
  /-- The wanted page; without one every match is returned. -/
  pagination : Option PageRequest
  fields : Option SelectSpec
  expand : Option ExpandSpec
  fullText : Option FullTextSearch
  restrictedFields : List String

namespace Request

/-- A request for everything. -/
def empty : Request := ⟨[], [], none, none, none, none, none, []⟩

instance : Inhabited Request := ⟨empty⟩

/-- Whether a flat filter key tests a restricted field. -/
def testsRestricted (restricted : List String) (key : String) : Bool :=
  isRestricted restricted (FilterKey.parse key).field || isRestricted restricted key

/-- A list of fields followed by those of a second list that are not in it. -/
def unionFields (fields more : List String) : List String :=
  more.foldl (fun fields f => if fields.contains f then fields else fields ++ [f]) fields

/-- Take away what touches restricted fields: tests, sort keys and expansions are left out, and the
selection is rewritten so that the fields stay hidden. -/
def enforceRestrictions (request : Request) (c : Collection) : Request :=
  let restricted := unionFields request.restrictedFields c.restrictedFields
  if restricted.isEmpty then request
  else
    let entries := (request.fields.map SelectSpec.entries).getD []
    { request with
      filters := request.filters.filter fun member => !testsRestricted restricted member.1
      sort := request.sort.map (SortSpec.restrict (isRestricted restricted))
      fields := some (.list (Selection.restrict entries restricted))
      expand := request.expand.map (ExpandSpec.restrict (isRestricted restricted))
      restrictedFields := restricted }

/-! ### Query-string parameters -/

/-- The parameters that are no filters. -/
def reservedParameters : List String :=
  ["page", "limit", "offset", "cursor", "sort", "fields", "select", "expand", "populate", "search",
    "q", "language", "caseSensitive", "diacriticSensitive", "sortByScore"]

/-- The trimmed value of the first of the names that is given, unless it is blank. -/
def parameter? (parameters : List (String × String)) (names : List String) : Option String :=
  ((names.findSome? fun name => parameters.lookup name).map Text.trim).filter fun v => !v.isEmpty

/-- Whether the value of a flag means yes. -/
def isYes (value : String) : Bool :=
  match Text.asciiLower value with
  | "true" | "1" | "yes" => true
  | _ => false

/-- The request of query-string parameters, each of which is given once.  It is always for a page;
parameters without a meaning of their own are filters, in the order of their names. -/
def ofParameters (parameters : List (String × String)) (c : Collection) : Request :=
  let get := parameter? parameters
  let count (name : String) : Option Nat := (get [name]).bind Numeral.word?
  let flag (name : String) : Bool := (get [name]).any isYes
  let filters := Collection.sortedTable <|
    parameters.filter fun p => !reservedParameters.contains p.1
  let request : Request := {
    filters := filters.map fun p => (p.1, .string p.2)
    defaultFilters := []
    sort := (get ["sort"]).map .text
    pagination := some ⟨count "page", count "limit", count "offset", get ["cursor"]⟩
    fields := (get ["fields", "select"]).map .text
    expand := (get ["expand", "populate"]).map .text
    fullText := (get ["search", "q"]).map fun searchText => {
      searchText
      language := get ["language"]
      caseSensitive := flag "caseSensitive"
      diacriticSensitive := flag "diacriticSensitive"
      sortByScore := flag "sortByScore" }
    restrictedFields := [] }
  request.enforceRestrictions c

/-! ### JSON bodies -/

/-- Read the request that a JSON body spells out; names that it does not know are refused. -/
def decode : Decoder Request :=
  let optional {α : Type} (d : Decoder α) : Decoder (Option α) := Decoder.optional d
  Decoder.record
    [.defaulted ["filters"] Decoder.document fun filters r => { r with filters },
     .defaulted ["sort"] (optional SortSpec.decode) fun sort r => { r with sort },
     .defaulted ["pagination"] (optional PageRequest.decode)
       fun pagination r => { r with pagination },
     .defaulted ["fields", "select"] (optional SelectSpec.decode) fun fields r => { r with fields },
     .defaulted ["expand", "populate"] (optional ExpandSpec.decode)
       fun expand r => { r with expand },
     .defaulted ["fullTextSearch", "search"] (optional FullTextSearch.decode)
       fun fullText r => { r with fullText }]
    true empty

/-- The request of a body, as far as the collection allows it. -/
def ofBody (body : Request) (c : Collection) : Request := body.enforceRestrictions c

end Request

end DocQuery
