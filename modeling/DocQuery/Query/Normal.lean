import DocQuery.Filter.Mapping
import DocQuery.Filter.Merge
import DocQuery.Query.Request

/-!
# Normal form of a request

Every section of a request in its canonical form, together with the parts that were malformed and
left out.  The sections do not influence each other.
-/

namespace DocQuery

/-- A request in canonical form. -/
structure NormalRequest where
  /-- Native clauses of the client. -/
  filters : Document
  /-- Native clauses that always apply. -/
  defaultFilters : Document
  sorting : List SortField
  pagination : Option Page
  /-- Selection entries. -/
  fields : List String
  expansions : List Expansion
  /-- A search for something that is not blank. -/
  fullText : Option FullTextSearch
  restrictedFields : List String
  diagnostics : List Diagnostic

/-- The canonical form of a request to a collection. -/
def Request.normalize [PatternReader] (request : Request) (c : Collection)
    (settings : PageSettings) :
    NormalRequest :=
  let client := mapFilters request.filters .untrusted
  let standing := mapFilters c.defaultFilters .trusted
  let enforced := mapFilters request.defaultFilters .trusted
  let (sorting, sortFaults) := (request.sort.map SortSpec.normalize).getD ([], [])
  let (expansions, expandFaults) := (request.expand.map ExpandSpec.normalize).getD ([], [])
  { filters := client.clauses
    defaultFilters := mergeFilters standing.clauses enforced.clauses
    sorting
    pagination := request.pagination.map fun page => .ofRequest page settings
    fields := (request.fields.map fun f => f.normalize c.idField).getD []
    expansions
    fullText := request.fullText.filter fun search => !search.isBlank
    restrictedFields := unionFields (unionFields [] c.restrictedFields) request.restrictedFields
    diagnostics := client.diagnostics ++ standing.diagnostics ++ enforced.diagnostics ++ sortFaults
      ++ expandFaults }

end DocQuery
