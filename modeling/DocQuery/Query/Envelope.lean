import DocQuery.Query.Service

/-!
# Responses as values

The JSON form of a response: the records, and beside them where the page stands, the canonical form
of the request and the warnings.  Empty parts of the canonical request and an absent cursor are left
out.
-/

namespace DocQuery

/-- A sort field as a value. -/
def SortField.toJson (f : SortField) : Json :=
  .object [("field", .string f.field), ("direction", .string f.direction.name)]

/-- An expansion as a value. -/
def Expansion.toJson (e : Expansion) : Json :=
  .object (("path", .string e.path) :: e.select.toList.map fun s => ("select", .ofStrings s))

/-- A member whose value is a list, unless the list is empty. -/
def listMember (key : String) (items : List Json) : List (String × Json) :=
  if items.isEmpty then [] else [(key, .array items)]

/-- The canonical form of a request as a value. -/
def Echo.toJson (e : Echo) : Json :=
  .object ((if e.filters.isEmpty then [] else [("filters", .object e.filters)])
    ++ listMember "sort" (e.sort.map SortField.toJson)
    ++ listMember "fields" (e.fields.map .string)
    ++ listMember "expand" (e.expand.map Expansion.toJson)
    ++ e.search.toList.map fun s => ("search", .string s))

/-- Where a page stands, as members. -/
def PageSummary.members (s : PageSummary) : List (String × Json) :=
  [("totalCount", .ofNat s.totalCount), ("currentPage", .ofNat s.currentPage),
   ("pageSize", .ofNat s.pageSize), ("totalPages", .ofNat s.totalPages),
   ("hasNextPage", .bool s.hasNext), ("hasPrevPage", .bool s.hasPrevious)]

/-- All that a response says beside its records; the time that it took is given where it was
measured. -/
def Response.metadata (r : Response) (milliseconds : Option Nat) : Json :=
  .object (r.summary.members
    ++ (milliseconds.toList.map fun n => ("executionTimeMs", .ofNat n))
    ++ (r.cursor.toList.map fun c => ("cursor", .string c))
    ++ [("query", r.echo.toJson), ("warnings", .ofStrings r.warnings)])

/-- A response as a value. -/
def Response.toJson (r : Response) (milliseconds : Option Nat) : Json :=
  .object [("data", .array (r.data.map .object)), ("metadata", r.metadata milliseconds)]

end DocQuery
