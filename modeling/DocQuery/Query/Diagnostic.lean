/-!
# Diagnostics

The parts of a request that were malformed and left out.  They do not stop a query; their texts are
reported beside its result.
-/

namespace DocQuery

/-- A part of a request that was left out. -/
inductive Diagnostic where
  | malformedFilter (key reason : String)
  | malformedSort (field direction : String)
  | malformedExpansion (entry reason : String)
  | unknownRelation (collection path : String)
deriving DecidableEq

/-- The text of a diagnostic. -/
def Diagnostic.message : Diagnostic → String
  | .malformedFilter key reason => s!"malformed filter value for '{key}': {reason}"
  | .malformedSort field direction => s!"malformed sort direction '{direction}' for field '{field}'"
  | .malformedExpansion entry reason => s!"malformed expansion '{entry}': {reason}"
  | .unknownRelation collection path => s!"unknown relation '{path}' on collection '{collection}'"

end DocQuery
