import DocQuery.Query.Diagnostic
import DocQuery.Store.Error
import DocQuery.Text.Quoted

/-!
# Errors of a query

Why a query has no result at all.
-/

namespace DocQuery

/-- What stops a query. -/
inductive QueryError where
  /-- There is no collection of the name. -/
  | unknownCollection (name : String)
  /-- The name cannot be that of a collection. -/
  | invalidName (name : String)
  | store (error : StoreError)
deriving DecidableEq

/-- The text of an error. -/
def QueryError.message : QueryError → String
  | .unknownCollection name => s!"collection not found: {name}"
  | .invalidName name => s!"invalid collection reference: {Text.quoted name}"
  | .store error => s!"storage error: {error.message}"

end DocQuery
