import DocQuery.Sql.Filter
import DocQuery.Store.Query

/-!
# SQL statements

The statements for a collection.  Each collection is a table with an identity and a column of JSON
records; the records and the relevance are selected, everything else happens outside the database.
-/

namespace DocQuery.Sql

/-- The statement that creates the table of a collection. -/
def createTable (c : Collection) : String :=
  "CREATE TABLE IF NOT EXISTS " ++ quotedName c.name
    ++ " ( \"id\" text NOT NULL PRIMARY KEY, \"doc\" jsonb NOT NULL )"

/-- The expression of a sort key, with its direction. -/
def orderTerm : SortKey → Except StoreError String
  | .field path direction =>
    let word := match direction with
      | .ascending => " ASC"
      | .descending => " DESC"
    (pathExpr docColumn path).map (· ++ word)
  | .textScore => .ok "score DESC"

/-- The expressions of sort keys. -/
def orderTerms : List SortKey → Except StoreError (List String)
  | [] => .ok []
  | key :: rest => do
    let term ← orderTerm key
    let terms ← orderTerms rest
    .ok (term :: terms)

/-- The expression for the relevance: that of the text search if the filter holds one. -/
def scoreExpr (c : Collection) (filter : Document) : Except StoreError (List Piece) :=
  match filter.get? "$text" with
  | some clause => do relevanceExpr c.textFields (← TextQuery.ofClause clause)
  | none => .ok [.plain "NULL::float8"]

/-- The clauses for order and window. -/
def tail (terms : List String) (q : FindQuery) : String :=
  let order := if terms.isEmpty then "" else " ORDER BY " ++ Text.join ", " terms
  let limit := match q.limit with
    | some n => s!" LIMIT {n}"
    | none => ""
  let offset := match q.skip.filter (0 < ·) with
    | some n => s!" OFFSET {n}"
    | none => ""
  order ++ limit ++ offset

/-- The statement that selects the records of a query. -/
def select (c : Collection) (q : FindQuery) : Except StoreError (List Piece) := do
  let score ← scoreExpr c q.filter
  let condition ← compileFilter c.textFields q.filter
  let terms ← orderTerms q.sort
  .ok (.plain "SELECT doc AS \"doc\", " :: score
    ++ .plain (" AS \"score\" FROM " ++ quotedName c.name ++ " WHERE ") :: condition.render
    ++ [.plain (tail terms q)])

/-- The statement that counts the records that match a filter. -/
def selectCount (c : Collection) (filter : Document) : Except StoreError (List Piece) := do
  let condition ← compileFilter c.textFields filter
  .ok (.plain ("SELECT COUNT(*) FROM " ++ quotedName c.name ++ " WHERE ") :: condition.render)

end DocQuery.Sql
