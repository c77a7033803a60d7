import DocQuery.Document.Projection
import DocQuery.Document.Sort

/-!
# Queries to a store

A query as a store receives it: a native filter, sort keys, a projection, references to populate and
the window of the results.
-/

namespace DocQuery

/-- Replace the references at a path by the records they point to. -/
structure PopulateClause where
  /-- Where the references are. -/
  path : String
  /-- The collection that they point into. -/
  source : String
  /-- The field of the records that a reference matches. -/
  foreignField : String
  /-- A native filter that the records have to match, too. -/
  filter : Document
  /-- The fields of the records that are put in place. -/
  projection : Projection

/-- A query for records. -/
structure FindQuery where
  filter : Document
  sort : List SortKey
  projection : Projection
  populate : List PopulateClause
  skip : Option Nat
  limit : Option Nat

namespace FindQuery

/-- The query for every record that matches a filter. -/
def matching (filter : Document) : FindQuery := ⟨filter, [], .all, [], none, none⟩

instance : Inhabited FindQuery := ⟨matching []⟩

/-- The part of a list that the query's window leaves. -/
def window {α : Type} (q : FindQuery) (rows : List α) : List α :=
  let rest := rows.drop (q.skip.getD 0)
  match q.limit with
  | some n => rest.take n
  | none => rest

end FindQuery

end DocQuery
