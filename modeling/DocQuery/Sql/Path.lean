import DocQuery.Document.Path
import DocQuery.Store.Error

/-!
# Paths in SQL

How a dotted path becomes an expression on a JSON column.  A segment of digits is an index and
stands bare; any other segment has to be a plain name and stands in quotes.
-/

namespace DocQuery.Sql

/-- Whether a segment is an index. -/
def isIndex (segment : String) : Bool := !segment.isEmpty && segment.toList.all Char.isDigit

/-- Whether a segment is a plain name: letters, digits and underscores, at most 63. -/
def isPlainName (segment : String) : Bool :=
  !segment.isEmpty && segment.toList.length ≤ 63
    && segment.toList.all fun c => c.isAlphanum || c = '_'

/-- The step to a segment. -/
def step? (segment : String) : Option String :=
  if isIndex segment then some ("->" ++ segment)
  else if isPlainName segment then some ("->'" ++ segment ++ "'")
  else none

/-- The steps to the segments, one after the other. -/
def steps? : List String → Option String
  | [] => some ""
  | segment :: rest => (step? segment).bind fun s => (steps? rest).map (s ++ ·)

/-- The expression for a path below a root. -/
def pathExpr (root path : String) : Except StoreError String :=
  match steps? (Path.segments path) with
  | some steps => .ok (root ++ steps)
  | none => .error (.invalidQuery (.invalidPath path))

end DocQuery.Sql
