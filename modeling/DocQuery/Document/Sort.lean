import DocQuery.Document.Order
import DocQuery.Document.Path

/-!
# Sorting records

Records are sorted by several keys, of which the first that tells two records apart decides.  The
sort is stable: records that no key tells apart keep their order.

Rows are inserted one after the other, each moving to the left past those that it precedes.  The
order of timestamps and other texts is not transitive, and this is what it then comes to.

## Main definitions

* `SortDirection`, `SortKey`
* `Row`: a record and its relevance
* `Row.order`: the order of two rows under a list of keys
* `sortRows`
-/

namespace DocQuery

/-- A direction of sorting. -/
inductive SortDirection where
  | ascending
  | descending
deriving DecidableEq

namespace SortDirection

/-- The direction that a token means, blanks around it and the case of its letters aside. -/
def parse? (token : String) : Option SortDirection :=
  match Text.asciiLower (Text.trim token) with
  | "asc" | "ascending" | "1" => some .ascending
  | "desc" | "descending" | "-1" => some .descending
  | _ => none

/-- The short name of a direction. -/
def name : SortDirection → String
  | .ascending => "asc"
  | .descending => "desc"

/-- An order seen in a direction. -/
def apply : SortDirection → Ordering → Ordering
  | .ascending, order => order
  | .descending, order => order.swap

end SortDirection

/-- A key to sort by. -/
inductive SortKey where
  | field (path : String) (direction : SortDirection)
  /-- Descending relevance. -/
  | textScore
deriving DecidableEq

/-- A record and its relevance, if a text was searched for. -/
structure Row where
  doc : Document
  score : Option Binary64

namespace Row

/-- A record without a relevance. -/
def plain (doc : Document) : Row := ⟨doc, none⟩

/-- The value that a row is sorted by; a missing one counts as null. -/
def sortValue (row : Row) (path : String) : Json := (row.doc.getPath? path).getD .null

/-- The order of relevances; a missing one is the least. -/
def scoreOrder : Option Binary64 → Option Binary64 → Ordering
  | some a, some b => a.order b
  | none, some _ => .lt
  | some _, none => .gt
  | none, none => .eq

/-- The order of two rows under one key. -/
def keyOrder (a b : Row) : SortKey → Ordering
  | .field path direction => direction.apply ((a.sortValue path).sortOrder (b.sortValue path))
  | .textScore => scoreOrder b.score a.score

/-- The order of two rows under keys taken in turn. -/
def order (keys : List SortKey) (a b : Row) : Ordering :=
  match keys with
  | [] => .eq
  | key :: rest => (keyOrder a b key).then (order rest a b)

end Row

/-- Insert a row into sorted rows given from the last one to the first. -/
def insertFromEnd (keys : List SortKey) (row : Row) : List Row → List Row
  | [] => [row]
  | last :: before =>
    if row.order keys last = .lt then last :: insertFromEnd keys row before
    else row :: last :: before

/-- Sort rows by keys. -/
def sortRows (keys : List SortKey) (rows : List Row) : List Row :=
  (rows.foldl (fun sorted row => insertFromEnd keys row sorted) []).reverse

end DocQuery
