import DocQuery.Json.Basic
import DocQuery.Store.Error

/-!
# Text queries

The operand of a `$text` clause: the text to search for and how words are compared.
-/

namespace DocQuery

/-- A full-text search. -/
structure TextQuery where
  search : String
  language : Option String
  caseSensitive : Bool
  diacriticSensitive : Bool
deriving DecidableEq

namespace TextQuery

/-- The search that a `$text` operand asks for.  Members of the wrong kind count as absent, but the
search text itself must be there. -/
def ofClause (clause : Json) : Except StoreError TextQuery :=
  match clause.object? with
  | none => .error (.invalidQuery .textNeedsObject)
  | some members =>
    match (members.get? "$search").bind Json.string? with
    | none => .error (.invalidQuery .textNeedsSearch)
    | some search =>
      let flag (key : String) : Bool := ((members.get? key).bind Json.bool?).getD false
      .ok {
        search
        language := (members.get? "$language").bind Json.string?
        caseSensitive := flag "$caseSensitive"
        diacriticSensitive := flag "$diacriticSensitive" }

end TextQuery

end DocQuery
