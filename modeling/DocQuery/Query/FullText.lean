import DocQuery.Document.Projection
import DocQuery.Document.Sort
import DocQuery.Json.Decode
import DocQuery.Query.Diagnostic

/-!
# Full-text requests

A client's request to search a text.  It becomes a `$text` clause of the filter and, if the client
wants the results by relevance, a sort key and a field of the result.
-/

namespace DocQuery

/-- A request to search a text. -/
structure FullTextSearch where
  searchText : String
  language : Option String
  caseSensitive : Bool
  diacriticSensitive : Bool
  /-- Whether to sort by relevance and to report it. -/
  sortByScore : Bool
deriving DecidableEq

namespace FullTextSearch

/-- A search that leaves the options at their defaults. -/
def plain (searchText : String) : FullTextSearch := ⟨searchText, none, false, false, false⟩

/-- Read a request. -/
def decode : Decoder FullTextSearch :=
  Decoder.record
    [.needed ["searchText", "search"] Decoder.text fun searchText r => { r with searchText },
     .defaulted ["language"] (Decoder.optional Decoder.text) fun language r => { r with language },
     .defaulted ["caseSensitive"] Decoder.flag fun caseSensitive r => { r with caseSensitive },
     .defaulted ["diacriticSensitive"] Decoder.flag
       fun diacriticSensitive r => { r with diacriticSensitive },
     .defaulted ["sortByScore"] Decoder.flag fun sortByScore r => { r with sortByScore }]
    false (plain "")

/-- Whether there is nothing to search for. -/
def isBlank (search : FullTextSearch) : Bool := Text.isBlankText search.searchText

/-- The operand of the `$text` clause that a request becomes; a blank one becomes none. -/
def clause? (search : FullTextSearch) : Option Json :=
  if search.isBlank then none
  else
    let language := ((search.language.map Text.trim).filter fun l => !l.isEmpty).toList
    some (.object ([("$search", .string (Text.trim search.searchText)),
      ("$caseSensitive", .bool search.caseSensitive),
      ("$diacriticSensitive", .bool search.diacriticSensitive)]
      ++ language.map fun l => ("$language", .string l)))

/-- Add a text clause to a filter, which holds at most one.  A different one that is there already
stays, and the new one is reported. -/
def addClause (filter : Document) (clause : Json) : Document × Option Diagnostic :=
  match filter.get? "$text" with
  | none => (filter.insert "$text" clause, none)
  | some present =>
    if present.equal clause then (filter, none)
    else (filter, some (.malformedFilter "$text"
      "a text search is already enforced for this collection, search ignored"))

end FullTextSearch

/-- Sort by relevance after all other keys. -/
def SortKey.withTextScore (keys : List SortKey) : List SortKey :=
  if keys.contains .textScore then keys else keys ++ [.textScore]

/-- Report the relevance in the field `score`. -/
def Projection.withTextScore (p : Projection) : Projection := { p with scoreField := some "score" }

end DocQuery
