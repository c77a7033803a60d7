import DocQuery.Document.Path
import DocQuery.Search.Accent
import DocQuery.Search.TextQuery
import DocQuery.Text.Alphanumeric
import DocQuery.Text.LowerCase

/-!
# Searching the words of a document

A search text has bare words, of which one must occur, phrases in quotes, all of which must occur,
and words behind a dash, none of which may occur.  The relevance of a document is the number of
occurrences of its words and phrases.

## Main definitions

* `TextMatcher`: the words and phrases of a search
* `TextMatcher.ofQuery`: reading a search text
* `TextMatcher.score?`: the relevance of a document
-/

namespace DocQuery

/-- A word in the form in which words are compared. -/
abbrev Word := List Char

/-- How words are compared. -/
structure WordSense where
  caseSensitive : Bool
  diacriticSensitive : Bool
deriving DecidableEq

namespace WordSense

/-- The form in which a word is compared. -/
def normalize (sense : WordSense) (word : List Char) : Word :=
  let word := if sense.diacriticSensitive then word else word.map Search.withoutAccent
  if sense.caseSensitive then word else Text.lowerCase word

/-- The words of a text: its maximal runs of letters and numbers. -/
def words (sense : WordSense) (text : List Char) : List Word :=
  (Text.runs Text.isAlphanumeric text).map sense.normalize

end WordSense

/-- What a search looks for and where. -/
structure TextMatcher where
  sense : WordSense
  /-- The paths to search; when there are none, every string of a document is searched. -/
  fields : List String
  terms : List Word
  phrases : List (List Word)
  negated : List Word

namespace TextMatcher

/-- Tell the parts of a text outside quotes from those inside, given its parts between quotes. -/
def chunks : List (List Char) → List (List Char) × List (List Char)
  | [] => ([], [])
  | [outside] => ([outside], [])
  | outside :: quoted :: rest =>
    let (outsides, quotes) := chunks rest
    (outside :: outsides, quoted :: quotes)

/-- The text behind the dash of a token that excludes words. -/
def exclusion? (token : List Char) : Option (List Char) :=
  match token with
  | '-' :: c :: rest => some (c :: rest)
  | _ => none

/-- Read a search text. -/
def ofQuery (query : TextQuery) (fields : List String) : TextMatcher :=
  let sense : WordSense := ⟨query.caseSensitive, query.diacriticSensitive⟩
  let (outside, quoted) := chunks (Text.pieces '"' query.search.toList)
  let tokens := outside.flatMap Text.blankWords
  { sense
    fields
    terms := tokens.flatMap fun token =>
      match exclusion? token with
      | some _ => []
      | none => sense.words token
    phrases := (quoted.map sense.words).filter fun phrase => !phrase.isEmpty
    negated := (tokens.filterMap exclusion?).flatMap sense.words }

mutual

/-- The strings inside a value, in order. -/
def stringsOf : Json → List String
  | .string s => [s]
  | .array items => stringsOfItems items
  | .object members => stringsOfMembers members
  | _ => []
termination_by structural v => v

/-- The strings inside the elements of an array. -/
def stringsOfItems : List Json → List String
  | [] => []
  | v :: vs => stringsOf v ++ stringsOfItems vs
termination_by structural vs => vs

/-- The strings inside the members of an object. -/
def stringsOfMembers : List (String × Json) → List String
  | [] => []
  | (_, v) :: vs => stringsOf v ++ stringsOfMembers vs
termination_by structural vs => vs

end

/-- The strings of a document that are searched: those below the searched paths, or all. -/
def searchedStrings (fields : List String) (doc : Document) : List String :=
  if fields.isEmpty then stringsOfMembers doc
  else fields.flatMap fun field => (doc.lookup field).flatMap stringsOf

/-- The words of a document that are searched, as one sequence. -/
def searchedWords (m : TextMatcher) (doc : Document) : List Word :=
  (searchedStrings m.fields doc).flatMap fun s => m.sense.words s.toList

/-- The number of places at which a phrase occurs in a sequence of words. -/
def occurrences (phrase : List Word) : List Word → Nat
  | [] => 0
  | word :: rest =>
    (if phrase.isPrefixOf (word :: rest) then 1 else 0) + occurrences phrase rest

/-- The relevance of a sequence of words: the number of hits, if the search matches. -/
def scoreWords? (m : TextMatcher) (words : List Word) : Option Binary64 :=
  if m.terms.isEmpty && m.phrases.isEmpty then none
  else if m.negated.any words.contains then none
  else if m.phrases.any fun phrase => occurrences phrase words == 0 then none
  else
    let phraseHits := m.phrases.foldl (fun hits phrase => hits + occurrences phrase words) 0
    let termHits := m.terms.foldl (fun hits term => hits + words.count term) 0
    if m.phrases.isEmpty && termHits == 0 then none else some (.ofInt (termHits + phraseHits : Nat))

/-- The relevance of a document, if the search matches it. -/
def score? (m : TextMatcher) (doc : Document) : Option Binary64 := m.scoreWords? (m.searchedWords doc)

end TextMatcher

end DocQuery
