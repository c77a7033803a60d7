import DocQuery.Collection.Basic
import DocQuery.Search.TextQuery
import DocQuery.Sql.Expression
import DocQuery.Sql.Path

/-!
# Text search in SQL

The database's own text search: the words of the searched fields against the words of the search
text, both read by the rules of a language.
-/

namespace DocQuery.Sql

/-- The column that holds the records. -/
def docColumn : String := "doc"

/-- The rules for a language that is given by its name or its code. -/
def languageRules (language : Option String) : String :=
  match language.map Text.asciiLower with
  | none | some "en" | some "english" => "english"
  | some "es" | some "spanish" => "spanish"
  | some "fr" | some "french" => "french"
  | some "de" | some "german" => "german"
  | some "it" | some "italian" => "italian"
  | some "pt" | some "portuguese" => "portuguese"
  | some "nl" | some "dutch" => "dutch"
  | some "ru" | some "russian" => "russian"
  | some "sv" | some "swedish" => "swedish"
  | some "da" | some "danish" => "danish"
  | some "nb" | some "no" | some "norwegian" => "norwegian"
  | some "fi" | some "finnish" => "finnish"
  | some "tr" | some "turkish" => "turkish"
  | some "hu" | some "hungarian" => "hungarian"
  | some "ro" | some "romanian" => "romanian"
  | some _ => "simple"

/-- The text at a JSON expression. -/
def textAt (expr : String) : String := expr ++ " #>> '\x7b\x7d'"

/-- The expressions for the texts of fields. -/
def fieldTexts : List String → Except StoreError (List String)
  | [] => .ok []
  | field :: rest => do
    let expr ← pathExpr docColumn field
    let exprs ← fieldTexts rest
    .ok (("(" ++ textAt expr ++ ")") :: exprs)

/-- The words of the searched fields; without declared fields, of the whole record. -/
def wordsExpr (fields : List String) (query : TextQuery) : Except StoreError String :=
  let rules := languageRules query.language
  if fields.isEmpty then .ok s!"to_tsvector('{rules}', {docColumn})"
  else do
    let texts := Text.join ", " (← fieldTexts fields)
    .ok s!"to_tsvector('{rules}', concat_ws(' ', {texts}))"

/-- The words of the search text, up to the closing parenthesis. -/
def searchedWords (query : TextQuery) : List Piece :=
  let rules := languageRules query.language
  [.plain s!"websearch_to_tsquery('{rules}', ", .literal query.search]

/-- The condition that the words match. -/
def textCondition (fields : List String) (query : TextQuery) : Except StoreError Expr := do
  let words ← wordsExpr fields query
  .ok (.fragment (.plain (words ++ " @@ ") :: searchedWords query ++ [.plain ")"]))

/-- The expression for the relevance. -/
def relevanceExpr (fields : List String) (query : TextQuery) : Except StoreError (List Piece) := do
  let words ← wordsExpr fields query
  .ok (.plain s!"ts_rank({words}, " :: searchedWords query ++ [.plain "))::float8"])

end DocQuery.Sql
