import DocQuery.Store.Stage
import DocQuery.Text.Quoted

/-!
# How messages show a stage

A stage by its kind and, in parentheses, what it holds.  Values are shown with their kinds.
-/

namespace DocQuery

/-- Parts in brackets with commas between them. -/
def bracketed (opening closing : String) (parts : List String) : String :=
  opening ++ Text.join ", " parts ++ closing

mutual

/-- A value with its kind. -/
def Json.shown : Json → String
  | .null => "Null"
  | .bool b => if b then "Bool(true)" else "Bool(false)"
  | .number n => "Number(" ++ n.text ++ ")"
  | .string s => "String(" ++ Text.quoted s ++ ")"
  | .array items => bracketed "Array [" "]" (shownItems items)
  | .object members => bracketed "Object \x7b" "\x7d" (shownMembers members)
termination_by structural v => v

/-- The elements of an array with their kinds. -/
def shownItems : List Json → List String
  | [] => []
  | v :: vs => v.shown :: shownItems vs
termination_by structural vs => vs

/-- The members of an object, the values with their kinds. -/
def shownMembers : List (String × Json) → List String
  | [] => []
  | (k, v) :: vs => (Text.quoted k ++ ": " ++ v.shown) :: shownMembers vs
termination_by structural vs => vs

end

/-- Texts in brackets, each in quotes. -/
def shownTexts (texts : List String) : String := bracketed "[" "]" (texts.map Text.quoted)

/-- A sort key. -/
def SortKey.shown : SortKey → String
  | .field path direction =>
    let name := match direction with
      | .ascending => "Asc"
      | .descending => "Desc"
    "Field \x7b field: " ++ Text.quoted path ++ ", direction: " ++ name ++ " \x7d"
  | .textScore => "TextScore"

/-- A projection. -/
def Projection.shown (p : Projection) : String :=
  let fields := match p.fields with
    | .all => "All"
    | .include paths => "Include(" ++ shownTexts paths ++ ")"
    | .exclude paths => "Exclude(" ++ shownTexts paths ++ ")"
  let score := match p.scoreField with
    | none => "None"
    | some field => "Some(" ++ Text.quoted field ++ ")"
  "Projection \x7b fields: " ++ fields ++ ", score_field: " ++ score ++ " \x7d"

/-- A stage by its kind and what it holds. -/
def Stage.shown : Stage → String
  | .keep filter => "Match(" ++ bracketed "\x7b" "\x7d" (shownMembers filter) ++ ")"
  | .sort keys => "Sort(" ++ bracketed "[" "]" (keys.map SortKey.shown) ++ ")"
  | .skip n => s!"Skip({n})"
  | .limit n => s!"Limit({n})"
  | .project p => "Project(" ++ p.shown ++ ")"
  | .count field => "Count(" ++ Text.quoted field ++ ")"

end DocQuery
