import DocQuery.Filter.Merge
import DocQuery.Store.Error
import DocQuery.Store.Query

/-!
# Populating references

For each clause the distinct references of all records are collected, the records that they point to
are loaded by one query, and every reference is replaced in place.

A single reference becomes the record or, if there is none, null.  A list of references keeps its
order and loses those without a record.  Of several records with the same key the first one counts.

## Main definitions

* `PopulateClause.references`, `PopulateClause.query`: what is asked of the target collection
* `PopulateClause.index`: the loaded records by key
* `PopulateClause.replace`: the record with its references replaced
* `populate`: all clauses in order
-/

namespace DocQuery

/-- How the records of a collection are found by name. -/
abbrev Lookup := String → FindQuery → Except StoreError (List Document)

/-- Whether a value can be a reference. -/
def Json.isReference : Json → Bool
  | .string _ => true
  | .number _ => true
  | _ => false

/-- The references at a path: the value itself, or the elements of a list. -/
def Document.referencesAt (doc : Document) (path : String) : List Json :=
  match doc.getPath? path with
  | some (.array items) => items.filter Json.isReference
  | some v => if v.isReference then [v] else []
  | none => []

/-- The first of the values of each text. -/
def distinctByText (values : List Json) : List Json :=
  values.foldl (fun done v =>
    if done.any fun d => d.text == v.text then done else done ++ [v]) []

namespace PopulateClause

/-- The distinct references of all records. -/
def references (clause : PopulateClause) (docs : List Document) : List Json :=
  distinctByText (docs.flatMap fun doc => doc.referencesAt clause.path)

/-- Whether the field that references match is loaded only to match them. -/
def stripsForeignField (clause : PopulateClause) : Bool :=
  match clause.projection.fields with
  | .all => false
  | .include paths => !paths.contains clause.foreignField
  | .exclude paths => paths.contains clause.foreignField

/-- The query for the records that references point to. -/
def query (clause : PopulateClause) (references : List Json) : FindQuery :=
  let byReference : Document :=
    [(clause.foreignField, .object [("$in", .array references)])]
  { FindQuery.matching (mergeFilters clause.filter byReference) with
    projection := clause.projection.ensureIncluded clause.foreignField }

/-- The loaded records by the text of the value that references match. -/
def index (clause : PopulateClause) (children : List Document) : List (String × Json) :=
  children.filterMap fun child =>
    (child.getPath? clause.foreignField).map fun key =>
      let record :=
        if clause.stripsForeignField then child.removePath clause.foreignField else child
      (key.text, .object record)

/-- What a value becomes, given the loaded records. -/
def replacement (records : List (String × Json)) : Json → Json
  | .array items => .array (items.filterMap fun item => records.lookup item.text)
  | .null => .null
  | v => (records.lookup v.text).getD .null

/-- A record with the references at the clause's path replaced. -/
def replace (clause : PopulateClause) (records : List (String × Json)) (doc : Document) : Document :=
  match doc.getPath? clause.path with
  | some v => doc.setPath clause.path (replacement records v)
  | none => doc

/-- Replace the references of all records; without any nothing is loaded. -/
def apply (clause : PopulateClause) (find : Lookup) (docs : List Document) :
    Except StoreError (List Document) :=
  let references := clause.references docs
  if references.isEmpty then .ok docs
  else do
    let children ← find clause.source (clause.query references)
    .ok (docs.map (clause.replace (clause.index children)))

end PopulateClause

/-- Replace the references of all clauses, one clause after the other. -/
def populate (find : Lookup) (docs : List Document) :
    List PopulateClause → Except StoreError (List Document)
  | [] => .ok docs
  | clause :: rest => do populate find (← clause.apply find docs) rest

end DocQuery
