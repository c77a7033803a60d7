import DocQuery.Document.Path

/-!
# Projections

Which fields of a record a query returns: all of them, the listed paths, or all but the listed
paths; and the name of a field for the relevance score, if it is wanted.

## Main definitions

* `Projection`, `Projection.Fields`
* `Projection.ofSelection`: the projection of a list of selection entries
* `Projection.ensureIncluded`: keep a path in
* `Document.project`: apply a projection
-/

namespace DocQuery

/-- Which fields are kept. -/
inductive Projection.Fields where
  | all
  | include (paths : List String)
  | exclude (paths : List String)
deriving DecidableEq

/-- The fields to keep and the field that receives the relevance score. -/
structure Projection where
  fields : Projection.Fields
  scoreField : Option String
deriving DecidableEq

namespace Projection

/-- The projection that keeps everything. -/
def all : Projection := ⟨.all, none⟩

instance : Inhabited Projection := ⟨all⟩

/-- Whether a selection entry is an exclusion. -/
def isExclusion (entry : String) : Bool := Text.startsWith '-' entry

/-- The path that an exclusion names: the entry without the dashes in front. -/
def excludedPath (entry : String) : String :=
  String.ofList (entry.toList.dropWhile (· = '-'))

/--
The projection of selection entries.  An entry with a dash in front is an exclusion.  When there is
an inclusion, only inclusions count, and the identity field is put in front of them unless it is
listed or excluded.
-/
def ofSelection (entries : List String) (idField : String) : Projection :=
  let included := entries.filter fun e => !isExclusion e
  let excluded := ((entries.filter isExclusion).map excludedPath).filter fun p => !p.isEmpty
  let fields : Fields :=
    if !included.isEmpty then
      if excluded.contains idField || included.contains idField then .include included
      else .include (idField :: included)
    else if !excluded.isEmpty then .exclude excluded
    else .all
  ⟨fields, none⟩

/-- Make sure that a path survives the projection. -/
def ensureIncluded (p : Projection) (path : String) : Projection :=
  match p.fields with
  | .all => p
  | .include paths =>
    if paths.contains path then p else { p with fields := .include (paths ++ [path]) }
  | .exclude paths => { p with fields := .exclude (paths.filter (· ≠ path)) }

end Projection

namespace Document

/-- The kept fields of a record: listed paths are copied in the order of the list. -/
def keep (doc : Document) : Projection.Fields → Document
  | .all => doc
  | .include paths =>
    paths.foldl (fun out path =>
      match doc.getPath? path with
      | some value => out.setPath path value
      | none => out) []
  | .exclude paths => paths.foldl removePath doc

/-- Apply a projection; the score field is null where no score is known. -/
def project (doc : Document) (p : Projection) (score : Option Binary64) : Document :=
  let out := doc.keep p.fields
  match p.scoreField with
  | none => out
  | some field => out.insert field ((score.map fun s => .number (.float s)).getD .null)

end Document

end DocQuery
