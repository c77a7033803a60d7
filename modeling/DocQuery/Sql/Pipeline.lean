import DocQuery.Sql.Statement
import DocQuery.Store.StageText

/-!
# Pipelines in SQL

A database answers a pipeline if it comes to one query: filters first, then at most one each of sort
keys, a number to skip, a number to keep and a count.

## Main definitions

* `Sql.fuseFilters`: the filters in front as one
* `Sql.PipelineShape`, `Sql.shapeOf`: the query that a pipeline comes to and the stages left over
* `Sql.pipeline`: the statement of a pipeline
-/

namespace DocQuery.Sql

/-- Join a filter to those before it: its members are added, or, if one of its keys is taken, it is
put aside. -/
def fuse (state : Document × List Json) (filter : Document) : Document × List Json :=
  if filter.any fun member => state.1.contains member.1 then
    (state.1, state.2 ++ [.object filter])
  else (state.1 ++ filter, state.2)

/-- Filters that all have to match, as one.  Those put aside become members of `$and`. -/
def fuseFilters (filters : List Document) : Document :=
  let (filter, aside) := filters.foldl fuse ([], [])
  if aside.isEmpty then filter
  else
    match filter.get? "$and" with
    | some (.array present) => filter.insert "$and" (.array (present ++ aside))
    | _ => filter.insert "$and" (.array aside)

/-- The filters at the head of a pipeline, and the stages after them. -/
def leadingFilters : List Stage → List Document × List Stage
  | .keep filter :: rest =>
    let (filters, rest) := leadingFilters rest
    (filter :: filters, rest)
  | stages => ([], stages)

/-- What a pipeline comes to. -/
structure PipelineShape where
  query : FindQuery
  /-- The field for the number of rows, if the rows are counted. -/
  countField : Option String
  /-- The stages that do not fit. -/
  unfit : List Stage

/-- What a pipeline comes to, each kind of stage at its place. -/
def shapeOf (stages : List Stage) : PipelineShape :=
  let (filters, stages) := leadingFilters stages
  let (sort, stages) := match stages with
    | .sort keys :: rest => (keys, rest)
    | stages => ([], stages)
  let (skip, stages) := match stages with
    | .skip n :: rest => (some n, rest)
    | stages => (none, stages)
  let (limit, stages) := match stages with
    | .limit n :: rest => (some n, rest)
    | stages => (none, stages)
  let (countField, stages) := match stages with
    | .count field :: rest => (some field, rest)
    | stages => (none, stages)
  { query := { FindQuery.matching (fuseFilters filters) with sort, skip, limit }
    countField
    unfit := stages }

/-- The statement of a pipeline, and the field for its number if it is a count. -/
structure PipelinePlan where
  pieces : List Piece
  countField : Option String

/-- The statement of a pipeline. -/
def pipeline (c : Collection) (stages : List Stage) : Except StoreError PipelinePlan :=
  let shape := shapeOf stages
  match shape.unfit with
  | stage :: _ => .error (.unsupported (s!"pipeline stage {stage.shown} at this position; "
      ++ "supported shape is $match* $sort? $skip? $limit? $count?"))
  | [] => do
    let rows ← select c shape.query
    let pieces := match shape.countField with
      | some _ => .plain "SELECT COUNT(*) FROM (" :: rows ++ [.plain ") AS matched"]
      | none => rows
    .ok ⟨pieces, shape.countField⟩

end DocQuery.Sql
