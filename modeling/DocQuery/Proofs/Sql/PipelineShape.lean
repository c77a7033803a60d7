import DocQuery.Proofs.Sql.Acceptance
import DocQuery.Proofs.Store.Pipeline

/-!
# Pipelines that have a statement

A database answers a pipeline of filters, then at most one each of sort keys, a number to skip, a
number to keep and a count.  The compiler takes one stage after the other and looks for each kind at
its place only.  What it takes is such a pipeline, and what it leaves is the rest of the stages
(`QueryPipeline.exists_stages_append_unfit`), so nothing is left exactly if the whole pipeline is one.

That something is left is found out before any filter is looked at, and whatever is wrong with a
filter, a path or a text search is a fault of the query and never something that the store does not
offer.  So the two kinds of refusal tell a pipeline of another shape from one with a faulty stage.

## Main definitions

* `StoreError.BlamesQuery`: the kind of error that a faulty query gets
* `Sql.select_failsOnlyBy`: the statement of a query is refused for such errors only
* `QueryPipeline.exists_stages_append_unfit`: the stages that are taken and those that are left
* `pipeline_accepts_shape`
-/

namespace DocQuery

open Except (FailsOnlyBy)

/-- The query is at fault, not the store. -/
def StoreError.BlamesQuery (e : StoreError) : Prop := ∃ fault, e = .invalidQuery fault

theorem StoreError.blamesQuery (fault : QueryFault) : BlamesQuery (.invalidQuery fault) :=
  ⟨fault, rfl⟩

open StoreError (BlamesQuery blamesQuery)

/-- A value that is refused for faults of the query only, however it is read. -/
structure Json.RefusedAsQuery (value : Json) : Prop where
  clause : ∀ fields top key, FailsOnlyBy BlamesQuery (Sql.compileMember fields top key value)
  alternative : ∀ fields key, FailsOnlyBy BlamesQuery (Sql.compileAlternative fields key value)
  fieldTest : ∀ expr, FailsOnlyBy BlamesQuery (Sql.compileFieldTest expr value)
  element : ∀ expr, FailsOnlyBy BlamesQuery (Sql.compileElementTest expr value)

namespace Sql

variable {fields : List String} {top : Bool} {key expr : String} {value : Json}
  {members ops : List (String × Json)} {items : List Json}

/-! ### Paths, operands and text searches -/

theorem pathExpr_failsOnlyBy (root path : String) : FailsOnlyBy BlamesQuery (pathExpr root path) := by
  rw [pathExpr]
  split
  · exact .ok _
  · exact .error (blamesQuery _)

theorem elements_failsOnlyBy (op : Operator) (operand : Json) :
    FailsOnlyBy BlamesQuery (elements op operand) := by
  cases operand with
  | array items => exact .ok items
  | _ => exact .error (blamesQuery _)

theorem operatorCondition_failsOnlyBy (expr : String) (ops : Document) (op : Operator)
    (operand : Json) : FailsOnlyBy BlamesQuery (operatorCondition expr ops op operand) := by
  cases op with
  | isIn | notIn | all => exact (elements_failsOnlyBy _ operand).map
  | regex =>
      cases operand with
      | string pattern => exact .ok _
      | _ => exact .error (blamesQuery _)
  | size =>
      rw [operatorCondition]
      split
      · exact .ok _
      · exact .error (blamesQuery _)
  | elemMatch => exact .error (blamesQuery _)
  | _ => exact .ok _

theorem ofClause_failsOnlyBy (clause : Json) : FailsOnlyBy BlamesQuery (TextQuery.ofClause clause) := by
  rw [TextQuery.ofClause]
  split
  · exact .error (blamesQuery _)
  · split
    · exact .error (blamesQuery _)
    · exact .ok _

theorem fieldTexts_failsOnlyBy (fields : List String) :
    FailsOnlyBy BlamesQuery (fieldTexts fields) := by
  induction fields with
  | nil => exact .ok []
  | cons field rest ih =>
      exact (pathExpr_failsOnlyBy docColumn field).bind fun _ => ih.bind fun _ => .ok _

theorem wordsExpr_failsOnlyBy (fields : List String) (query : TextQuery) :
    FailsOnlyBy BlamesQuery (wordsExpr fields query) := by
  rw [wordsExpr]
  split
  · exact .ok _
  · exact (fieldTexts_failsOnlyBy fields).bind fun _ => .ok _

/-! ### Operator maps, element tests and clauses -/

section Members

variable (refused : ∀ member ∈ members, member.2.RefusedAsQuery)

include refused

theorem compileOperatorMap_failsOnlyBy :
    FailsOnlyBy BlamesQuery (compileOperatorMap expr ops members) := by
  induction members with
  | nil => exact .ok []
  | cons member rest ih =>
      rw [List.forall_mem_cons] at refused
      have others := ih refused.2
      by_cases isOptions : member.1 = "$options"
      · rwa [compileOperatorMap, if_pos isOptions]
      · rw [compileOperatorMap_cons isOptions]
        refine FailsOnlyBy.bind ?_ fun _ => others.bind fun _ => .ok _
        rw [operatorPart]
        split
        · exact refused.1.element expr
        · exact operatorCondition_failsOnlyBy _ _ _ _
        · exact .error (blamesQuery _)

theorem compileFieldTest_failsOnlyBy :
    FailsOnlyBy BlamesQuery (compileFieldTest expr (.object members)) := by
  rw [compileFieldTest]
  split
  · exact (compileOperatorMap_failsOnlyBy refused).map
  · exact .ok _

theorem compileElementClauses_failsOnlyBy :
    FailsOnlyBy BlamesQuery (compileElementClauses members) := by
  induction members with
  | nil => exact .ok []
  | cons member rest ih =>
      rw [List.forall_mem_cons] at refused
      rw [compileElementClauses]
      split
      · exact .error (blamesQuery _)
      · refine (pathExpr_failsOnlyBy _ _).bind fun expr => ?_
        exact (refused.1.fieldTest expr).bind_cons (ih refused.2)

theorem compileElementTest_failsOnlyBy :
    FailsOnlyBy BlamesQuery (compileElementTest expr (.object members)) := by
  rw [compileElementTest]
  split
  · exact (compileOperatorMap_failsOnlyBy refused).bind fun _ => .ok _
  · exact (compileElementClauses_failsOnlyBy refused).bind fun _ => .ok _

theorem compileMembers_failsOnlyBy :
    FailsOnlyBy BlamesQuery (compileMembers fields top members) := by
  induction members with
  | nil => exact .ok []
  | cons member rest ih =>
      rw [List.forall_mem_cons] at refused
      exact (refused.1.clause fields top member.1).bind_cons (ih refused.2)

end Members

/-- A clause that combines no filters, given the test of a field. -/
theorem compilePlain_failsOnlyBy
    (fieldTest : ∀ expr, FailsOnlyBy BlamesQuery (compileFieldTest expr value)) :
    FailsOnlyBy BlamesQuery (compilePlain fields top key value) := by
  rw [compilePlain]
  split
  · exact .error (blamesQuery _)
  · split
    · split
      · refine (ofClause_failsOnlyBy value).bind fun query => ?_
        exact (wordsExpr_failsOnlyBy fields query).bind fun _ => .ok _
      · exact .error (blamesQuery _)
    · split
      · exact .error (blamesQuery _)
      · exact (pathExpr_failsOnlyBy docColumn key).bind fieldTest

theorem compileAlternatives_failsOnlyBy (refused : ∀ item ∈ items, item.RefusedAsQuery) :
    FailsOnlyBy BlamesQuery (compileAlternatives fields key items) := by
  induction items with
  | nil => exact .ok []
  | cons item rest ih =>
      rw [List.forall_mem_cons] at refused
      exact (refused.1.alternative fields key).bind_cons (ih refused.2)

theorem compileMember_array_failsOnlyBy (refused : ∀ item ∈ items, item.RefusedAsQuery) :
    FailsOnlyBy BlamesQuery (compileMember fields top key (.array items)) := by
  rw [compileMember]
  split
  · split
    · exact .error (blamesQuery _)
    · exact (compileAlternatives_failsOnlyBy refused).bind fun _ => .ok _
  · exact compilePlain_failsOnlyBy fun _ => .ok _

end Sql

/-- **Every value is refused for faults of the query only.** -/
theorem Json.refusedAsQuery (value : Json) : value.RefusedAsQuery := by
  induction value using inductionOn with
  | object members ih =>
      refine ⟨fun _ _ _ => ?_, fun _ _ => (Sql.compileMembers_failsOnlyBy ih).map,
        fun _ => Sql.compileFieldTest_failsOnlyBy ih,
        fun _ => Sql.compileElementTest_failsOnlyBy ih⟩
      exact Sql.compilePlain_failsOnlyBy fun _ => Sql.compileFieldTest_failsOnlyBy ih
  | array items ih =>
      exact ⟨fun _ _ _ => Sql.compileMember_array_failsOnlyBy ih,
        fun _ _ => .error (blamesQuery _), fun _ => .ok _, fun _ => .error (blamesQuery _)⟩
  | _ =>
      exact ⟨fun _ _ _ => Sql.compilePlain_failsOnlyBy fun _ => .ok _,
        fun _ _ => .error (blamesQuery _), fun _ => .ok _, fun _ => .error (blamesQuery _)⟩

/-! ### Statements -/

namespace Sql

theorem scoreExpr_failsOnlyBy (c : Collection) (filter : Document) :
    FailsOnlyBy BlamesQuery (scoreExpr c filter) := by
  rw [scoreExpr]
  split
  · next clause _ =>
      refine (ofClause_failsOnlyBy clause).bind fun query => ?_
      exact (wordsExpr_failsOnlyBy c.textFields query).bind fun _ => .ok _
  · exact .ok _

theorem orderTerms_failsOnlyBy (keys : List SortKey) :
    FailsOnlyBy BlamesQuery (orderTerms keys) := by
  induction keys with
  | nil => exact .ok []
  | cons key rest ih =>
      refine FailsOnlyBy.bind_cons ?_ ih
      cases key with
      | field path direction => exact (pathExpr_failsOnlyBy docColumn path).map
      | textScore => exact .ok _

/-- **The statement of a query is refused for faults of the query only.** -/
theorem select_failsOnlyBy (c : Collection) (q : FindQuery) :
    FailsOnlyBy BlamesQuery (select c q) := by
  refine (scoreExpr_failsOnlyBy c q.filter).bind fun _ => ?_
  refine FailsOnlyBy.bind ?_ fun _ => (orderTerms_failsOnlyBy q.sort).bind fun _ => .ok _
  exact (compileMembers_failsOnlyBy fun member _ => member.2.refusedAsQuery).map

end Sql

/-! ### The stages that fit -/

namespace QueryPipeline

/-- The filters in front and the stages behind them are all of a pipeline. -/
theorem leadingFilters_append (stages : List Stage) :
    (Sql.leadingFilters stages).1.map .keep ++ (Sql.leadingFilters stages).2 = stages := by
  induction stages with
  | nil => rfl
  | cons stage rest ih =>
      cases stage with
      | keep filter =>
          rw [Sql.leadingFilters]
          exact congrArg (Stage.keep filter :: ·) ih
      | _ => rfl

/-- **What does not fit is the end of a pipeline**: the stages in front of it come to one query. -/
theorem exists_stages_append_unfit (stages : List Stage) :
    ∃ form : QueryPipeline, stages = form.stages ++ (Sql.shapeOf stages).unfit := by
  have kept := leadingFilters_append stages
  fun_cases Sql.shapeOf stages with
  | case1 filters behind split keys afterSort sorted skip afterSkip skipped limit afterLimit limited
      field unfit counted =>
    rw [split] at kept
    -- a stage that stands at its place is taken, and otherwise none of its kind
    obtain ⟨sort, rfl⟩ : ∃ sort : Option (List SortKey),
        behind = (sort.map .sort).toList ++ afterSort := by
      split at sorted <;> cases sorted
      · exact ⟨some _, rfl⟩
      · exact ⟨none, rfl⟩
    obtain rfl : afterSort = (skip.map .skip).toList ++ afterSkip := by
      split at skipped <;> cases skipped <;> rfl
    obtain rfl : afterSkip = (limit.map .limit).toList ++ afterLimit := by
      split at limited <;> cases limited <;> rfl
    obtain rfl : afterLimit = (field.map .count).toList ++ unfit := by
      split at counted <;> cases counted <;> rfl
    refine ⟨⟨filters, sort, skip, limit, field⟩, ?_⟩
    rw [← kept]
    simp only [QueryPipeline.stages, windowStages, List.append_assoc]

/-- The last stage of a pipeline that comes to one query is a count exactly if its rows are
counted. -/
theorem getLast?_stages_eq_count (form : QueryPipeline) (field : String) :
    form.stages.getLast? = some (.count field) ↔ form.countField = some field := by
  cases counted : form.countField with
  | none =>
      have noCount : Stage.count field ∉ form.stages := by
        simp [stages, windowStages, counted]
      have last : form.stages.getLast? ≠ some (.count field) := fun last =>
        noCount (List.mem_of_getLast? last)
      simp [last]
  | some own =>
      rw [stages, counted, ← List.append_assoc]
      simp

variable {c : Collection}

/-- A pipeline that comes to one query is refused only for faults of the query, and otherwise it has
a statement, which counts the rows for the field that the pipeline names. -/
theorem pipeline_stages (form : QueryPipeline) :
    (∃ fault, Sql.pipeline c form.stages = .error (.invalidQuery fault)) ∨
      ∃ plan, Sql.pipeline c form.stages = .ok plan ∧ plan.countField = form.countField := by
  rw [Sql.pipeline, form.shapeOf_stages]
  dsimp only
  cases selected : Sql.select c form.query with
  | error e =>
      obtain ⟨fault, rfl⟩ := Sql.select_failsOnlyBy c form.query e selected
      exact .inl ⟨fault, rfl⟩
  | ok rows => exact .inr ⟨_, rfl, rfl⟩

end QueryPipeline

/-- **A pipeline is unsupported exactly if it does not come to one query**: filters, then at most one
each of sort keys, a number to skip, a number to keep and a count, in this order.  One that does is
refused for faults of the query only, and its statement counts the rows for a field exactly if the
last stage asks for it. -/
theorem pipeline_accepts_shape (c : Collection) :
    (∀ stages : List Stage, (∃ what, Sql.pipeline c stages = .error (.unsupported what)) ↔
        ¬∃ form : QueryPipeline, stages = form.stages) ∧
      ∀ form : QueryPipeline,
        (∃ fault, Sql.pipeline c form.stages = .error (.invalidQuery fault)) ∨
          ∃ plan, Sql.pipeline c form.stages = .ok plan ∧
            ∀ field, plan.countField = some field ↔
              form.stages.getLast? = some (.count field) := by
  constructor
  · intro stages
    constructor
    · rintro ⟨what, refused⟩ ⟨form, rfl⟩
      obtain ⟨fault, invalid⟩ | ⟨plan, written, -⟩ := form.pipeline_stages (c := c)
      · cases refused.symm.trans invalid
      · cases refused.symm.trans written
    · intro other
      obtain ⟨form, split⟩ := QueryPipeline.exists_stages_append_unfit stages
      rw [Sql.pipeline]
      dsimp only
      cases unfit : (Sql.shapeOf stages).unfit with
      | nil =>
          rw [unfit, List.append_nil] at split
          exact absurd ⟨form, split⟩ other
      | cons stage rest => exact ⟨_, rfl⟩
  · intro form
    refine form.pipeline_stages.imp_right ?_
    rintro ⟨plan, written, counted⟩
    exact ⟨plan, written, fun field => by rw [counted, form.getLast?_stages_eq_count]⟩

/-- The shape is found out before the filter: the unknown operator is not what is reported. -/
example :
    let faulty : Stage := .keep [("age", .object [("$near", .ofNat 1)])]
    let refusal (stages : List Stage) : Option StoreError :=
      match Sql.pipeline (Collection.named "people") stages with
      | .error e => some e
      | .ok _ => none
    refusal [faulty, .limit 5] = some (.invalidQuery (.unsupportedOperator "$near")) ∧
      (refusal [faulty, .limit 5, .skip 1]).any (fun e => e matches .unsupported _) := by
  decide +kernel

end DocQuery
