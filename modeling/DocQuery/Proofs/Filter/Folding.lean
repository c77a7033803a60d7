import DocQuery.Proofs.Filter.Mapping
import DocQuery.Proofs.Predicate.Meaning

/-!
# Operator maps under folding

The clause of a field is a literal or an operator map, and folding a part into the clauses may turn
the one into the other.  An operator map comes into being in two ways only: the value of an
equality may be one, which then becomes the clause of its field, or a literal becomes one when
another test joins it.  From there on it grows operator by operator.

So a property of operator maps that further equality tests keep (`AllowsEquality`) holds of all
mapped operator maps if it holds of the values of equalities and if every other part keeps it
(`operatorMapsHave_mapFilters`).

## Main definitions

* `OperatorMapsHave`: every operator map among some clauses has a property
* `withOperand`: an operator map and one more operand
* `FilterPart.Keeps`, `operatorMapsHave_mapFilters`
-/

namespace DocQuery

/-- Every operator map among some clauses has a property. -/
def OperatorMapsHave (R : Document → Prop) (clauses : Document) : Prop :=
  ∀ member ∈ clauses, ∀ ops, member.2.operators? = some ops → R ops

/-- A property of operator maps that holds of no operators and that further equality tests keep: a
first one, or those of a list that all have to hold. -/
structure AllowsEquality (R : Document → Prop) : Prop where
  empty : R []
  eq : ∀ {ops} value, R ops → R (ops.insert "$eq" value)
  all : ∀ {ops} items, R ops → R (ops.insert "$all" (.array items))

/-- An operator map and one more operand. -/
def withOperand (ops : Document) (op : Operator) : Operand → Document
  | .single value => ops.insert op.native value
  | .regex pattern none => ops.insert "$regex" (.string pattern)
  | .regex pattern (some options) =>
    (ops.insert "$regex" (.string pattern)).insert "$options" (.string options)

/-- Folding a part into clauses keeps a property of the operator maps among them. -/
def FilterPart.Keeps (R : Document → Prop) : FilterPart → Prop
  | ⟨_, .equality value⟩ => ∀ ops, value.operators? = some ops → R ops
  | ⟨_, .operand op operand⟩ => op ≠ .eq ∧ ∀ ops, R ops → R (withOperand ops op operand)
  | ⟨_, .member key value⟩ => key ≠ "$eq" ∧ ∀ ops, R ops → R (ops.insert key value)
  | ⟨_, .logical value⟩ => ∀ ops, value.operators? = some ops → R ops

/-! ### The operator map of a field -/

namespace Clauses

/-- The operator map that the next test of a field joins. -/
def operatorsAt (clauses : Document) (field : String) : Document :=
  match clauses.get? field with
  | none => []
  | some present => operatorsOf present

theorem isDollarKey_of_mem_operatorsOf {present : Json} {member : String × Json}
    (mem : member ∈ operatorsOf present) : isDollarKey member.1 = true := by
  unfold operatorsOf at mem
  split at mem
  · cases mem
  · cases isMap : present.operators? with
      | none =>
          rw [isMap] at mem
          rw [List.mem_singleton.mp mem]
          show isDollarKey "$eq" = true
          decide
      | some ops =>
          rw [isMap] at mem
          exact (Json.operators?_eq_some_iff.mp isMap).2.2 member mem

theorem isDollarKey_of_mem_operatorsAt {clauses : Document} {field : String}
    {member : String × Json} (mem : member ∈ operatorsAt clauses field) :
    isDollarKey member.1 = true := by
  unfold operatorsAt at mem
  split at mem
  · cases mem
  · exact isDollarKey_of_mem_operatorsOf mem

/-- An operator map that an operator joins is an operator map. -/
theorem operators?_insert {ops : Document} {key : String} {value : Json}
    (dollar : ∀ member ∈ ops, isDollarKey member.1 = true) (joins : isDollarKey key = true) :
    (Json.object (ops.insert key value)).operators? = some (ops.insert key value) := by
  refine Json.operators?_eq_some_iff.mpr ⟨rfl, Document.insert_ne_nil, fun member mem => ?_⟩
  rcases Document.mem_of_mem_insert mem with rfl | mem
  · exact joins
  · exact dollar member mem

/-- An operator map that an operator has joined is the operator map of its clause. -/
theorem operatorsOf_insert {ops : Document} {key : String} {value : Json}
    (dollar : ∀ member ∈ ops, isDollarKey member.1 = true) (joins : isDollarKey key = true) :
    operatorsOf (.object (ops.insert key value)) = ops.insert key value := by
  unfold operatorsOf
  split
  · next empty => exact absurd (Json.object.inj empty) Document.insert_ne_nil
  · rw [operators?_insert dollar joins, Option.getD_some]

theorem addOperator_of_ne {clauses : Document} {field op : String} {value : Json}
    (notEq : op ≠ "$eq") :
    addOperator clauses field op value =
      clauses.insert field (.object ((operatorsAt clauses field).insert op value)) := by
  rw [addOperator, if_neg notEq]
  rfl

/-- Adding an operand other than that of an equality adds it to the operator map of the field. -/
theorem addOperand_eq {clauses : Document} {field : String} {op : Operator} {operand : Operand}
    (notEq : op ≠ .eq) :
    addOperand clauses field op operand =
      clauses.insert field (.object (withOperand (operatorsAt clauses field) op operand)) := by
  cases operand with
  | single value =>
      have native : op.native ≠ "$eq" := by
        cases op with
        | eq => exact absurd rfl notEq
        | _ => decide
      exact addOperator_of_ne native
  | regex pattern options =>
      cases options with
      | none => exact addOperator_of_ne (by decide)
      | some options =>
          simp only [addOperand]
          rw [addOperator_of_ne (by decide), addOperator_of_ne (by decide),
            Document.insert_insert_self]
          -- the pattern stands in the operator map when its options join it
          have present : operatorsAt (clauses.insert field (.object
              ((operatorsAt clauses field).insert "$regex" (.string pattern)))) field =
                (operatorsAt clauses field).insert "$regex" (.string pattern) := by
            rw [operatorsAt, Document.get?_insert_self]
            exact operatorsOf_insert (fun member mem => isDollarKey_of_mem_operatorsAt mem)
              (by decide)
          rw [present]
          rfl

end Clauses

/-! ### Folding part by part -/

section

variable {R : Document → Prop} {clauses : Document} {field : String}

theorem OperatorMapsHave.of_get? {clause : Json} {ops : Document}
    (holds : OperatorMapsHave R clauses) (found : clauses.get? field = some clause)
    (isMap : clause.operators? = some ops) : R ops :=
  holds _ (Document.mem_of_get? found) ops isMap

theorem OperatorMapsHave.insert {clause : Json} (holds : OperatorMapsHave R clauses)
    (new : ∀ ops, clause.operators? = some ops → R ops) :
    OperatorMapsHave R (clauses.insert field clause) := by
  intro member mem ops isMap
  rcases Document.mem_of_mem_insert mem with rfl | mem
  · exact new ops isMap
  · exact holds member mem ops isMap

theorem OperatorMapsHave.insert_object {ops : Document} (holds : OperatorMapsHave R clauses)
    (new : R ops) : OperatorMapsHave R (clauses.insert field (.object ops)) :=
  holds.insert fun _ isMap =>
    Json.object.inj (Json.operators?_eq_some_iff.mp isMap).1 ▸ new

/-- The operator map that a test joins has what the present clauses have. -/
theorem OperatorMapsHave.operatorsAt (holds : OperatorMapsHave R clauses)
    (allows : AllowsEquality R) : R (Clauses.operatorsAt clauses field) := by
  unfold Clauses.operatorsAt
  split
  · exact allows.empty
  · next present found =>
      unfold Clauses.operatorsOf
      split
      · exact allows.empty
      · cases isMap : present.operators? with
        | none => exact allows.eq present allows.empty
        | some ops => exact holds.of_get? found isMap

theorem AllowsEquality.addEqualOperator (allows : AllowsEquality R) {ops : Document} (holds : R ops)
    (value : Json) : R (Clauses.addEqualOperator ops value) := by
  unfold Clauses.addEqualOperator
  split
  · exact allows.eq value holds
  · split
    · exact holds
    · split
      · exact allows.all _ holds
      · exact allows.all _ holds
      · exact holds

theorem OperatorMapsHave.addEqual (holds : OperatorMapsHave R clauses) (allows : AllowsEquality R)
    {value : Json} (new : ∀ ops, value.operators? = some ops → R ops) :
    OperatorMapsHave R (Clauses.addEqual clauses field value) := by
  unfold Clauses.addEqual
  split
  · exact holds.insert new
  · next present found =>
      split
      · next ops isMap =>
          exact holds.insert_object (allows.addEqualOperator (holds.of_get? found isMap) value)
      · split
        · exact holds
        · exact holds.insert_object (allows.all _ allows.empty)

/-- Folding a part that keeps a property keeps it for all operator maps. -/
theorem OperatorMapsHave.addTo (holds : OperatorMapsHave R clauses) (allows : AllowsEquality R)
    {part : FilterPart} (keeps : part.Keeps R) : OperatorMapsHave R (part.addTo clauses) := by
  obtain ⟨field, addition⟩ := part
  cases addition with
  | equality value => exact holds.addEqual allows keeps
  | operand op operand =>
      obtain ⟨notEq, keeps⟩ := keeps
      rw [FilterPart.addTo, Clauses.addOperand_eq notEq]
      exact holds.insert_object (keeps _ (holds.operatorsAt allows))
  | member key value =>
      obtain ⟨notEq, keeps⟩ := keeps
      rw [FilterPart.addTo, Clauses.addOperator_of_ne notEq]
      exact holds.insert_object (keeps _ (holds.operatorsAt allows))
  | logical value => exact holds.insert keeps

/-- **The operator maps of a mapped filter** have every property that further equality tests keep
and that every accepted part keeps. -/
theorem operatorMapsHave_mapFilters [PatternReader] {filters : Document} {trust : Trust}
    (allows : AllowsEquality R)
    (keeps : ∀ entry ∈ filters, ∀ part, .ok part ∈ FilterPart.ofEntry trust entry → part.Keeps R) :
    OperatorMapsHave R (mapFilters filters trust).clauses := by
  refine mapFilters_parts_induction (fun _ mem => absurd mem List.not_mem_nil) ?_
  rintro clauses part ⟨entry, inFilters, mem⟩ holds
  exact holds.addTo allows (keeps entry inFilters part mem)

end

end DocQuery
