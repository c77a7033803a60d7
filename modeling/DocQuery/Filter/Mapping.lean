import DocQuery.Filter.Operand
import DocQuery.Query.Diagnostic

/-!
# From flat filter maps to native clauses

A flat filter map has entries such as `age_gte` or `tags_in`.  Each entry contributes to the clause
of its field; several entries for one field are folded into one operator map.  A malformed entry is
left out and reported.

## Main definitions

* `Trust`: whether a filter map is a default of the service or input of a client
* `Clauses.addEqual`, `Clauses.addOperator`: fold one test into the clauses
* `mapFilters`: the native clauses of a flat filter map
-/

namespace DocQuery

/-- Where a filter map comes from. -/
inductive Trust where
  /-- Enforced defaults, which may use the logical keys. -/
  | trusted
  /-- Input of a client, which may use known operators only. -/
  | untrusted
deriving DecidableEq

namespace Clauses

/-- Add an equality to an operator map.  A second, different one becomes a member of `$all`, which
holds only where both values match. -/
def addEqualOperator (ops : Document) (value : Json) : Document :=
  match ops.get? "$eq" with
  | none => ops.insert "$eq" value
  | some first =>
    if first.equal value then ops
    else
      match ops.get? "$all" with
      | none => ops.insert "$all" (.array [value])
      | some (.array items) => ops.insert "$all" (.array (items ++ [value]))
      | some _ => ops

/-- Add an equality test for a field. -/
def addEqual (clauses : Document) (field : String) (value : Json) : Document :=
  match clauses.get? field with
  | none => clauses.insert field value
  | some present =>
    match present.operators? with
    | some ops => clauses.insert field (.object (addEqualOperator ops value))
    | none =>
      if present.equal value then clauses
      else clauses.insert field (.object [("$all", .array [present, value])])

/-- The operator map that a present clause becomes when an operator joins it. -/
def operatorsOf (present : Json) : Document :=
  match present with
  | .object [] => []
  | clause => clause.operators?.getD [("$eq", clause)]

/-- Add an operator to the clause of a field.  A later operand replaces an earlier one of the same
operator, and a literal clause counts as an equality. -/
def addOperator (clauses : Document) (field op : String) (value : Json) : Document :=
  if op = "$eq" then addEqual clauses field value
  else
    let ops : Document := match clauses.get? field with
      | none => []
      | some present => operatorsOf present
    clauses.insert field (.object (ops.insert op value))

/-- Add a native operand to the clause of a field. -/
def addOperand (clauses : Document) (field : String) (op : Operator) : Operand → Document
  | .single value => addOperator clauses field op.native value
  | .regex pattern options =>
    let clauses := addOperator clauses field "$regex" (.string pattern)
    match options with
    | some options => addOperator clauses field "$options" (.string options)
    | none => clauses

end Clauses

/-- Native clauses and what was left out on the way to them. -/
structure MappedFilters where
  clauses : Document
  diagnostics : List Diagnostic

namespace MappedFilters

/-- No clauses and nothing left out. -/
def empty : MappedFilters := ⟨[], []⟩

/-- Report a fault of an entry. -/
def refuse (out : MappedFilters) (key : String) (fault : OperandFault) : MappedFilters :=
  { out with diagnostics := out.diagnostics ++ [.malformedFilter key fault.reason] }

/-- Bring an operand into its native form and fold it into the clause of its field. -/
def addTest [PatternReader] (out : MappedFilters) (key field : String) (op : Operator)
    (value : Json) :
    MappedFilters :=
  match Operand.coerce op value with
  | .ok operand => { out with clauses := Clauses.addOperand out.clauses field op operand }
  | .error fault => out.refuse key fault

/-- Fold a member of a native operator map into the clause of its field. -/
def addNative [PatternReader] (out : MappedFilters) (key field : String) (member : String × Json) :
    MappedFilters :=
  match Operator.ofNative? member.1 with
  | some op => out.addTest s!"{key}.{member.1}" field op member.2
  | none => { out with clauses := Clauses.addOperator out.clauses field member.1 member.2 }

/-- The first key of an operator map that clients may not use. -/
def forbiddenKey? (ops : Document) : Option String :=
  ops.keys.find? fun key => !Operator.clientKeys.contains key

/-- Fold a value given without a test into the clause of its field: an operator map by its members,
anything else as an equality. -/
def addBare [PatternReader] (trust : Trust) (out : MappedFilters) (key field : String)
    (value : Json) :
    MappedFilters :=
  match value.operators? with
  | none => { out with clauses := Clauses.addEqual out.clauses field value }
  | some ops =>
    match (if trust = .untrusted then forbiddenKey? ops else none) with
    | some bad => out.refuse key (.unsupportedOperator bad)
    | none => ops.foldl (fun out member => out.addNative key field member) out

/-- Fold the bounds of a range into the clause of its field. -/
def addBetween (out : MappedFilters) (key field : String) (value : Json) : MappedFilters :=
  match Operand.bounds value with
  | .ok (low, high) =>
    let clauses := Clauses.addOperator out.clauses field "$gte" (.number low)
    { out with clauses := Clauses.addOperator clauses field "$lte" (.number high) }
  | .error fault => out.refuse key fault

/-- Fold one entry of a flat filter map into the clauses. -/
def addEntry [PatternReader] (trust : Trust) (out : MappedFilters) (entry : String × Json) :
    MappedFilters :=
  let (key, value) := entry
  if isDollarKey key then
    if trust = .trusted ∧ Operator.logicalKeys.contains key then
      { out with clauses := out.clauses.insert key value }
    else out.refuse key .operatorKey
  else
    match FilterKey.parse key with
    | ⟨field, none⟩ => out.addBare trust key field value
    | ⟨field, some .between⟩ => out.addBetween key field value
    | ⟨field, some (.operator op)⟩ => out.addTest key field op value

end MappedFilters

/-- The native clauses of a flat filter map, entry by entry. -/
def mapFilters [PatternReader] (filters : Document) (trust : Trust) : MappedFilters :=
  filters.foldl (MappedFilters.addEntry trust) .empty

end DocQuery
