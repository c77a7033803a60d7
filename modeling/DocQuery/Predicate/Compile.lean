import DocQuery.Filter.Operator
import DocQuery.Pattern.Engine
import DocQuery.Predicate.Basic

/-!
# From native filters to predicates

Compiles a native filter.  A key with a dollar combines filters or searches text; any other key is a
path whose value is a literal or a map of operators.  The first fault in reading order is reported.
-/

namespace DocQuery

/-- Whether the operand of an existence test counts as true. -/
def Json.isTruthy : Json → Bool
  | .bool b => b
  | .number n => !n.toBinary64.isZero
  | .null => false
  | _ => true

/-- The pattern of a `$regex` operand under the given option letters. -/
def compilePattern [PatternReader] (pattern options : String) : Except StoreError Pattern :=
  let has (letter : Char) : Bool := options.toList.contains letter
  let flags : Pattern.Flags := { Pattern.Flags.standard with
    ignoreCase := has 'i', multiLine := has 'm', dotAll := has 's', verbose := has 'x' }
  match PatternReader.read flags pattern with
  | .ok p => .ok p
  | .error remark => .error (.invalidQuery (.invalidRegex pattern remark))

/-- The elements of an operand that has to be an array. -/
def operandList (path op : String) : Json → Except StoreError (List Json)
  | .array items => .ok items
  | _ => .error (.invalidQuery (.needsArray op path))

namespace FieldTest

/-- Several tests on one field. -/
def ofList : List FieldTest → FieldTest
  | [test] => test
  | tests => .allOf tests

/-- The test of an operator whose operand holds no filter of its own; `ops` is the operator map that
it stands in. -/
def ofOperator [PatternReader] (path : String) (ops : Document) (op : Operator) (operand : Json) :
    Except StoreError FieldTest :=
  match op with
  | .eq => .ok (.equal operand)
  | .ne => .ok (.notEqual operand)
  | .gt => .ok (.compares .gt operand)
  | .gte => .ok (.compares .gte operand)
  | .lt => .ok (.compares .lt operand)
  | .lte => .ok (.compares .lte operand)
  | .isIn => (operandList path op.native operand).map .isIn
  | .notIn => (operandList path op.native operand).map .notIn
  | .all => (operandList path op.native operand).map .hasAll
  | .exists => .ok (.exists operand.isTruthy)
  | .regex =>
    match operand with
    | .string pattern =>
      (compilePattern pattern (((ops.get? "$options").bind Json.string?).getD "")).map .matchesPattern
    | _ => .error (.invalidQuery (.regexNeedsString path))
  | .size =>
    match operand.natural? with
    | some n => .ok (.hasSize n)
    | none => .error (.invalidQuery (.sizeNeedsNatural path))
  | .elemMatch => .error (.invalidQuery (.elemMatchNeedsObject path))

end FieldTest

/-- The operator of a key inside a compiled operator map, which knows one spelling only. -/
def compiledOperator? (key : String) : Option Operator :=
  (Operator.ofNative? key).filter fun op => op.native = key

mutual

/-- Compile the members of a filter. -/
def compileClauses [PatternReader] (fields : List String) :
    List (String × Json) → Except StoreError (List Predicate)
  | [] => .ok []
  | (key, value) :: rest => do
    let part ← compileClause fields key value
    let parts ← compileClauses fields rest
    .ok (part :: parts)
termination_by structural members => members

/-- Compile one clause of a filter. -/
def compileClause [PatternReader] (fields : List String) (key : String) :
    Json → Except StoreError Predicate
  | .array items =>
    if Operator.logicalKeys.contains key then
      if items.isEmpty then .error (.invalidQuery (.needsNonEmptyArray key))
      else do
        let parts ← compileItems fields key items
        .ok (if key = "$and" then .allOf parts else if key = "$or" then .anyOf parts else .noneOf parts)
    else if key = "$text" then .error (.invalidQuery .textNeedsObject)
    else if isDollarKey key then .error (.invalidQuery (.unknownTopLevelOperator key))
    else .ok (.field key (.equal (.array items)))
  | .object members =>
    if Operator.logicalKeys.contains key then .error (.invalidQuery (.needsNonEmptyArray key))
    else if key = "$text" then
      (TextQuery.ofClause (.object members)).map fun query => .text (.ofQuery query fields)
    else if isDollarKey key then .error (.invalidQuery (.unknownTopLevelOperator key))
    else if (Json.object members).isOperatorMap then do
      let tests ← compileOperators key members members
      .ok (.field key (.ofList tests))
    else .ok (.field key (.equal (.object members)))
  | operand =>
    if Operator.logicalKeys.contains key then .error (.invalidQuery (.needsNonEmptyArray key))
    else if key = "$text" then .error (.invalidQuery .textNeedsObject)
    else if isDollarKey key then .error (.invalidQuery (.unknownTopLevelOperator key))
    else .ok (.field key (.equal operand))
termination_by structural value => value

/-- Compile the filters that a logical key combines. -/
def compileItems [PatternReader] (fields : List String) (key : String) :
    List Json → Except StoreError (List Predicate)
  | [] => .ok []
  | item :: rest => do
    let part ← compileItem fields key item
    let parts ← compileItems fields key rest
    .ok (part :: parts)
termination_by structural items => items

/-- Compile one filter that a logical key combines. -/
def compileItem [PatternReader] (fields : List String) (key : String) :
    Json → Except StoreError Predicate
  | .object members => (compileClauses fields members).map .allOf
  | _ => .error (.invalidQuery (.entriesNotObjects key))
termination_by structural item => item

/-- Compile the members of an operator map; options belong to the pattern beside them. -/
def compileOperators [PatternReader] (path : String) (ops : Document) :
    List (String × Json) → Except StoreError (List FieldTest)
  | [] => .ok []
  | (key, operand) :: rest =>
    if key = "$options" then compileOperators path ops rest
    else do
      let test ← match compiledOperator? key with
        | some .elemMatch => compileElement path operand
        | some op => FieldTest.ofOperator path ops op operand
        | none => .error (.invalidQuery (.unknownOperator key path))
      let tests ← compileOperators path ops rest
      .ok (test :: tests)
termination_by structural members => members

/-- Compile the operand of an element test: operators on the element, or a filter on its members. -/
def compileElement [PatternReader] (path : String) : Json → Except StoreError FieldTest
  | .object members =>
    if (Json.object members).isOperatorMap then
      (compileOperators path members members).map fun tests => .someElement (.ofList tests)
    else (compileClauses [] members).map fun parts => .someObject (.allOf parts)
  | _ => .error (.invalidQuery (.elemMatchNeedsObject path))
termination_by structural operand => operand

end

/-- The predicate of a native filter; `fields` are the paths that text clauses search. -/
def Predicate.compile [PatternReader] (filter : Document) (fields : List String) :
    Except StoreError Predicate :=
  (compileClauses fields filter).map .allOf

end DocQuery
