import DocQuery.Predicate.Compile
import DocQuery.Sql.TextSearch

/-!
# From native filters to SQL conditions

Every test of a field becomes a condition on the JSON expression of its path.  Operands get into the
text as string literals that hold JSON; the first fault in reading order is reported.

## Main definitions

* `Sql.equalTo`, `Sql.comparedTo`: tests of one operand
* `Sql.compileFilter`: the condition of a filter
-/

namespace DocQuery.Sql

/-- The value at an expression equals an operand, or is an array that holds it. -/
def equalTo (expr : String) (operand : Json) : Expr :=
  match operand with
  | .null => .plain s!"({expr} IS NULL OR {expr} = 'null'::jsonb)"
  | operand => .fragment [
      .plain s!"({expr} = ", .literal operand.text,
      .plain s!"::jsonb OR (jsonb_typeof({expr}) = 'array' AND {expr} @> ",
      .literal (Json.array [operand]).text, .plain "::jsonb))"]

/-- The value at an expression is of the kind of the operand and stands to it as asked. -/
def comparedTo (expr symbol : String) (operand : Json) : Expr :=
  .fragment [
    .plain s!"(jsonb_typeof({expr}) = jsonb_typeof(", .literal operand.text,
    .plain s!"::jsonb) AND {expr} {symbol} ", .literal operand.text, .plain "::jsonb)"]

/-- The value at an expression equals one of the operands. -/
def equalToAny (expr : String) (operands : List Json) : Expr :=
  if operands.isEmpty then .plain "FALSE" else .join .any (operands.map (equalTo expr))

/-- The value at an expression equals all operands. -/
def equalToAll (expr : String) (operands : List Json) : Expr :=
  if operands.isEmpty then .plain "FALSE" else .join .all (operands.map (equalTo expr))

/-- A match with operands fails.  A missing value matches none of them unless one is null. -/
def matchesNone (expr : String) (matched : Expr) (operands : List Json) : Expr :=
  if operands.any (· matches .null) then .negated matched
  else .join .any [.plain s!"{expr} IS NULL", .negated matched]

/-- The elements of an operand that has to be an array. -/
def elements (op : Operator) : Json → Except StoreError (List Json)
  | .array items => .ok items
  | _ => .error (.invalidQuery (.operandNotArray op.native))

/-- The value at an expression is a text that matches a pattern. -/
def matchesPattern (expr : String) (ignoreCase : Bool) (pattern : String) : Expr :=
  let symbol := if ignoreCase then "~*" else "~"
  .fragment [
    .plain s!"(jsonb_typeof({expr}) = 'string' AND ({textAt expr}) {symbol} ",
    .literal pattern, .plain ")"]

/-- The condition of an operator whose operand holds no filter of its own; `ops` is the operator map
that it stands in.  An operator that excludes nothing has none. -/
def operatorCondition (expr : String) (ops : Document) (op : Operator) (operand : Json) :
    Except StoreError (Option Expr) :=
  match op with
  | .eq => .ok (some (equalTo expr operand))
  | .ne => .ok (some (matchesNone expr (equalTo expr operand) [operand]))
  | .gt => .ok (some (comparedTo expr ">" operand))
  | .gte => .ok (some (comparedTo expr ">=" operand))
  | .lt => .ok (some (comparedTo expr "<" operand))
  | .lte => .ok (some (comparedTo expr "<=" operand))
  | .isIn => (elements op operand).map fun items => some (equalToAny expr items)
  | .notIn => (elements op operand).map fun items =>
      if items.isEmpty then none else some (matchesNone expr (equalToAny expr items) items)
  | .all => (elements op operand).map fun items => some (equalToAll expr items)
  | .exists =>
    .ok (some (.plain (if operand.isTruthy then s!"{expr} IS NOT NULL" else s!"{expr} IS NULL")))
  | .regex =>
    match operand with
    | .string pattern =>
      let ignoreCase := ((ops.get? "$options").bind Json.string?).any fun o => o.toList.contains 'i'
      .ok (some (matchesPattern expr ignoreCase pattern))
    | _ => .error (.invalidQuery (.operandNotString op.native))
  | .size =>
    match operand.natural? with
    | some n => .ok (some (.plain
        s!"(jsonb_typeof({expr}) = 'array' AND jsonb_array_length({expr}) = {n})"))
    | none => .error (.invalidQuery (.operandNotNatural op.native))
  | .elemMatch => .error (.invalidQuery (.operandNotObject op.native))

/-- Some element of the array at an expression satisfies a condition on `value`. -/
def someElement (expr : String) (condition : Expr) : Expr :=
  .fragment (.plain (s!"EXISTS (SELECT 1 FROM jsonb_array_elements(CASE WHEN jsonb_typeof({expr}) "
      ++ s!"= 'array' THEN {expr} ELSE '[]'::jsonb END) AS elem(value) WHERE ")
    :: condition.render ++ [.plain ")"])

mutual

/-- The conditions of an operator map; options belong to the pattern beside them. -/
def compileOperatorMap (expr : String) (ops : Document) :
    List (String × Json) → Except StoreError (List Expr)
  | [] => .ok []
  | (key, operand) :: rest =>
    if key = "$options" then compileOperatorMap expr ops rest
    else do
      let condition ← match compiledOperator? key with
        | some .elemMatch => compileElementTest expr operand
        | some op => operatorCondition expr ops op operand
        | none => .error (.invalidQuery (.unsupportedOperator key))
      let conditions ← compileOperatorMap expr ops rest
      .ok (condition.toList ++ conditions)
termination_by structural members => members

/-- The condition of the operand of an element test. -/
def compileElementTest (expr : String) : Json → Except StoreError (Option Expr)
  | .object members =>
    if (Json.object members).isOperatorMap then do
      let conditions ← compileOperatorMap "value" members members
      .ok (some (someElement expr (.join .all conditions)))
    else do
      let conditions ← compileElementClauses members
      .ok (some (someElement expr (.join .all conditions)))
  | _ => .error (.invalidQuery (.operandNotObject "$elemMatch"))
termination_by structural operand => operand

/-- The conditions on the members of an element. -/
def compileElementClauses : List (String × Json) → Except StoreError (List Expr)
  | [] => .ok []
  | (key, operand) :: rest =>
    if isDollarKey key then .error (.invalidQuery (.keyInElement key))
    else do
      let expr ← pathExpr "value" key
      let condition ← compileFieldTest expr operand
      let conditions ← compileElementClauses rest
      .ok (condition :: conditions)
termination_by structural members => members

/-- The condition of a field: an operator map or an operand to equal. -/
def compileFieldTest (expr : String) : Json → Except StoreError Expr
  | .object members =>
    if (Json.object members).isOperatorMap then
      (compileOperatorMap expr members members).map (.join .all)
    else .ok (equalTo expr (.object members))
  | operand => .ok (equalTo expr operand)
termination_by structural operand => operand

end

/-- The condition of a member of a filter that does not combine filters; a text search may stand at
the top only. -/
def compilePlain (fields : List String) (top : Bool) (key : String) (value : Json) :
    Except StoreError Expr :=
  if Operator.logicalKeys.contains key then .error (.invalidQuery (.needsNonEmptyArray key))
  else if key = "$text" then
    if top then do textCondition fields (← TextQuery.ofClause value)
    else .error (.invalidQuery .textBelowTopLevel)
  else if isDollarKey key then .error (.invalidQuery (.unknownTopLevelOperator key))
  else do compileFieldTest (← pathExpr docColumn key) value

mutual

/-- The conditions of the members of a filter. -/
def compileMembers (fields : List String) (top : Bool) :
    List (String × Json) → Except StoreError (List Expr)
  | [] => .ok []
  | (key, value) :: rest => do
    let condition ← compileMember fields top key value
    let conditions ← compileMembers fields top rest
    .ok (condition :: conditions)
termination_by structural members => members

/-- The condition of a member of a filter. -/
def compileMember (fields : List String) (top : Bool) (key : String) :
    Json → Except StoreError Expr
  | .array items =>
    if Operator.logicalKeys.contains key then
      if items.isEmpty then .error (.invalidQuery (.needsNonEmptyArray key))
      else do
        let conditions ← compileAlternatives fields key items
        let joined := Expr.join (if key = "$and" then .all else .any) conditions
        .ok (if key = "$nor" then .negated joined else joined)
    else compilePlain fields top key (.array items)
  | value => compilePlain fields top key value
termination_by structural value => value

/-- The conditions of the filters that a logical key combines. -/
def compileAlternatives (fields : List String) (key : String) :
    List Json → Except StoreError (List Expr)
  | [] => .ok []
  | item :: rest => do
    let condition ← compileAlternative fields key item
    let conditions ← compileAlternatives fields key rest
    .ok (condition :: conditions)
termination_by structural items => items

/-- The condition of one filter that a logical key combines. -/
def compileAlternative (fields : List String) (key : String) : Json → Except StoreError Expr
  | .object members => (compileMembers fields false members).map (.join .all)
  | _ => .error (.invalidQuery (.entriesNotObjects key))
termination_by structural item => item

end

/-- The condition of a whole filter; `fields` are the paths that a text search covers. -/
def compileFilter (fields : List String) (filter : Document) : Except StoreError Expr :=
  (compileMembers fields true filter).map (.join .all)

end DocQuery.Sql
