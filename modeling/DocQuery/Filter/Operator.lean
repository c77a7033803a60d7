import DocQuery.Json.Basic
import DocQuery.Text.Blank

/-!
# Operators of a filter

The thirteen operators that test the values of a field.  In a native filter an operator is a key
with a dollar in front; in a flat filter map it is the part of a key behind its last underscore.

## Main definitions

* `Operator`, `Operator.native`, `Operator.ofNative?`
* `FilterKey.parse`: the field and the operator of a flat key
* `Json.isOperatorMap`: whether a clause holds operators rather than a literal
-/

namespace DocQuery

/-- An operator on the values of a field. -/
inductive Operator where
  | eq
  | ne
  | gt
  | gte
  | lt
  | lte
  | isIn
  | notIn
  | all
  | exists
  | regex
  | size
  | elemMatch
deriving DecidableEq

namespace Operator

/-- The name of an operator behind the underscore of a flat key.  One name has two spellings. -/
def ofSuffix? (suffix : String) : Option Operator :=
  match suffix with
  | "eq" => some .eq
  | "ne" => some .ne
  | "gt" => some .gt
  | "gte" => some .gte
  | "lt" => some .lt
  | "lte" => some .lte
  | "in" => some .isIn
  | "nin" => some .notIn
  | "all" => some .all
  | "exists" => some .exists
  | "regex" => some .regex
  | "size" => some .size
  | "elemMatch" | "elemmatch" => some .elemMatch
  | _ => none

/-- The operator of a native key. -/
def ofNative? (key : String) : Option Operator :=
  (Text.stripStart? '$' key).bind ofSuffix?

/-- The native key of an operator. -/
def native : Operator → String
  | .eq => "$eq"
  | .ne => "$ne"
  | .gt => "$gt"
  | .gte => "$gte"
  | .lt => "$lt"
  | .lte => "$lte"
  | .isIn => "$in"
  | .notIn => "$nin"
  | .all => "$all"
  | .exists => "$exists"
  | .regex => "$regex"
  | .size => "$size"
  | .elemMatch => "$elemMatch"

/-- The native keys that a client may use inside an operator map. -/
def clientKeys : List String :=
  ["$eq", "$ne", "$gt", "$gte", "$lt", "$lte", "$in", "$nin", "$all", "$exists", "$regex",
    "$options", "$size", "$elemMatch"]

/-- The keys that combine whole filters. -/
def logicalKeys : List String := ["$and", "$or", "$nor"]

end Operator

/-- Whether a key is written with a dollar in front. -/
def isDollarKey (key : String) : Bool := Text.startsWith '$' key

/-- What the suffix of a flat key asks for. -/
inductive FilterKey.Test where
  | operator (op : Operator)
  /-- A range with two bounds. -/
  | between
deriving DecidableEq

/-- The text by which a test is known outside. -/
def FilterKey.Test.name : FilterKey.Test → String
  | .operator op => op.native
  | .between => "between"

/-- A key of a flat filter map. -/
structure FilterKey where
  field : String
  test : Option FilterKey.Test
deriving DecidableEq

namespace FilterKey

/-- The test that a suffix names. -/
def testOfSuffix? (suffix : String) : Option Test :=
  if suffix = "between" then some .between else (Operator.ofSuffix? suffix).map .operator

/-- Split a key at its last underscore.  Where the suffix names no test, or no field is left, the
whole key is the name of a field. -/
def parse (key : String) : FilterKey :=
  match Text.splitLast '_' key.toList with
  | some (field, suffix) =>
    if field.isEmpty then ⟨key, none⟩
    else
      match testOfSuffix? (String.ofList suffix) with
      | some test => ⟨String.ofList field, some test⟩
      | none => ⟨key, none⟩
  | none => ⟨key, none⟩

end FilterKey

/-- Whether a clause is a map of operators: a non-empty object all of whose keys have a dollar. -/
def Json.isOperatorMap : Json → Bool
  | .object members => !members.isEmpty && members.all fun member => isDollarKey member.1
  | _ => false

/-- The operators of a clause, if it is a map of operators. -/
def Json.operators? (clause : Json) : Option Document :=
  if clause.isOperatorMap then clause.object? else none

end DocQuery
