import DocQuery.Document.Order
import DocQuery.Document.Path
import DocQuery.Pattern.Basic
import DocQuery.Search.Matcher

/-!
# Predicates on documents

A compiled filter.  A field test sees every value that is reachable at its path, and for an array
also the elements of the array.

A text clause that matches records the relevance of the document.  The record is carried from clause
to clause: a later text clause overwrites it, a failing one leaves it, and what happens inside a
negation or an array element does not touch it.

## Main definitions

* `Predicate`, `FieldTest`
* `Predicate.evaluate`: whether a document matches, and the relevance recorded on the way
-/

namespace DocQuery

/-- A comparison with an operand. -/
inductive Comparison where
  | gt
  | gte
  | lt
  | lte
deriving DecidableEq

/-- Whether a comparison holds for an order of value and operand. -/
def Comparison.holds : Comparison → Ordering → Bool
  | .gt, order => order == .gt
  | .gte, order => order != .lt
  | .lt, order => order == .lt
  | .lte, order => order != .gt

mutual

/-- A compiled filter. -/
inductive Predicate where
  | allOf (parts : List Predicate)
  | anyOf (parts : List Predicate)
  | noneOf (parts : List Predicate)
  | field (path : String) (test : FieldTest)
  | text (matcher : TextMatcher)

/-- A test on the values reachable at a path. -/
inductive FieldTest where
  | equal (operand : Json)
  | notEqual (operand : Json)
  | compares (comparison : Comparison) (operand : Json)
  | isIn (operands : List Json)
  | notIn (operands : List Json)
  | hasAll (operands : List Json)
  | exists (expected : Bool)
  | matchesPattern (pattern : Pattern)
  | hasSize (count : Nat)
  /-- An element of an array is an object that matches. -/
  | someObject (predicate : Predicate)
  /-- An element of an array passes a test. -/
  | someElement (test : FieldTest)
  | allOf (tests : List FieldTest)

end

/-- Equality of a reached value with an operand: two numbers are equal numerically. -/
def Json.matchesOperand (value operand : Json) : Bool :=
  match value, operand with
  | .number a, .number b => a.order b == .eq
  | a, b => a.equal b

/-- The reached values, each followed by its elements if it is an array. -/
def candidates (values : List Json) : List Json :=
  values.flatMap fun v => v :: v.array?.getD []

/-- Some candidate equals the operand, or the operand is null and nothing was reached. -/
def equalsSome (values : List Json) (operand : Json) : Bool :=
  (operand matches .null && values.isEmpty) ||
    (candidates values).any (·.matchesOperand operand)

mutual

/-- Whether a document matches, and the relevance after looking, given the one before. -/
def Predicate.evaluate : Predicate → Document → Option Binary64 → Bool × Option Binary64
  | .allOf parts, doc, score => evaluateAll parts doc score
  | .anyOf parts, doc, score => evaluateAny parts doc score
  | .noneOf parts, doc, score => (!(evaluateAny parts doc none).1, score)
  | .field path test, doc, score => (test.holds (doc.lookup path), score)
  | .text matcher, doc, score =>
    match matcher.score? doc with
    | some s => (true, some s)
    | none => (false, score)
termination_by structural p => p

/-- All parts match; the first that does not ends the search. -/
def evaluateAll : List Predicate → Document → Option Binary64 → Bool × Option Binary64
  | [], _, score => (true, score)
  | p :: ps, doc, score =>
    match p.evaluate doc score with
    | (true, score) => evaluateAll ps doc score
    | (false, score) => (false, score)
termination_by structural ps => ps

/-- Some part matches; the first that does ends the search. -/
def evaluateAny : List Predicate → Document → Option Binary64 → Bool × Option Binary64
  | [], _, score => (false, score)
  | p :: ps, doc, score =>
    match p.evaluate doc score with
    | (true, score) => (true, score)
    | (false, score) => evaluateAny ps doc score
termination_by structural ps => ps

/-- Whether the values reached at a path pass a test; none reached means that the field is missing. -/
def FieldTest.holds : FieldTest → List Json → Bool
  | .equal operand, values => equalsSome values operand
  | .notEqual operand, values => !equalsSome values operand
  | .compares comparison operand, values =>
    (candidates values).any fun c => (c.comparison operand).any comparison.holds
  | .isIn operands, values => operands.any (equalsSome values)
  | .notIn operands, values => !operands.any (equalsSome values)
  | .hasAll operands, values => !operands.isEmpty && operands.all (equalsSome values)
  | .exists expected, values => !values.isEmpty == expected
  | .matchesPattern pattern, values =>
    (candidates values).any fun c => c.string?.any pattern.matchesIn
  | .hasSize count, values => values.any fun v => v.array?.any fun items => items.length == count
  | .someObject predicate, values =>
    values.any fun v => v.array?.any fun items => items.any fun item =>
      item.object?.any fun doc => (predicate.evaluate doc none).1
  | .someElement test, values =>
    values.any fun v => v.array?.any fun items => items.any fun item => test.holds [item]
  | .allOf tests, values => holdsAll tests values
termination_by structural t => t

/-- All tests pass. -/
def holdsAll : List FieldTest → List Json → Bool
  | [], _ => true
  | t :: ts, values => t.holds values && holdsAll ts values
termination_by structural ts => ts

end

/-- Whether a document matches. -/
def Predicate.matchesDocument (p : Predicate) (doc : Document) : Bool := (p.evaluate doc none).1

end DocQuery
