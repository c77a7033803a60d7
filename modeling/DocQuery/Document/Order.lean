import DocQuery.Document.Instant
import DocQuery.Json.Text

/-!
# The order of values

`Json.comparison` relates two values of one kind, as the range operators of a filter need it.
`Json.sortOrder` places any two values, as sorting needs it: kinds are ranked, numbers compare
numerically, and two texts that both are timestamps compare as instants.
-/

namespace DocQuery

/-- The order of two texts: as instants when both are timestamps, else by their characters. -/
def textOrder (a b : String) : Ordering :=
  match Instant.ofText? a, Instant.ofText? b with
  | some x, some y => x.order y
  | _, _ => compare a b

namespace Json

/-- The order of two values of the same kind; arrays, objects and mixed kinds have none. -/
def comparison : Json → Json → Option Ordering
  | .number a, .number b => some (a.order b)
  | .string a, .string b => some (textOrder a b)
  | .bool a, .bool b => some (compare a.toNat b.toNat)
  | .null, .null => some .eq
  | _, _ => none

/-- The place of a value's kind in the order of all values. -/
def kindRank : Json → Nat
  | .null => 0
  | .number _ => 1
  | .string _ => 2
  | .object _ => 3
  | .array _ => 4
  | .bool _ => 5

mutual

/-- The order of any two values.  Arrays compare element by element, objects by their text. -/
def sortOrder : Json → Json → Ordering
  | .array xs, b =>
    match b with
    | .array ys => sortOrderItems xs ys
    | b => compare (kindRank (.array xs)) b.kindRank
  | a, b =>
    match compare a.kindRank b.kindRank with
    | .eq =>
      match a with
      | .object _ => compare a.text b.text
      | _ => (a.comparison b).getD .eq
    | unequal => unequal
termination_by structural a => a

/-- Element by element; of two arrays one of which continues the other the shorter comes first. -/
def sortOrderItems : List Json → List Json → Ordering
  | [], [] => .eq
  | [], _ :: _ => .lt
  | _ :: _, [] => .gt
  | x :: xs, y :: ys => (sortOrder x y).then (sortOrderItems xs ys)
termination_by structural xs => xs

end

end Json

end DocQuery
