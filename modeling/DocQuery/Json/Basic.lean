import DocQuery.Number.Basic

/-!
# JSON values

The values that documents, filters and requests are made of.  An object is a list of members in
order of first arrival, because that order shows in results; the operations of `Document` keep the
keys of an object distinct.

## Main definitions

* `Json`: a value
* `Document`: the members of an object
* `Document.get?`, `Document.insert`, `Document.erase`: access by key
* `Json.equal`: equality of values, blind to the order of keys
-/

namespace DocQuery

/-- A JSON value. -/
inductive Json where
  | null
  | bool (value : Bool)
  | number (value : Number)
  | string (value : String)
  | array (items : List Json)
  | object (members : List (String × Json))

instance : Inhabited Json := ⟨.null⟩

/-- The members of an object in order; also a stored record and a filter. -/
abbrev Document := List (String × Json)

namespace Document

/-- The value at a key. -/
def get? : Document → String → Option Json
  | [], _ => none
  | (k, v) :: rest, key => if k = key then some v else get? rest key

/-- Write a value: a present key keeps its position, a new one goes to the end. -/
def insert : Document → String → Json → Document
  | [], key, value => [(key, value)]
  | (k, v) :: rest, key, value =>
    if k = key then (k, value) :: rest else (k, v) :: insert rest key value

/-- Remove a key; the other members keep their order. -/
def erase (doc : Document) (key : String) : Document :=
  doc.filter fun member => member.1 ≠ key

/-- The keys in order. -/
def keys (doc : Document) : List String := doc.map Prod.fst

/-- Whether a key is present. -/
def contains (doc : Document) (key : String) : Bool := (doc.get? key).isSome

/-- Build a document from members in order; of a repeated key the last value counts. -/
def ofMembers (members : List (String × Json)) : Document :=
  members.foldl (fun doc member => doc.insert member.1 member.2) []

@[simp] theorem get?_nil (key : String) : get? [] key = none := rfl

theorem get?_cons (k : String) (v : Json) (rest : Document) (key : String) :
    get? ((k, v) :: rest) key = if k = key then some v else get? rest key := rfl

@[simp] theorem get?_insert_self (doc : Document) (key : String) (value : Json) :
    (doc.insert key value).get? key = some value := by
  induction doc with
  | nil => simp [insert, get?]
  | cons member rest ih =>
    obtain ⟨k, v⟩ := member
    by_cases h : k = key <;> simp [insert, get?, h, ih]

theorem get?_insert_of_ne (doc : Document) {key other : String} (value : Json)
    (h : other ≠ key) : (doc.insert key value).get? other = doc.get? other := by
  induction doc with
  | nil => simp [insert, get?, h.symm]
  | cons member rest ih =>
    obtain ⟨k, v⟩ := member
    by_cases hk : k = key
    · simp [insert, get?, hk, h.symm]
    · by_cases ho : k = other
      · subst ho
        simp [insert, get?, h]
      · simp [insert, get?, hk, ho, ih]

end Document

namespace Json

/-- The members, if the value is an object. -/
def object? : Json → Option Document
  | .object members => some members
  | _ => none

/-- The elements, if the value is an array. -/
def array? : Json → Option (List Json)
  | .array items => some items
  | _ => none

/-- The text, if the value is a string. -/
def string? : Json → Option String
  | .string s => some s
  | _ => none

/-- The truth value, if the value is one. -/
def bool? : Json → Option Bool
  | .bool b => some b
  | _ => none

/-- The number, if the value is one. -/
def number? : Json → Option Number
  | .number n => some n
  | _ => none

/-- The value as an unsigned 64-bit integer. -/
def natural? (v : Json) : Option Nat := v.number?.bind Number.natural?

/-- The value as a signed 64-bit integer. -/
def signed? (v : Json) : Option Int := v.number?.bind Number.signed?

/-- The value of a member, if the value is an object that has it. -/
def member? (v : Json) (key : String) : Option Json := v.object?.bind (·.get? key)

/-- A natural number as a value. -/
def ofNat (n : Nat) : Json := .number (.ofNat n)

/-- A list of texts as a value. -/
def ofStrings (texts : List String) : Json := .array (texts.map .string)

mutual

/-- Equality of values: objects with the same keys and equal members are equal in any order, and an
integer is not equal to a float. -/
def equal : Json → Json → Bool
  | .null, .null => true
  | .bool a, .bool b => a == b
  | .number a, .number b => a.equal b
  | .string a, .string b => a == b
  | .array xs, .array ys => equalItems xs ys
  | .object xs, .object ys => xs.length == ys.length && equalMembers xs ys
  | _, _ => false
termination_by structural v => v

/-- Equality of arrays, element by element. -/
def equalItems : List Json → List Json → Bool
  | [], [] => true
  | x :: xs, y :: ys => x.equal y && equalItems xs ys
  | _, _ => false
termination_by structural xs => xs

/-- Every member has an equal partner of the same key. -/
def equalMembers : List (String × Json) → List (String × Json) → Bool
  | [], _ => true
  | (k, x) :: xs, ys =>
    (match Document.get? ys k with
      | some y => x.equal y
      | none => false) && equalMembers xs ys
termination_by structural xs => xs

end

end Json

end DocQuery
