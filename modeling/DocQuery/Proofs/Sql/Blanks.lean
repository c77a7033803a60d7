import DocQuery.Proofs.Predicate.Meaning
import DocQuery.Store.Query

/-!
# Filters with their strings blanked

A string in a filter is either data, which a field or a record is compared with, or it steers the
search: a key, the options of a pattern, the language of a text search.  Blanking a filter empties
every string that is data and leaves the rest, so two filters are the same but for their data
strings exactly if they are equal once they are blanked.

## Main definitions

* `Json.blanked`: an operand with its strings emptied, at any depth
* `blankedFilter`: a filter with the strings of its data emptied
* `FindQuery.SameButStrings`: queries that differ in the strings of their data only
-/

namespace DocQuery

/-! ### Operands -/

mutual

/-- An operand with every string in it emptied; keys stay. -/
def Json.blanked : Json → Json
  | .string _ => .string ""
  | .array items => .array (blankedItems items)
  | .object members => .object (blankedMembers members)
  | value => value
termination_by structural value => value

/-- The elements of an operand with every string in them emptied. -/
def blankedItems : List Json → List Json
  | [] => []
  | item :: rest => item.blanked :: blankedItems rest
termination_by structural items => items

/-- The members of an operand with every string in their values emptied. -/
def blankedMembers : List (String × Json) → List (String × Json)
  | [] => []
  | (key, value) :: rest => (key, value.blanked) :: blankedMembers rest
termination_by structural members => members

end

/-- The clause of a text search with the text that is searched for emptied. -/
def blankedSearch (members : Document) : Document :=
  members.map fun (key, value) => (key, if key = "$search" then value.blanked else value)

/-! ### Filters -/

mutual

/-- A filter with the strings of its data emptied. -/
def blankedFilter : List (String × Json) → List (String × Json)
  | [] => []
  | (key, value) :: rest => (key, blankedClause key value) :: blankedFilter rest
termination_by structural members => members

/-- A clause with the strings of its data emptied. -/
def blankedClause (key : String) : Json → Json
  | .array items =>
    .array (if Operator.logicalKeys.contains key then blankedAlternatives items
      else blankedItems items)
  | .object members =>
    .object (if key = "$text" then blankedSearch members
      else if (Json.object members).isOperatorMap then blankedOperators members
      else blankedMembers members)
  | value => value.blanked
termination_by structural value => value

/-- The filters that a logical key combines, with the strings of their data emptied. -/
def blankedAlternatives : List Json → List Json
  | [] => []
  | item :: rest => blankedAlternative item :: blankedAlternatives rest
termination_by structural items => items

/-- A filter that a logical key combines, with the strings of its data emptied. -/
def blankedAlternative : Json → Json
  | .object members => .object (blankedFilter members)
  | item => item
termination_by structural item => item

/-- An operator map with the strings of its operands emptied; the options of a pattern stay. -/
def blankedOperators : List (String × Json) → List (String × Json)
  | [] => []
  | (key, operand) :: rest =>
    (key, if key = "$options" then operand
      else if key = "$elemMatch" then blankedElement operand
      else operand.blanked) :: blankedOperators rest
termination_by structural members => members

/-- The operand of an element test with the strings of its data emptied. -/
def blankedElement : Json → Json
  | .object members =>
    .object (if (Json.object members).isOperatorMap then blankedOperators members
      else blankedFilter members)
  | operand => operand
termination_by structural operand => operand

end

/-- A query with the strings of its data emptied. -/
def FindQuery.blanked (q : FindQuery) : FindQuery := { q with filter := blankedFilter q.filter }

/-- Two queries whose statements select and sort in the same way, except that the strings of their
data may differ. -/
structure FindQuery.SameButStrings (q q' : FindQuery) : Prop where
  filter : blankedFilter q.filter = blankedFilter q'.filter
  sort : q.sort = q'.sort
  skip : q.skip = q'.skip
  limit : q.limit = q'.limit

/-! ### What blanking leaves -/

section

variable {members members' : List (String × Json)} {items : List Json} {value : Json} {key : String}

theorem blankedItems_eq_map : blankedItems items = items.map Json.blanked := by
  induction items with
  | nil => rfl
  | cons item rest ih => rw [blankedItems, ih, List.map_cons]

/-- Whether an object is an operator map depends on its keys. -/
theorem isOperatorMap_of_keys (same : members.map Prod.fst = members'.map Prod.fst) :
    (Json.object members).isOperatorMap = (Json.object members').isOperatorMap := by
  have nonempty : members.isEmpty = members'.isEmpty := by
    simpa using congrArg List.isEmpty same
  have dollar := congrArg (List.all · isDollarKey) same
  simp only [List.all_map] at dollar
  rw [Json.isOperatorMap, Json.isOperatorMap, nonempty]
  exact congrArg (!members'.isEmpty && ·) dollar

theorem isOperatorMap_blankedMembers :
    (Json.object (blankedMembers members)).isOperatorMap = (Json.object members).isOperatorMap := by
  refine isOperatorMap_of_keys ?_
  induction members with
  | nil => rfl
  | cons member rest ih => rw [blankedMembers, List.map_cons, ih, List.map_cons]

theorem isOperatorMap_blankedFilter :
    (Json.object (blankedFilter members)).isOperatorMap = (Json.object members).isOperatorMap := by
  refine isOperatorMap_of_keys ?_
  induction members with
  | nil => rfl
  | cons member rest ih => rw [blankedFilter, List.map_cons, ih, List.map_cons]

theorem isOperatorMap_blankedOperators :
    (Json.object (blankedOperators members)).isOperatorMap =
      (Json.object members).isOperatorMap := by
  refine isOperatorMap_of_keys ?_
  induction members with
  | nil => rfl
  | cons member rest ih => rw [blankedOperators, List.map_cons, ih, List.map_cons]

theorem get?_blankedFilter :
    Document.get? (blankedFilter members) key =
      (Document.get? members key).map (blankedClause key) := by
  induction members with
  | nil => rfl
  | cons member rest ih =>
      rw [blankedFilter, Document.get?_cons, Document.get?_cons, ih]
      split
      · next same => rw [same]; rfl
      · rfl

theorem optionsOf_blankedOperators : optionsOf (blankedOperators members) = optionsOf members := by
  induction members with
  | nil => rfl
  | cons member rest ih =>
      rw [optionsOf, optionsOf] at ih ⊢
      rw [blankedOperators, Document.get?_cons, Document.get?_cons]
      split
      · simp
      · exact ih

theorem get?_blankedSearch (other : key ≠ "$search") :
    Document.get? (blankedSearch members) key = Document.get? members key := by
  induction members with
  | nil => rfl
  | cons member rest ih =>
      rw [blankedSearch, List.map_cons, ← blankedSearch, Document.get?_cons, Document.get?_cons, ih]
      split
      · next same => rw [if_neg (same ▸ other)]
      · rfl

theorem search_blankedSearch :
    Document.get? (blankedSearch members) "$search" =
      (Document.get? members "$search").map Json.blanked := by
  induction members with
  | nil => rfl
  | cons member rest ih =>
      rw [blankedSearch, List.map_cons, ← blankedSearch, Document.get?_cons, Document.get?_cons, ih]
      split
      · rfl
      · rfl

/-- Reading a text search from a blanked clause gives the search for no text. -/
theorem ofClause_blankedClause :
    TextQuery.ofClause (blankedClause "$text" value) =
      (TextQuery.ofClause value).map fun query => { query with search := "" } := by
  cases value with
  | object members =>
      rw [blankedClause, if_pos rfl]
      simp only [TextQuery.ofClause, Json.object?, search_blankedSearch,
        get?_blankedSearch (show "$language" ≠ "$search" by decide),
        get?_blankedSearch (show "$caseSensitive" ≠ "$search" by decide),
        get?_blankedSearch (show "$diacriticSensitive" ≠ "$search" by decide)]
      cases Document.get? members "$search" with
      | none => rfl
      | some search => cases search <;> rfl
  | array items => rfl
  | _ => rfl

end

end DocQuery
