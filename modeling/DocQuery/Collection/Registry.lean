import DocQuery.Collection.Basic
import DocQuery.Query.Error

/-!
# The registry of collections

The collections that queries may name, sorted by name.

## Main definitions

* `Registry`, `Registry.register`
* `CollectionRef`, `Registry.resolve`: the collection that a query is about
-/

namespace DocQuery

/-- The registered collections, sorted by name. -/
structure Registry where
  entries : List (String × Collection)

/-- How a query names its collection. -/
inductive CollectionRef where
  /-- By a name to look up. -/
  | name (name : String)
  /-- By its definition, which need not be registered. -/
  | definition (collection : Collection)

namespace Registry

/-- No collections. -/
def empty : Registry := ⟨[]⟩

/-- The collection of a name. -/
def get? (r : Registry) (name : String) : Option Collection := r.entries.lookup name

/-- The definitions in the order of their names. -/
def definitions (r : Registry) : List Collection := r.entries.map Prod.snd

/-- The registered names in order. -/
def names (r : Registry) : List String := r.entries.map Prod.fst

/-- The first name that a definition uses and that cannot be that of a collection. -/
def invalidName? (c : Collection) : Option String :=
  (c.name :: c.relations.map fun entry => entry.2.collection).find? fun name =>
    !Collection.isValidName name

/-- Register a collection, replacing one of the same name. -/
def register (r : Registry) (c : Collection) : Except QueryError Registry :=
  match invalidName? c with
  | some name => .error (.invalidName name)
  | none => .ok ⟨Collection.insertSorted c.name c r.entries⟩

/-- The collection that a query is about. -/
def resolve (r : Registry) : CollectionRef → Except QueryError Collection
  | .name name =>
    if Collection.isValidName name then
      match r.get? name with
      | some c => .ok c
      | none => .error (.unknownCollection name)
    else .error (.invalidName name)
  | .definition c => if Collection.isValidName c.name then .ok c else .error (.invalidName c.name)

end Registry

end DocQuery
