import DocQuery.Collection.Restriction
import DocQuery.Json.Decode

/-!
# Collections

What the service knows about a collection of records: its identity field, the fields that a text
search covers, where its references point, the filters that always apply and the fields that clients
never see.

## Main definitions

* `Relation`, `Collection`
* `Collection.decode`: reading a definition
* `Collection.isValidName`: the names that a collection may have
-/

namespace DocQuery

/-- The identity field of a collection that does not name one. -/
def defaultIdField : String := "_id"

/-- Where the references in a field point. -/
structure Relation where
  /-- The collection that holds the records. -/
  collection : String
  /-- The field of those records that a reference matches. -/
  foreignField : String
deriving DecidableEq

/-- Read a relation. -/
def Relation.decode : Decoder Relation :=
  Decoder.record
    [.needed ["collection"] Decoder.text fun collection r => { r with collection },
     .defaulted ["foreign_field"] Decoder.text fun foreignField r => { r with foreignField }]
    false ⟨"", defaultIdField⟩

/-- The definition of a collection. -/
structure Collection where
  name : String
  idField : String
  /-- The paths that a text search covers; none means every text. -/
  textFields : List String
  /-- The relations by the path of the reference, in the order of the paths. -/
  relations : List (String × Relation)
  /-- Flat filters that apply to every query. -/
  defaultFilters : Document
  /-- Fields that clients may not filter, select, sort or expand. -/
  restrictedFields : List String

namespace Collection

/-- A collection of which only the name is known. -/
def named (name : String) : Collection := ⟨name, defaultIdField, [], [], [], []⟩

instance : Inhabited Collection := ⟨named ""⟩

/-- Put an entry into a table that is sorted by its keys, replacing one of the same key. -/
def insertSorted {α : Type} (key : String) (value : α) : List (String × α) → List (String × α)
  | [] => [(key, value)]
  | (k, v) :: rest =>
    match compare key k with
    | .lt => (key, value) :: (k, v) :: rest
    | .eq => (key, value) :: rest
    | .gt => (k, v) :: insertSorted key value rest

/-- A table sorted by its keys, in which the last entry of a key counts. -/
def sortedTable {α : Type} (entries : List (String × α)) : List (String × α) :=
  entries.foldl (fun table entry => insertSorted entry.1 entry.2 table) []

/-- Read a definition; everything but the name has a default. -/
def decode : Decoder Collection :=
  Decoder.record
    [.needed ["name"] Decoder.text fun name r => { r with name },
     .defaulted ["id_field"] Decoder.text fun idField r => { r with idField },
     .defaulted ["text_fields"] (Decoder.list Decoder.text) fun textFields r => { r with textFields },
     .defaulted ["relations"] (Decoder.table Relation.decode)
       fun entries r => { r with relations := sortedTable entries },
     .defaulted ["default_filters"] Decoder.document
       fun defaultFilters r => { r with defaultFilters },
     .defaulted ["restricted_fields"] (Decoder.list Decoder.text)
       fun restrictedFields r => { r with restrictedFields }]
    false (named "")

/-- Whether a text may name a collection: letters, digits and underscores, at most 63, of which the
first is no digit. -/
def isValidName (name : String) : Bool :=
  let cs := name.toList
  !cs.isEmpty && cs.length ≤ 63 && cs.all (fun c => c.isAlphanum || c = '_')
    && cs.head?.all fun c => !c.isDigit

/-- Whether a path or a place above it is restricted. -/
def isRestrictedPath (c : Collection) (path : String) : Bool := isRestricted c.restrictedFields path

/-- The relation of the references at a path. -/
def relation? (c : Collection) (path : String) : Option Relation := c.relations.lookup path

end Collection

end DocQuery
