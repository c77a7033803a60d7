import DocQuery.Predicate.Compile
import DocQuery.Store.Basic
import DocQuery.Store.Identity
import DocQuery.Store.Populate
import DocQuery.Store.Stage

/-!
# The store in memory

Collections are lists of records in the order of insertion.  A query compiles its filter, keeps the
records that match, sorts them, cuts out the window, projects and populates.  An aggregation applies
its stages one after the other to all records of a collection.

## Main definitions

* `MemoryStore`, `MemoryStore.insert`, `MemoryStore.ofSeed?`
* `MemoryStore.find`, `MemoryStore.count`, `MemoryStore.aggregate`
-/

namespace DocQuery

/-- Records by collection. -/
structure MemoryStore where
  collections : List (String × List Document)
  /-- The number of the next identity to invent. -/
  nextIdentity : Nat

namespace MemoryStore

/-- A store without records. -/
def empty : MemoryStore := ⟨[], 0⟩

instance : Inhabited MemoryStore := ⟨empty⟩

/-- The records of a collection in the order of insertion. -/
def docs (store : MemoryStore) (collection : String) : List Document :=
  (store.collections.lookup collection).getD []

/-- Put a record at the end of a collection. -/
def append (doc : Document) (collection : String) :
    List (String × List Document) → List (String × List Document)
  | [] => [(collection, [doc])]
  | (name, docs) :: rest =>
    if name = collection then (name, docs ++ [doc]) :: rest
    else (name, docs) :: append doc collection rest

/-- Insert a record, inventing an identity if it has none; the identity is returned. -/
def insert (store : MemoryStore) (collection : String) (doc : Document) : MemoryStore × Json :=
  match doc.get? defaultIdField with
  | some id => ({ store with collections := append doc collection store.collections }, id)
  | none =>
    let id := Json.string (Identity.ofNat store.nextIdentity)
    let doc := doc.insert defaultIdField id
    ({ collections := append doc collection store.collections,
       nextIdentity := store.nextIdentity + 1 }, id)

/-- Insert records in order. -/
def insertMany (store : MemoryStore) (collection : String) (docs : List Document) : MemoryStore :=
  docs.foldl (fun store doc => (store.insert collection doc).1) store

/-- The number of records of a collection. -/
def size (store : MemoryStore) (collection : String) : Nat := (store.docs collection).length

/-- The records of a collection of a seed. -/
def seedDocuments (collection : String) : List Json → Except StoreError (List Document)
  | [] => .ok []
  | .object doc :: rest => (seedDocuments collection rest).map (doc :: ·)
  | _ :: _ => .error (.invalidQuery (.seedNotDocuments collection))

/-- Insert the collections of a seed in order. -/
def insertSeed (store : MemoryStore) : List (String × Json) → Except StoreError MemoryStore
  | [] => .ok store
  | (collection, .array items) :: rest => do
    let docs ← seedDocuments collection items
    insertSeed (store.insertMany collection docs) rest
  | (collection, _) :: _ => .error (.invalidQuery (.seedNotArray collection))

/-- The store of a seed: an object that maps the names of collections to lists of records. -/
def ofSeed (seed : Json) : Except StoreError MemoryStore :=
  match seed with
  | .object collections => insertSeed empty collections
  | _ => .error (.invalidQuery .seedNotObject)

/-! ### Queries -/

/-- The row of a record that matches; a relevance found on the way is recorded. -/
def rowOf (p : Predicate) (row : Row) : Option Row :=
  match p.evaluate row.doc row.score with
  | (true, score) => some ⟨row.doc, score⟩
  | (false, _) => none

/-- All records of a collection as rows. -/
def rows (store : MemoryStore) (collection : String) : List Row :=
  (store.docs collection).map Row.plain

/-- A row's record as a projection leaves it. -/
def projected (p : Projection) (row : Row) : Document :=
  row.doc.project p row.score

/-- The rows that a query returns, in order. -/
def select [PatternReader] (store : MemoryStore) (c : Collection) (q : FindQuery) :
    Except StoreError (List Row) := do
  let p ← Predicate.compile q.filter c.textFields
  .ok (q.window (sortRows q.sort ((store.rows c.name).filterMap (rowOf p))))

/-- The records that a query returns, references left as they are. -/
def search [PatternReader] (store : MemoryStore) (c : Collection) (q : FindQuery) :
    Except StoreError (List Document) :=
  (store.select c q).map fun rows => rows.map (projected q.projection)

/-- How references find their records: in a collection of which only the name is known. -/
def lookup [PatternReader] (store : MemoryStore) : Lookup := fun collection q =>
  store.search (Collection.named collection) q

/-- The records that a query returns. -/
def find [PatternReader] (store : MemoryStore) (c : Collection) (q : FindQuery) :
    Except StoreError (List Document) := do
  populate store.lookup (← store.search c q) q.populate

/-- The number of records that match a filter. -/
def count [PatternReader] (store : MemoryStore) (c : Collection) (filter : Document) :
    Except StoreError Nat := do
  let p ← Predicate.compile filter c.textFields
  .ok ((store.docs c.name).filter p.matchesDocument).length

/-- Apply a stage to rows. -/
def applyStage [PatternReader] (fields : List String) (rows : List Row) :
    Stage → Except StoreError (List Row)
  | .keep filter => do
    let p ← Predicate.compile filter fields
    .ok (rows.filterMap (rowOf p))
  | .sort keys => .ok (sortRows keys rows)
  | .skip n => .ok (rows.drop n)
  | .limit n => .ok (rows.take n)
  | .project p => .ok (rows.map fun row => ⟨projected p row, row.score⟩)
  | .count field => .ok [Row.plain [(field, .ofNat rows.length)]]

/-- Apply stages one after the other. -/
def applyStages [PatternReader] (fields : List String) (rows : List Row) :
    List Stage → Except StoreError (List Row)
  | [] => .ok rows
  | stage :: rest => do applyStages fields (← applyStage fields rows stage) rest

/-- Run an aggregation; every stage is read before the first one runs. -/
def aggregate [PatternReader] (store : MemoryStore) (c : Collection) (pipeline : List Document) :
    Except StoreError (List Document) := do
  let stages ← Stage.ofPipeline pipeline
  let rows ← applyStages c.textFields (store.rows c.name) stages
  .ok (rows.map Row.doc)

/-- The present contents, as a store to ask. -/
def records [PatternReader] (store : MemoryStore) :
    RecordStore := ⟨store.find, store.count, store.aggregate⟩

end MemoryStore

end DocQuery
