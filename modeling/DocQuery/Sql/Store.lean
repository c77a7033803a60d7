import DocQuery.Sql.Pipeline
import DocQuery.Store.Basic
import DocQuery.Store.Identity
import DocQuery.Store.Populate

/-!
# The store in a database

Queries become SQL statements; what the database answers is projected and populated here.  Whatever
is wrong with a query is found before the database is asked.

## Main definitions

* `Database`: what is asked of a database
* `SqlStore.find`, `SqlStore.count`, `SqlStore.aggregate`, `SqlStore.insert`
-/

namespace DocQuery

/-- What is asked of a database. -/
structure Database where
  /-- The records and relevances that a statement selects. -/
  rows : String → Except StoreError (List (Document × Option Binary64))
  /-- The number that a statement selects. -/
  number : String → Except StoreError Nat
  /-- Carry out a statement with the values of its parameters. -/
  execute : String → List String → Except StoreError Unit

/-- A database that cannot be reached. -/
def Database.unreachable : Database :=
  ⟨fun _ => .error .database, fun _ => .error .database, fun _ _ => .error .database⟩

/-- A store whose collections are tables of a database. -/
structure SqlStore where
  database : Database

namespace SqlStore

/-- Refuse a collection whose name cannot be that of a table. -/
def checkTable (c : Collection) : Except StoreError Unit :=
  if Collection.isValidName c.name then .ok ()
  else .error (.invalidQuery (.invalidCollectionName c.name))

/-- The records that a query returns, references left as they are. -/
def search (store : SqlStore) (c : Collection) (q : FindQuery) :
    Except StoreError (List Document) := do
  checkTable c
  let rows ← store.database.rows (Sql.write (← Sql.select c q))
  .ok (rows.map fun (doc, score) => doc.project q.projection score)

/-- How references find their records: in a collection of which only the name is known. -/
def lookup (store : SqlStore) : Lookup := fun collection q =>
  store.search (Collection.named collection) q

/-- The records that a query returns. -/
def find (store : SqlStore) (c : Collection) (q : FindQuery) :
    Except StoreError (List Document) := do
  populate store.lookup (← store.search c q) q.populate

/-- The number of records that match a filter. -/
def count (store : SqlStore) (c : Collection) (filter : Document) : Except StoreError Nat := do
  checkTable c
  store.database.number (Sql.write (← Sql.selectCount c filter))

/-- Run a pipeline that comes to one query. -/
def aggregate (store : SqlStore) (c : Collection) (pipeline : List Document) :
    Except StoreError (List Document) := do
  checkTable c
  let plan ← Sql.pipeline c (← Stage.ofPipeline pipeline)
  let sql := Sql.write plan.pieces
  match plan.countField with
  | some field => do
    let n ← store.database.number sql
    .ok [[(field, .ofNat n)]]
  | none => do
    let rows ← store.database.rows sql
    .ok (rows.map Prod.fst)

/-- Create the table of a collection unless it is there. -/
def ensureCollection (store : SqlStore) (c : Collection) : Except StoreError Unit := do
  checkTable c
  store.database.execute (Sql.createTable c) []

/-- Insert a record or replace one of the same identity; a missing identity is the given one. -/
def insert (store : SqlStore) (c : Collection) (doc : Document) (fresh : String) :
    Except StoreError Json := do
  checkTable c
  let id := (doc.get? c.idField).getD (.string fresh)
  let doc := doc.insert c.idField id
  let key := match id with
    | .string s => s
    | other => other.text
  store.database.execute
    ("INSERT INTO " ++ Sql.quotedName c.name ++ " (id, doc) VALUES ($1, $2) "
      ++ "ON CONFLICT (id) DO UPDATE SET doc = EXCLUDED.doc")
    [key, (Json.object doc).text]
  .ok id

/-- The store, as it is asked. -/
def records (store : SqlStore) : RecordStore := ⟨store.find, store.count, store.aggregate⟩

end SqlStore

end DocQuery
