import DocQuery.Config.CollectionsFile
import DocQuery.Config.Settings
import DocQuery.Http.Router
import DocQuery.Store.Memory

/-!
# Starting the service

From settings and the contents of files to the application: the collections are read, the store is
filled, and every collection is registered.  The first trouble on the way stops the start.

No connection to a database can be made here, so that a service with a database does not start.

## Main definitions

* `StartupFault`
* `start`: the application of settings and files
-/

namespace DocQuery

/-- Why the service does not start. -/
inductive StartupFault where
  | settings (fault : SettingsFault)
  | collectionsFile (path : String)
  | noConnection
  | unreadable (path : String)
  | seedNotJson
  | invalidSeed (error : StoreError)
  | unregistered (collection : String) (error : QueryError)
deriving DecidableEq

/-- The text of a fault. -/
def StartupFault.message : StartupFault → String
  | .settings fault => fault.message
  | .collectionsFile path => s!"failed to parse {path}"
  | .noConnection => "failed to connect to PostgreSQL"
  | .unreadable path => s!"failed to read {path}"
  | .seedNotJson => "seed file is not valid JSON"
  | .invalidSeed _ => "invalid seed file"
  | .unregistered collection _ => s!"failed to register collection {collection}"

/-- The contents of files by path; a missing file has none. -/
abbrev Files := String → Option String

namespace Startup

/-- The definitions of the collections file; without the file there are none. -/
def collections (settings : Settings) (files : Files) : Except StartupFault (List Collection) :=
  match files settings.collectionsFile with
  | none => .ok []
  | some text =>
    match Collection.ofToml? text with
    | some cs => .ok cs
    | none => .error (.collectionsFile settings.collectionsFile)

/-- The store filled with the records of the seed file. -/
def store (settings : Settings) (files : Files) : Except StartupFault MemoryStore :=
  match settings.seedFile with
  | none => .ok .empty
  | some path =>
    match files path with
    | none => .error (.unreadable path)
    | some text =>
      match Json.ofText? text with
      | none => .error .seedNotJson
      | some seed =>
        match MemoryStore.ofSeed seed with
        | .ok store => .ok store
        | .error e => .error (.invalidSeed e)

/-- Register collections in order. -/
def registerAll : List Collection → Registry → Except StartupFault Registry
  | [], r => .ok r
  | c :: cs, r =>
    match r.register c with
    | .ok r => registerAll cs r
    | .error e => .error (.unregistered c.name e)

end Startup

/-- The application of settings and files. -/
def start (settings : Settings) (files : Files) : Except StartupFault Http.Application := do
  let definitions ← Startup.collections settings files
  if settings.databaseUrl.isSome then .error .noConnection
  else do
    let store ← Startup.store settings files
    let registry ← Startup.registerAll definitions .empty
    .ok {
      service := ⟨registry, settings.pages⟩
      store := store.records
      storeName := "memory"
      healthy := true }

end DocQuery
