import DocQuery.Number.Numeral
import DocQuery.Query.Page
import DocQuery.Text.Blank

/-!
# Settings of the service

What the variables of the environment set, and the defaults of those that are missing.
-/

namespace DocQuery

/-- The settings of the service. -/
structure Settings where
  /-- The port to listen on. -/
  port : Nat
  /-- Where the database is; without one the records are kept in memory. -/
  databaseUrl : Option String
  databaseMaxConnections : Nat
  /-- The file with the definitions of the collections. -/
  collectionsFile : String
  /-- A file with records to start with. -/
  seedFile : Option String
  defaultPageSize : Nat
  maxPageSize : Nat
  /-- How long a statement of the database may take. -/
  statementTimeoutSeconds : Nat
  /-- The origins of pages that may call the service; a star means all. -/
  allowedOrigins : List String
deriving DecidableEq

/-- A variable whose value is not of its kind. -/
inductive SettingsFault where
  | port
  | databaseMaxConnections
  | defaultPageSize
  | maxPageSize
  | statementTimeout
deriving DecidableEq

/-- The text of a fault. -/
def SettingsFault.message : SettingsFault → String
  | .port => "PORT must be a valid u16"
  | .databaseMaxConnections => "DATABASE_MAX_CONNECTIONS must be a valid u32"
  | .defaultPageSize => "DEFAULT_PAGE_SIZE must be a valid u64"
  | .maxPageSize => "MAX_PAGE_SIZE must be a valid u64"
  | .statementTimeout => "STATEMENT_TIMEOUT_SECS must be a valid u64"

namespace Settings

/-- The number in a variable, which fits the given number of bits. -/
def number (env : String → Option String) (name : String) (bits default : Nat)
    (fault : SettingsFault) : Except SettingsFault Nat :=
  match env name with
  | none => .ok default
  | some value =>
    match Numeral.natural? bits value with
    | some n => .ok n
    | none => .error fault

/-- The settings of an environment; the first variable at fault is reported. -/
def ofEnvironment (env : String → Option String) : Except SettingsFault Settings := do
  let port ← number env "PORT" 16 3000 .port
  let databaseMaxConnections ←
    number env "DATABASE_MAX_CONNECTIONS" 32 10 .databaseMaxConnections
  let defaultPageSize ←
    number env "DEFAULT_PAGE_SIZE" 64 PageSettings.standard.defaultLimit .defaultPageSize
  let maxPageSize ← number env "MAX_PAGE_SIZE" 64 PageSettings.standard.maxLimit .maxPageSize
  let statementTimeoutSeconds ←
    number env "STATEMENT_TIMEOUT_SECS" 64 10 .statementTimeout
  .ok {
    port
    databaseUrl := (env "DATABASE_URL").filter fun url => !Text.isBlankText url
    databaseMaxConnections
    collectionsFile := (env "COLLECTIONS_FILE").getD "./collections.toml"
    seedFile := env "SEED_FILE"
    defaultPageSize
    maxPageSize
    statementTimeoutSeconds
    allowedOrigins :=
      match env "CORS_ALLOWED_ORIGINS" with
      | some value => (Text.splitOnChar ',' value).map Text.trim
      | none => ["*"] }

/-- The names of the variables that are read. -/
def variableNames : List String :=
  ["PORT", "DATABASE_URL", "DATABASE_MAX_CONNECTIONS", "COLLECTIONS_FILE", "SEED_FILE",
   "DEFAULT_PAGE_SIZE", "MAX_PAGE_SIZE", "STATEMENT_TIMEOUT_SECS", "CORS_ALLOWED_ORIGINS"]

/-- The files that are read. -/
def paths (s : Settings) : List String := s.collectionsFile :: s.seedFile.toList

/-- The bounds on pages; neither is zero. -/
def pages (s : Settings) : PageSettings := ⟨max 1 s.defaultPageSize, max 1 s.maxPageSize⟩

end Settings

end DocQuery
