import DocQuery.Http.Address
import DocQuery.Http.MediaType
import DocQuery.Http.Message
import DocQuery.Query.Envelope

/-!
# Addresses of the service

`/health` tells how the service is, `/api/collections` lists the collections,
`/api/collections/NAME` queries one by parameters, and below it `query` and `aggregate` take a JSON
body.

The collection is looked up before a body is read.  A request for the head of an answer is one for
the answer without its body.

## Main definitions

* `Application`: what requests are answered with
* `Endpoint`, `Endpoint.ofSegments?`
* `Application.respond`: the answer to a request
-/

namespace DocQuery.Http

/-- What requests are answered with. -/
structure Application where
  service : Service
  store : RecordStore
  /-- The kind of the store. -/
  storeName : String
  /-- Whether the store can be reached. -/
  healthy : Bool

/-- What an address stands for; the name of a collection is still as it was written. -/
inductive Endpoint where
  | health
  | collections
  | records (name : List Char)
  | query (name : List Char)
  | aggregate (name : List Char)

namespace Endpoint

/-- What the segments of a path stand for. -/
def ofSegments? (segments : List (List Char)) : Option Endpoint :=
  match segments.map String.ofList with
  | ["", "health"] => some .health
  | ["", "api", "collections"] => some .collections
  | "" :: "api" :: "collections" :: name :: rest =>
    if name.isEmpty then none
    else
      match rest with
      | [] => some (.records name.toList)
      | ["query"] => some (.query name.toList)
      | ["aggregate"] => some (.aggregate name.toList)
      | _ => none
  | _ => none

/-- The method that an endpoint answers. -/
def method : Endpoint → String
  | .health | .collections | .records _ => "GET"
  | .query _ | .aggregate _ => "POST"

end Endpoint

/-- Read a JSON body. -/
def readBody {α : Type} (decode : Decoder α) (call : Call) : Except Failure α :=
  if (call.contentType.bind MediaType.ofText?).any MediaType.isJson then
    let (draft, ended) := Draft.ofText call.body Draft.depthLimit
    let unreadable : Except Failure α := .error (.badRequest "Failed to parse the request body as JSON")
    match decode draft with
    | .ok v => if ended then .ok v else unreadable
    | .error .text => unreadable
    | .error .shape =>
      .error (.badRequest "Failed to deserialize the JSON body into the target type")
  else .error (.badRequest "Expected request with `Content-Type: application/json`")

/-- What the list of collections says about one. -/
def collectionSummary (c : Collection) : Json :=
  .object [("name", .string c.name), ("id_field", .string c.idField),
    ("relations", .ofStrings (c.relations.map Prod.fst)), ("searchable", .ofStrings c.textFields)]

namespace Application

/-- How the service is. -/
def health (app : Application) : Answer :=
  ⟨if app.healthy then 200 else 503, .json (.object [
    ("status", .string (if app.healthy then "healthy" else "unhealthy")),
    ("store", .string app.storeName),
    ("collections", .ofNat app.service.registry.entries.length)])⟩

/-- An answer of the service, seen from outside. -/
def asked {α : Type} : Except QueryError α → Except Failure α
  | .ok v => .ok v
  | .error e => .error (.ofError e)

/-- The registered collection of a name. -/
def resolve (app : Application) (name : String) : Except Failure Collection :=
  asked (app.service.registry.resolve (.name name))

/-- Answer a query. -/
def execute (app : Application) (c : Collection) (request : Request) : Except Failure Answer :=
  (asked (app.service.execute app.store (.definition c) request)).map .found

/-- The answer for an endpoint below the name of a collection. -/
def withName (name : List Char) (f : String → Except Failure Answer) : Answer :=
  match pathText? name with
  | some name => .ofResult (f name)
  | none => ⟨400, .text "Invalid URL: Invalid UTF-8 in `name`"⟩

/-- The answer of an endpoint. -/
def answer (app : Application) (address : Address) (call : Call) : Endpoint → Answer
  | .health => app.health
  | .collections => .ok (.array (app.service.registry.definitions.map collectionSummary))
  | .records name => withName name fun name => do
    let c ← app.resolve name
    app.execute c (Request.ofParameters address.parameterTable c)
  | .query name => withName name fun name => do
    let c ← app.resolve name
    let body ← readBody Request.decode call
    app.execute c (body.ofBody c)
  | .aggregate name => withName name fun name => do
    let c ← app.resolve name
    let pipeline ← readBody (Decoder.list Decoder.document) call
    let docs ← asked (app.service.aggregate app.store (.definition c) pipeline)
    return .ok (.array (docs.map .object))

/-- The answer to a request. -/
def respond (app : Application) (call : Call) : Answer :=
  let address := Address.ofText call.address
  match Endpoint.ofSegments? address.segments with
  | none => .notFound
  | some endpoint =>
    if call.method = endpoint.method then app.answer address call endpoint
    else if call.method = "HEAD" ∧ endpoint.method = "GET" then
      (app.answer address call endpoint).withoutBody
    else .methodNotAllowed

end Application

end DocQuery.Http
