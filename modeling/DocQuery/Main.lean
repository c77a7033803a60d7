import DocQuery.Config.Options
import DocQuery.Config.Startup
import DocQuery.Http.Origin
import Std.Http.Server

/-!
# The server

Reads the environment, the command line and the files they name, and answers requests over HTTP.
What is answered is decided by `Http.Application.respond`.
-/

namespace DocQuery.Server

/-- The values of names, each read once. -/
def readAll (read : String → IO (Option String)) (names : List String) :
    IO (String → Option String) := do
  let entries ← names.mapM fun name => do return (name, ← read name)
  return fun name => (entries.find? fun entry => entry.1 == name).bind Prod.snd

/-- The text of a file; a file that cannot be read has none. -/
def readFile (path : String) : IO (Option String) := do
  try return some (← IO.FS.readFile path)
  catch _ => return none

/-- The text of a header. -/
def header? (head : Std.Http.Request.Head) (name : String) : Option String :=
  (Std.Http.Header.Name.ofString? name).bind fun name =>
    (head.headers.get? name).map fun value => value.value

/-- A request as the application sees it. -/
def callOf (head : Std.Http.Request.Head) (body : ByteArray) : Http.Call where
  method := toString head.method
  address := toString head.uri
  contentType := header? head "content-type"
  body := (String.fromUTF8? body).getD ""

/-- The head of a response; a header that HTTP does not allow is left out. -/
def headOf (status : Nat) (headers : List (String × String)) : Std.Http.Response.Builder :=
  let status := (Std.Http.Status.ofCode none status.toUInt16).getD .internalServerError
  headers.foldl (fun head header => (head.header? header.1 header.2).getD head)
    (Std.Http.Response.withStatus status)

/-- Answer one request. -/
def answer (app : Http.Application) (allowed : List String)
    (request : Std.Http.Request Std.Http.Body.Stream) :
    Std.Async.ContextAsync (Std.Http.Response Std.Http.Body.Any) := do
  let body : ByteArray ← request.body.readAll
  let started ← IO.monoMsNow
  let (answer, headers) :=
    app.respondTo allowed (header? request.line "origin") (callOf request.line body)
  let head := headOf answer.status headers
  let ended ← IO.monoMsNow
  let sent : Std.Http.Response Std.Http.Body.Full ←
    match answer.body, answer.body.json? (some (ended - started)) with
    | _, some value => head.json value.text
    | .text text, none => head.text text
    | _, none => head.fromBytes ByteArray.empty
  return { sent with body := .ofBody sent.body }

/-- Serve an application until the process ends. -/
def serve (app : Http.Application) (settings : Settings) : IO Unit := Std.Async.Async.block do
  let address : Std.Net.SocketAddress := .v4 ⟨.ofParts 0 0 0 0, settings.port.toUInt16⟩
  let handler := Std.Http.Server.Handler.ofFn (answer app settings.allowedOrigins)
  let server ← Std.Http.Server.serve address handler
  server.waitShutdown

end DocQuery.Server

open DocQuery in
/-- Start the service with the environment and the command line. -/
def main (arguments : List String) : IO UInt32 := do
  let fail (text : String) : IO UInt32 := do
    IO.eprintln s!"Error: {text}"
    return 1
  let env ← Server.readAll (fun name => IO.getEnv name) Settings.variableNames
  match Options.ofArguments arguments, Settings.ofEnvironment env with
  | .error fault, _ => fail fault.message
  | .ok _, .error fault => fail fault.message
  | .ok options, .ok settings =>
    let settings := options.override settings
    let files ← Server.readAll Server.readFile settings.paths
    match start settings files with
    | .error fault => fail fault.message
    | .ok app =>
      Server.serve app settings
      return 0
