import DocQuery.Json.Text
import DocQuery.Query.Envelope

/-!
# Requests and answers

What arrives over HTTP and what goes back, and how an error becomes an answer.  What an error tells
about the inside of the service stays there.
-/

namespace DocQuery.Http

/-- A request. -/
structure Call where
  method : String
  address : String
  /-- The declared type of the body. -/
  contentType : Option String
  body : String

/-- The body of an answer. -/
inductive Body where
  | empty
  | text (text : String)
  | json (value : Json)
  /-- The response to a query; the time that it took is written beside it. -/
  | response (response : Response)

/-- The value in a body; the time that a response took is given where it was measured. -/
def Body.json? (milliseconds : Option Nat) : Body → Option Json
  | .json value => some value
  | .response r => some (r.toJson milliseconds)
  | .empty | .text _ => none

/-- An answer. -/
structure Answer where
  status : Nat
  body : Body

/-- Why a request is answered with an error. -/
inductive Failure where
  /-- Something inside the service failed. -/
  | internal
  | notFound (text : String)
  | badRequest (text : String)

namespace Failure

/-- The status of a failure. -/
def status : Failure → Nat
  | .internal => 500
  | .notFound _ => 404
  | .badRequest _ => 400

/-- What the client is told. -/
def message : Failure → String
  | .internal => "internal server error"
  | .notFound text => text
  | .badRequest text => s!"bad request: {text}"

/-- The failure that an error of a query is. -/
def ofError (e : QueryError) : Failure :=
  match e with
  | .unknownCollection _ => .notFound e.message
  | .store .database => .internal
  | _ => .badRequest e.message

/-- The answer to a request that failed. -/
def answer (f : Failure) : Answer := ⟨f.status, .json (.object [("error", .string f.message)])⟩

end Failure

namespace Answer

/-- A value as an answer. -/
def ok (value : Json) : Answer := ⟨200, .json value⟩

/-- The response to a query as an answer. -/
def found (response : Response) : Answer := ⟨200, .response response⟩

/-- Nothing is at the address. -/
def notFound : Answer := ⟨404, .empty⟩

/-- The address does not know the method. -/
def methodNotAllowed : Answer := ⟨405, .empty⟩

/-- An answer without its body. -/
def withoutBody (a : Answer) : Answer := { a with body := .empty }

/-- The answer of an operation that may fail. -/
def ofResult : Except Failure Answer → Answer
  | .ok answer => answer
  | .error f => f.answer

end Answer

end DocQuery.Http
