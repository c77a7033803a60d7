import DocQuery.Http.Router

/-!
# Pages of other origins

A browser lets a page of another origin read an answer only if the answer names that origin, or
names all of them with a star.  Before some requests it asks first, with the method `OPTIONS`, what
the page may send.
-/

namespace DocQuery.Http

/-- The origin that an answer names for a page; a lone star allows every page. -/
def namedOrigin (allowed : List String) (origin : Option String) : Option String :=
  if allowed = ["*"] then some "*" else origin.filter fun o => allowed.contains o

/-- What an answer tells a page of another origin. -/
def originHeaders (allowed : List String) (origin : Option String) (asks : Bool) :
    List (String × String) :=
  ((namedOrigin allowed origin).toList.map fun o => ("access-control-allow-origin", o))
    ++ (if asks then
          [("access-control-allow-methods", "GET,POST,OPTIONS"),
           ("access-control-allow-headers", "*")]
        else [])

/-- The answer to a request and the headers that go with it; the question what a page may send is
answered at every address. -/
def Application.respondTo (app : Application) (allowed : List String) (origin : Option String)
    (call : Call) : Answer × List (String × String) :=
  let asks := call.method == "OPTIONS"
  (if asks then ⟨200, .empty⟩ else app.respond call, originHeaders allowed origin asks)

end DocQuery.Http
