import DocQuery.Json.Basic

/-!
# Tables of TOML

The tree that a configuration file builds up line by line.  A table may be completed only in the way
that it was begun: a table with a header of its own is closed to other headers and to dotted keys, a
table made by dotted keys is closed to headers, and a table that only stands on the way to another
one may still get its header.

## Main definitions

* `Toml.Node`, `Toml.TableState`
* `Toml.descend`: change a table at the end of a path
* `Toml.defineKey`, `Toml.openTable`, `Toml.openElement`: what the lines of a file do
-/

namespace DocQuery.Toml

/-- How a table came about. -/
inductive TableState where
  /-- By a header of its own, or it is the whole file. -/
  | declared
  /-- It stands on the way to a table with a header. -/
  | implied
  /-- By a dotted key. -/
  | dotted
deriving DecidableEq

/-- What a key stands for. -/
inductive Node where
  | value (value : Json)
  | table (state : TableState) (members : List (String × Node))
  /-- A list of tables with headers; the last one is still open. -/
  | tables (items : List (List (String × Node)))

/-- The members of a table in order. -/
abbrev Members := List (String × Node)

/-- Put a node under a key that is there. -/
def replace (key : String) (node : Node) (members : Members) : Members :=
  members.map fun (k, n) => if k = key then (k, node) else (k, n)

/-- Change the table at the end of a path, making the tables on the way.  By a dotted key only tables
without a header of their own can be entered. -/
def descend (byKey : Bool) (change : TableState → Members → Option Members) :
    List String → TableState → Members → Option Members
  | [], state, members => change state members
  | key :: rest, _, members =>
    match members.lookup key with
    | none =>
      let state := if byKey then TableState.dotted else .implied
      (descend byKey change rest state []).map fun inner => members ++ [(key, .table state inner)]
    | some (.value _) => none
    | some (.tables items) =>
      if byKey then none
      else
        match items.getLast? with
        | none => none
        | some last => (descend byKey change rest .declared last).map fun inner =>
            replace key (.tables (items.dropLast ++ [inner])) members
    | some (.table state inner) =>
      if byKey ∧ state = .declared then none
      else (descend byKey change rest state inner).map fun inner =>
        replace key (.table state inner) members

/-- Define a key, which may be dotted, in an open table. -/
def defineKey (path : List String) (key : String) (value : Json) (members : Members) :
    Option Members :=
  descend true (fun state inner =>
    if (!path.isEmpty && state ≠ .dotted) || (inner.lookup key).isSome then none
    else some (inner ++ [(key, .value value)])) path .declared members

/-- Begin a table by a header. -/
def openTable (path : List String) (key : String) (members : Members) : Option Members :=
  descend false (fun _ inner =>
    match inner.lookup key with
    | none => some (inner ++ [(key, .table .declared [])])
    | some (.table .implied own) =>
      some ((inner.filter fun member => member.1 ≠ key) ++ [(key, .table .declared own)])
    | some _ => none) path .declared members

/-- Begin a further table of a list by a header. -/
def openElement (path : List String) (key : String) (members : Members) : Option Members :=
  descend false (fun _ inner =>
    match inner.lookup key with
    | none => some (inner ++ [(key, .tables [[]])])
    | some (.tables items) => some (replace key (.tables (items ++ [[]])) inner)
    | some _ => none) path .declared members

mutual

/-- A node as a value. -/
def Node.toJson : Node → Json
  | .value v => v
  | .table _ members => .object (membersToJson members)
  | .tables items => .array (elementsToJson items)
termination_by structural n => n

/-- The members of a table as values. -/
def membersToJson : List (String × Node) → List (String × Json)
  | [] => []
  | (k, n) :: rest => (k, n.toJson) :: membersToJson rest
termination_by structural ms => ms

/-- The tables of a list as values. -/
def elementsToJson : List (List (String × Node)) → List Json
  | [] => []
  | members :: rest => .object (membersToJson members) :: elementsToJson rest
termination_by structural items => items

end

end DocQuery.Toml
