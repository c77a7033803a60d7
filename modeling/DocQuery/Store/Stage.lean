import DocQuery.Store.Error
import DocQuery.Store.Query

/-!
# Pipeline stages

One step of an aggregation, written as an object with a single key.
-/

namespace DocQuery

/-- A step of an aggregation. -/
inductive Stage where
  | keep (filter : Document)
  | sort (keys : List SortKey)
  | skip (count : Nat)
  | limit (count : Nat)
  | project (projection : Projection)
  /-- Replace the rows by one that holds their number in a field. -/
  | count (field : String)

namespace Stage

/-- The sort key of a member of a `$sort` stage. -/
def sortKey (member : String × Json) : Except StoreError SortKey :=
  let (field, order) := member
  if ((order.member? "$meta").bind Json.string?) = some "textScore" then .ok .textScore
  else
    match order.signed? with
    | some 1 => .ok (.field field .ascending)
    | some (-1) => .ok (.field field .descending)
    | _ => .error (.invalidQuery (.sortDirection field))

/-- The sort keys of a `$sort` stage. -/
def sortKeys : List (String × Json) → Except StoreError (List SortKey)
  | [] => .ok []
  | member :: rest => do
    let key ← sortKey member
    let keys ← sortKeys rest
    .ok (key :: keys)

/-- Whether a flag of a `$project` stage asks for a field rather than against it. -/
def isWanted : Json → Bool
  | .bool b => b
  | .number n => !n.toBinary64.isZero
  | _ => true

/-- The selection entry of a member of a `$project` stage. -/
def selectionEntry (member : String × Json) : String :=
  if isWanted member.2 then member.1 else "-" ++ member.1

/-- The members of the body of a stage that needs an object. -/
def body (name : String) (v : Json) : Except StoreError Document :=
  match v.object? with
  | some members => .ok members
  | none => .error (.invalidQuery (.stageNeedsObject name))

/-- The number in the body of a stage that needs one. -/
def number (name : String) (v : Json) : Except StoreError Nat :=
  match v.natural? with
  | some n => .ok n
  | none => .error (.invalidQuery (.stageNeedsCount name))

/-- The stage of a name and a body. -/
def ofMember (name : String) (v : Json) : Except StoreError Stage :=
  match name with
  | "$match" => (body name v).map .keep
  | "$sort" => do .ok (.sort (← sortKeys (← body name v)))
  | "$skip" => (number name v).map .skip
  | "$limit" => (number name v).map .limit
  | "$project" => do
    let flags ← body name v
    .ok (.project (Projection.ofSelection (flags.map selectionEntry) "_id"))
  | "$count" =>
    match v with
    | .string field =>
      if field.isEmpty then .error (.invalidQuery .countNeedsField) else .ok (.count field)
    | _ => .error (.invalidQuery .countNeedsField)
  | other => .error (.unsupported s!"aggregation stage '{other}'")

/-- The stage that an object spells out. -/
def ofDocument : Document → Except StoreError Stage
  | [(name, v)] => ofMember name v
  | _ => .error (.invalidQuery .stageNeedsOneKey)

/-- The stages of a pipeline; the first fault is reported. -/
def ofPipeline : List Document → Except StoreError (List Stage)
  | [] => .ok []
  | d :: ds => do
    let stage ← ofDocument d
    let stages ← ofPipeline ds
    .ok (stage :: stages)

end Stage

end DocQuery
