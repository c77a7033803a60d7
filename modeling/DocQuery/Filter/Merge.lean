import DocQuery.Filter.Operator

/-!
# Merging filters

The native clauses of the defaults and those of a client are merged into one filter.  Fields that
only one side tests keep their clause.  Two operator maps on one field are merged key by key, the
client's operand winning; any other disagreement keeps both clauses as members of `$and`, as do all
logical keys of the client.
-/

namespace DocQuery

/-- What becomes of a field that the client tests. -/
inductive Resolution where
  /-- Both sides agree. -/
  | keep
  /-- Only the client tests the field. -/
  | insert (value : Json)
  /-- Both sides hold operator maps. -/
  | replace (value : Json)
  /-- Both clauses have to hold. -/
  | conjoin

namespace Resolution

/-- Merge operator maps key by key, the client's operands winning. -/
def mergeOperators (defaults client : Document) : Document :=
  client.foldl (fun ops member => ops.insert member.1 member.2) defaults

/-- What becomes of a field, given its clause among the defaults and the client's clause. -/
def decide (default? : Option Json) (client : Json) : Resolution :=
  match default? with
  | none => .insert client
  | some standing =>
    if standing.equal client then .keep
    else
      match standing.operators?, client.operators? with
      | some ours, some theirs => .replace (.object (mergeOperators ours theirs))
      | _, _ => .conjoin

end Resolution

/-- The resolution of each field of the client's filter in order. -/
def resolutions (defaults client : Document) : List (String × Resolution) :=
  (client.filter fun member => !isDollarKey member.1).map fun (field, value) =>
    (field, .decide (defaults.get? field) value)

/-- The clause that a default contributes, and the members of `$and` that it and the client's
clause become instead. -/
def mergeDefault (client : Document) (resolved : List (String × Resolution))
    (entry : String × Json) : List (String × Json) × List Json :=
  let (field, value) := entry
  match resolved.lookup field with
  | some (.replace merged) => ([(field, merged)], [])
  | some .conjoin =>
    ([], [.object [(field, value)], .object [(field, (client.get? field).getD .null)]])
  | _ => ([entry], [])

/-- The members of a `$and` list; a value that is no list counts as its only member. -/
def conjunctsOf : Option Json → List Json
  | none => []
  | some (.array items) => items
  | some other => [other]

/-- Merge the clauses of defaults with those of a client. -/
def mergeFilters (defaults client : Document) : Document :=
  let resolved := resolutions defaults client
  let logical := client.filter fun member => isDollarKey member.1
  let parts := (defaults.filter fun member => member.1 ≠ "$and").map (mergeDefault client resolved)
  let inserted := resolved.filterMap fun (field, resolution) =>
    match resolution with
    | .insert value => some (field, value)
    | _ => none
  let merged := Document.ofMembers (parts.flatMap Prod.fst ++ inserted)
  let conjuncts := (logical.map fun member => Json.object [member]) ++ parts.flatMap Prod.snd
  let all := conjunctsOf (defaults.get? "$and") ++ conjuncts
  if all.isEmpty then merged else merged.insert "$and" (.array all)

end DocQuery
