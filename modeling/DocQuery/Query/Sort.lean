import DocQuery.Document.Sort
import DocQuery.Json.Decode
import DocQuery.Query.Diagnostic

/-!
# Sort requests

The order in which a client wants the records: a text such as `price:desc,name`, a list of such
texts, or a list of records.  Normalizing keeps the order of the entries and the first mention of
each field; an entry with a direction that means nothing is left out and reported.

## Main definitions

* `SortField`: a field and a direction
* `SortSpec`: a request in any of its forms
* `SortSpec.normalize`: the fields to sort by
* `SortSpec.restrict`: a request without the fields that are blocked
-/

namespace DocQuery

/-- A field and the direction to sort it by. -/
structure SortField where
  field : String
  direction : SortDirection
deriving DecidableEq

/-- An entry of a sort request. -/
inductive SortEntry where
  | text (text : String)
  | record (field : String) (order : Option Json)

/-- A sort request. -/
inductive SortSpec where
  | text (text : String)
  | list (entries : List SortEntry)

namespace SortEntry

/-- A record with a field and perhaps an order. -/
def recordFields : List (RecordField (String × Option Json)) :=
  [.needed ["field"] Decoder.text fun field r => (field, r.2),
   .defaulted ["order", "direction"] (Decoder.optional Decoder.value) fun order r => (r.1, order)]

/-- Read an entry: a text, or a record written as an object. -/
def decode : Decoder SortEntry
  | .string s => .ok (.text s)
  | draft => (Decoder.keyedRecord recordFields ("", none) draft).map fun r => .record r.1 r.2

/-- The field and direction of one part of a text: `field`, `-field`, `+field` or
`field:direction`.  A part without a field stands for nothing. -/
def ofPart (part : String) : Except Diagnostic (Option SortField) :=
  let field? (cs : List Char) (direction : SortDirection) : Option SortField :=
    let field := Text.trimChars cs
    if field.isEmpty then none else some ⟨String.ofList field, direction⟩
  let cs := Text.trimChars part.toList
  match Text.splitOnce ':' cs with
  | none =>
    match cs with
    | '-' :: rest => .ok (field? rest .descending)
    | _ => .ok (field? (cs.dropWhile (· = '+')) .ascending)
  | some (before, after) =>
    let token := Text.trimChars after
    if token.isEmpty then .ok (field? before .ascending)
    else
      match SortDirection.parse? (String.ofList token) with
      | some direction => .ok (field? before direction)
      | none =>
        match field? before .ascending with
        | none => .ok none
        | some f => .error (.malformedSort f.field (String.ofList token))

/-- The direction that the order of a record means; without one it is ascending. -/
def directionOf? : Option Json → Option SortDirection
  | none | some .null => some .ascending
  | some (.string s) => if Text.isBlankText s then some .ascending else SortDirection.parse? s
  | some (.number n) =>
    match n.signed? with
    | some 1 => some .ascending
    | some (-1) => some .descending
    | _ => none
  | some _ => none

/-- The field and direction of a record. -/
def ofRecord (field : String) (order : Option Json) : Except Diagnostic (Option SortField) :=
  let field := Text.trim field
  if field.isEmpty then .ok none
  else
    match directionOf? order with
    | some direction => .ok (some ⟨field, direction⟩)
    | none => .error (.malformedSort field ((order.map Json.text).getD ""))

/-- What the parts of a text ask for. -/
def ofText (text : String) : List (Except Diagnostic (Option SortField)) :=
  (Text.splitOnChar ',' text).map ofPart

/-- What an entry asks for. -/
def parts : SortEntry → List (Except Diagnostic (Option SortField))
  | .text s => ofText s
  | .record field order => [ofRecord field order]

end SortEntry

namespace SortSpec

/-- Read a request: a text or a list. -/
def decode : Decoder SortSpec := Decoder.buffered fun
  | .string s => .ok (.text s)
  | draft => (Decoder.list SortEntry.decode draft).map .list

/-- What a request asks for, part by part. -/
def parts : SortSpec → List (Except Diagnostic (Option SortField))
  | .text s => SortEntry.ofText s
  | .list entries => entries.flatMap SortEntry.parts

/-- Add a field to those before it, unless it is among them. -/
def addField (fields : List SortField) (next : SortField) : List SortField :=
  if fields.any (·.field = next.field) then fields else fields ++ [next]

/-- The fields to sort by, and the entries left out. -/
def normalize (spec : SortSpec) : List SortField × List Diagnostic :=
  let fields := spec.parts.filterMap fun
    | .ok field => field
    | .error _ => none
  let diagnostics := spec.parts.filterMap fun
    | .ok _ => none
    | .error d => some d
  (fields.foldl addField [], diagnostics)

/-- The field that a part of a text names, whatever its direction is. -/
def fieldOfPart (part : String) : String :=
  let cs := (Text.trimChars part.toList).dropWhile fun c => c = '-' || c = '+'
  String.ofList (Text.trimChars (cs.takeWhile (· ≠ ':')))

/-- A text without the parts on blocked fields. -/
def restrictText (blocked : String → Bool) (text : String) : String :=
  Text.join "," ((Text.splitOnChar ',' text).filter fun part => !blocked (fieldOfPart part))

/-- A request without the parts on blocked fields. -/
def restrict (blocked : String → Bool) : SortSpec → SortSpec
  | .text s => .text (restrictText blocked s)
  | .list entries => .list (entries.filterMap fun
    | .text s => some (.text (restrictText blocked s))
    | .record field order => if blocked (Text.trim field) then none else some (.record field order))

end SortSpec

end DocQuery
