import DocQuery.Json.Decode
import DocQuery.Collection.Restriction
import DocQuery.Document.Projection

/-!
# Selections

Which fields a client wants: a text such as `name,-password`, a list of such texts, or a map from
fields to flags.  A selection becomes a list of entries without repetitions, in which a dash in
front marks an exclusion.

## Main definitions

* `SelectSpec`: a request in any of its forms
* `SelectSpec.entries`: its entries
* `SelectSpec.normalize`: its entries without the exclusions that inclusions make pointless
* `Selection.restrict`: a selection that keeps restricted fields hidden
-/

namespace DocQuery

namespace Selection

/-- The entries of a text with commas; blank ones and lone dashes count for nothing. -/
def splitFields (text : String) : List String :=
  ((Text.splitOnChar ',' text).map Text.trim).filter fun s => !s.isEmpty && s ≠ "-"

/-- The first occurrences of the entries of a list. -/
def distinct (entries : List String) : List String :=
  entries.foldl (fun done e => if done.contains e then done else done ++ [e]) []

/-- Whether a flag asks for a field rather than against it. -/
def isWanted : Json → Bool
  | .bool b => b
  | .number n => !n.toBinary64.isZero
  | .string s => Text.trim s ≠ "0" && Text.trim s ≠ "false"
  | .null => false
  | _ => true

/-- The entry for a field and its flag. -/
def entryOfFlag (member : String × Json) : Option String :=
  let field := Text.trim member.1
  if field.isEmpty then none
  else if isWanted member.2 then some field
  else some ("-" ++ Projection.excludedPath field)

/-- Whether some entry is an inclusion. -/
def hasInclusion (entries : List String) : Bool := entries.any fun e => !Projection.isExclusion e

/-- A selection without its inclusions of restricted fields.  If no inclusion is left, every
restricted field is excluded by name. -/
def restrict (entries restricted : List String) : List String :=
  if restricted.isEmpty then entries
  else
    let kept := entries.filter fun e => Projection.isExclusion e || !isRestricted restricted e
    if hasInclusion kept then kept
    else restricted.foldl (fun kept field =>
      let exclusion := "-" ++ field
      if kept.contains exclusion then kept else kept ++ [exclusion]) kept

end Selection

/-- A selection request. -/
inductive SelectSpec where
  | text (text : String)
  | list (texts : List String)
  | map (flags : Document)

namespace SelectSpec

/-- Read a request: a text, a list of texts or a map. -/
def decode : Decoder SelectSpec := Decoder.buffered fun
  | .string s => .ok (.text s)
  | .array drafts ending => (Decoder.list Decoder.text (.array drafts ending)).map .list
  | draft => (Decoder.document draft).map .map

/-- Every entry once, in order. -/
def entries (spec : SelectSpec) : List String :=
  Selection.distinct <| match spec with
    | .text s => Selection.splitFields s
    | .list texts => texts.flatMap Selection.splitFields
    | .map flags => flags.filterMap Selection.entryOfFlag

/-- The entries that matter: beside an inclusion the only exclusion is that of the identity. -/
def normalize (spec : SelectSpec) (idField : String) : List String :=
  let entries := spec.entries
  if Selection.hasInclusion entries then
    entries.filter fun e => !Projection.isExclusion e || e == "-" ++ idField
  else entries

end SelectSpec

end DocQuery
