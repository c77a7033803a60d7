import DocQuery.Query.Diagnostic
import DocQuery.Query.Selection

/-!
# Expansion requests

Which references a client wants replaced by the records they point to.  In its compact form a
request is a list of paths with commas, each perhaps followed by a sub-selection in parentheses:
`author(name,email),tags`.  It may also be a list of such texts and of records.

The commas inside parentheses do not separate entries.  An entry that is malformed is left out and
reported; the entries beside it are not affected.

## Main definitions

* `ExpandSpec`: a request in any of its forms
* `Expansion.topLevelParts`: the entries of a compact text
* `Expansion.ofPart`: the meaning of one entry
* `ExpandSpec.normalize`: the references to expand
-/

namespace DocQuery

/-- A reference to expand and the fields wanted of the records it points to. -/
structure Expansion where
  path : String
  select : Option (List String)
deriving DecidableEq

namespace Expansion

/-- Cut a text at the commas outside parentheses, `depth` of which are open. -/
def topLevelParts : Nat → List Char → List (List Char)
  | _, [] => [[]]
  | depth, c :: rest =>
    if c = ',' ∧ depth = 0 then [] :: topLevelParts 0 rest
    else
      let inside := if c = '(' then depth + 1 else if c = ')' then depth - 1 else depth
      match topLevelParts inside rest with
      | part :: parts => (c :: part) :: parts
      | [] => [[c]]

/-- Whether every parenthesis has its partner, when `depth` of them are open. -/
def isBalanced : Nat → List Char → Bool
  | depth, [] => depth == 0
  | depth, '(' :: rest => isBalanced (depth + 1) rest
  | 0, ')' :: _ => false
  | depth + 1, ')' :: rest => isBalanced depth rest
  | depth, _ :: rest => isBalanced depth rest

/-- Whether a path is made of letters, digits and underscores with points between them. -/
def isPath (path : String) : Bool :=
  (Text.splitOnChar '.' path).all fun segment =>
    !segment.isEmpty && segment.toList.all fun c => c.isAlphanum || c = '_'

/-- A part of a request that is left out. -/
def malformed (part reason : String) : Except Diagnostic (Option Expansion) :=
  .error (.malformedExpansion part reason)

/-- The meaning of one entry: `path` or `path(a,b)`; a blank one means nothing. -/
def ofPart (part : List Char) : Except Diagnostic (Option Expansion) :=
  let entry := Text.trimChars part
  let shown := String.ofList entry
  if !isBalanced 0 part then malformed shown "unbalanced parentheses"
  else if entry.isEmpty then .ok none
  else
    match Text.splitOnce '(' entry with
    | none =>
      if isPath shown then .ok (some ⟨shown, none⟩) else malformed shown "invalid relation path"
    | some (before, after) =>
      let path := String.ofList (Text.trimChars before)
      match (Text.trimEnd after).reverse with
      | ')' :: inner =>
        if inner.any fun c => c = '(' || c = ')' then
          malformed shown "only one level of nesting is supported"
        else if !isPath path then malformed shown "invalid relation path"
        else
          let fields := Selection.distinct (Selection.splitFields (String.ofList inner.reverse))
          .ok (some ⟨path, if fields.isEmpty then none else some fields⟩)
      | _ => malformed shown "unexpected text after sub-selection"

/-- What a compact text asks for. -/
def ofText (text : String) : List (Except Diagnostic (Option Expansion)) :=
  (topLevelParts 0 text.toList).map ofPart

/-- What a record asks for. -/
def ofRecord (path : String) (select : Option SelectSpec) : Except Diagnostic (Option Expansion) :=
  let path := Text.trim path
  if path.isEmpty then .ok none
  else if !isPath path then malformed path "invalid relation path"
  else
    let fields := (select.map SelectSpec.entries).getD []
    .ok (some ⟨path, if fields.isEmpty then none else some fields⟩)

/-- Add an expansion to those before it.  A path keeps its first position, and of its sub-selections
the last one counts. -/
def add (done : List Expansion) (next : Expansion) : List Expansion :=
  if done.any (·.path = next.path) then
    done.map fun e => if e.path = next.path then { e with select := next.select <|> e.select } else e
  else done ++ [next]

end Expansion

/-- An entry of an expansion request. -/
inductive ExpandEntry where
  | text (text : String)
  | record (path : String) (select : Option SelectSpec)

/-- An expansion request. -/
inductive ExpandSpec where
  | text (text : String)
  | list (entries : List ExpandEntry)

namespace ExpandEntry

/-- A record with a path and perhaps a selection. -/
def recordFields : List (RecordField (String × Option SelectSpec)) :=
  [.needed ["path"] Decoder.text fun path r => (path, r.2),
   .defaulted ["select", "fields"] (Decoder.optional SelectSpec.decode) fun s r => (r.1, s)]

/-- Read an entry: a text, or a record written as an object. -/
def decode : Decoder ExpandEntry
  | .string s => .ok (.text s)
  | draft => (Decoder.keyedRecord recordFields ("", none) draft).map fun r => .record r.1 r.2

/-- What an entry asks for. -/
def parts : ExpandEntry → List (Except Diagnostic (Option Expansion))
  | .text s => Expansion.ofText s
  | .record path select => [Expansion.ofRecord path select]

end ExpandEntry

namespace ExpandSpec

/-- Read a request: a text or a list. -/
def decode : Decoder ExpandSpec := Decoder.buffered fun
  | .string s => .ok (.text s)
  | draft => (Decoder.list ExpandEntry.decode draft).map .list

/-- What a request asks for, part by part. -/
def parts : ExpandSpec → List (Except Diagnostic (Option Expansion))
  | .text s => Expansion.ofText s
  | .list entries => entries.flatMap ExpandEntry.parts

/-- The references to expand, and the entries left out. -/
def normalize (spec : ExpandSpec) : List Expansion × List Diagnostic :=
  let expansions := spec.parts.filterMap fun
    | .ok expansion => expansion
    | .error _ => none
  let diagnostics := spec.parts.filterMap fun
    | .ok _ => none
    | .error d => some d
  (expansions.foldl Expansion.add [], diagnostics)

/-- The path that a part of a compact text names. -/
def pathOfPart (part : List Char) : String :=
  String.ofList (Text.trimChars (part.takeWhile (· ≠ '(')))

/-- A compact text without the parts on blocked paths. -/
def restrictText (blocked : String → Bool) (text : String) : String :=
  let parts := (Expansion.topLevelParts 0 text.toList).filter fun p => !blocked (pathOfPart p)
  Text.join "," (parts.map String.ofList)

/-- A request without the parts on blocked paths. -/
def restrict (blocked : String → Bool) : ExpandSpec → ExpandSpec
  | .text s => .text (restrictText blocked s)
  | .list entries => .list (entries.filterMap fun
    | .text s => some (.text (restrictText blocked s))
    | .record path select => if blocked (Text.trim path) then none else some (.record path select))

end ExpandSpec

end DocQuery
