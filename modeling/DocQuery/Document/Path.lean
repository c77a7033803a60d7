import DocQuery.Json.Basic
import DocQuery.Number.Numeral
import DocQuery.Text.Blank

/-!
# Dotted paths

A path names a place inside a document by the keys on the way, written with points between them.
There are two readings of a path.  `Document.getPath?` descends through objects only and reaches one
value at most; sorting, projection and population use it.  `Document.lookup` also spreads over the
elements of arrays and reaches any number of values; filters use it.

Both recurse on the list of segments, which is never empty: the empty text is one empty segment.

## Main definitions

* `Path.segments`
* `Document.getPath?`, `Document.lookup`, `Document.setPath`, `Document.removePath`
-/

namespace DocQuery

namespace Path

/-- The keys of a path. -/
def segments (path : String) : List String := Text.splitOnChar '.' path

/-- Segment-wise: the first path names the place of the second one or a place above it. -/
def covers (above path : String) : Bool := (segments above).isPrefixOf (segments path)

/-- The array index that a segment denotes, if it is an unsigned numeral. -/
def index? (segment : String) : Option Nat := Numeral.word? segment

end Path

namespace Document

/-- The value reached by descending through objects along the segments. -/
def descend? (doc : Document) : List String → Option Json
  | [] => none
  | [s] => doc.get? s
  | s :: rest =>
    match doc.get? s with
    | some (.object child) => descend? child rest
    | _ => none

/-- The value at a path, without entering arrays. -/
def getPath? (doc : Document) (path : String) : Option Json :=
  descend? doc (Path.segments path)

/-- The values one segment below a value: a member of an object; of an array, the element at the
index and the member of every element that is an object. -/
def childrenAt (segment : String) : Json → List Json
  | .object members => (Document.get? members segment).toList
  | .array items =>
    ((Path.index? segment).bind (items[·]?)).toList
      ++ items.filterMap fun item => item.member? segment
  | _ => []

/-- The values reached from the given values along the segments. -/
def spread : List Json → List String → List Json
  | values, [] => values
  | values, s :: rest => spread (values.flatMap (childrenAt s)) rest

/-- Every value reachable at a path; arrays on the way are traversed. -/
def lookup (doc : Document) (path : String) : List Json :=
  match Path.segments path with
  | [] => []
  | s :: rest => spread (doc.get? s).toList rest

/-- Write a value along the segments; whatever is in the way and is no object gives way to one. -/
def write (doc : Document) : List String → Json → Document
  | [], _ => doc
  | [s], value => doc.insert s value
  | s :: rest, value =>
    let child := match doc.get? s with
      | some (.object members) => members
      | _ => []
    doc.insert s (.object (write child rest value))

/-- Write a value at a path, creating objects on the way. -/
def setPath (doc : Document) (path : String) (value : Json) : Document :=
  write doc (Path.segments path) value

/-- Change the value at a key, if it is present, without moving it. -/
def adjust (key : String) (f : Json → Json) (doc : Document) : Document :=
  doc.map fun (k, v) => if k = key then (k, f v) else (k, v)

/-- Remove the value at the end of the segments, also below the objects of an array on the way. -/
def remove : List String → Document → Document
  | [], doc => doc
  | [s], doc => doc.erase s
  | s :: rest, doc =>
    doc.adjust s fun value =>
      match value with
      | .object members => .object (remove rest members)
      | .array items =>
        .array (items.map fun item =>
          match item with
          | .object members => .object (remove rest members)
          | other => other)
      | other => other

/-- Remove the value at a path; the remaining keys keep their order. -/
def removePath (doc : Document) (path : String) : Document :=
  remove (Path.segments path) doc

end Document

end DocQuery
