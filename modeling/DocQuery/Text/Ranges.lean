/-!
# Tables of characters

Properties of characters are kept as tables written in a compact text: closed ranges of code points
in hexadecimal, in ascending order.  This module reads such texts and looks characters up.

## Main definitions

* `Ranges`: a set of code points
* `Shift`: a run of code points that a mapping moves by one distance
-/

namespace DocQuery.Text

/-- Closed ranges of code points, ascending and apart. -/
abbrev Ranges := List (Nat × Nat)

/-- The value of a hexadecimal numeral in lower case. -/
def hexNumeral (cs : List Char) : Nat :=
  cs.foldl (fun n c => n * 16 + if c.isDigit then c.toNat - 48 else c.toNat - 87) 0

/-- The pieces between separators. -/
def pieces (separator : Char) : List Char → List (List Char)
  | [] => [[]]
  | c :: rest =>
    match pieces separator rest with
    | [] => [[c]]
    | piece :: more => if c = separator then [] :: piece :: more else (c :: piece) :: more

/-- The entries of a table, which are separated by single blanks. -/
def entries (lines : List String) : List (List Char) :=
  lines.flatMap fun line => pieces ' ' line.toList

namespace Ranges

/-- A range is written `first-last`, a range of one code point as that code point. -/
def ofEntry (entry : List Char) : Nat × Nat :=
  match pieces '-' entry with
  | [first, last] => (hexNumeral first, hexNumeral last)
  | _ => (hexNumeral entry, hexNumeral entry)

/-- The ranges of a table. -/
def ofLines (lines : List String) : Ranges := (entries lines).map ofEntry

/-- Whether a code point lies in one of the ranges; the search ends at the first range above it. -/
def contains : Ranges → Nat → Bool
  | [], _ => false
  | (first, last) :: rest, n => if n < first then false else n ≤ last || contains rest n

/-- Add a range, joining the ranges that it meets. -/
def insert (first last : Nat) : Ranges → Ranges
  | [] => [(first, last)]
  | (a, b) :: rest =>
    if last + 1 < a then (first, last) :: (a, b) :: rest
    else if b + 1 < first then (a, b) :: insert first last rest
    else insert (min first a) (max last b) rest

/-- The code points of either set. -/
def union (r s : Ranges) : Ranges := r.foldl (fun out range => out.insert range.1 range.2) s

/-- The last code point of the standard. -/
def lastCodePoint : Nat := 0x10FFFF

/-- The code points from `start` on that are not in a set above it. -/
def complementFrom : Nat → Ranges → Ranges
  | start, [] => if start ≤ lastCodePoint then [(start, lastCodePoint)] else []
  | start, (first, last) :: rest =>
    if start < first then (start, first - 1) :: complementFrom (last + 1) rest
    else complementFrom (last + 1) rest

/-- The code points outside a set. -/
def complement (r : Ranges) : Ranges := complementFrom 0 r

/-- The code points of both sets. -/
def intersection (r s : Ranges) : Ranges := (r.complement.union s.complement).complement

/-- The code points of the first set that are not in the second. -/
def difference (r s : Ranges) : Ranges := r.intersection s.complement

/-- The code points of exactly one of the sets. -/
def symmetricDifference (r s : Ranges) : Ranges := (r.difference s).union (s.difference r)

end Ranges

/-- A run of code points, every one or every second of which moves by the same distance. -/
structure Shift where
  first : Nat
  last : Nat
  step : Nat
  distance : Int

namespace Shift

/-- A run is written `first-last/distance`, or with a colon when every second code point moves. -/
def ofEntry (entry : List Char) : Shift :=
  let range := entry.takeWhile fun c => c != '/' && c != ':'
  let mark := entry.dropWhile fun c => c != '/' && c != ':'
  let distance : Int := match mark.drop 1 with
    | '-' :: digits => -(hexNumeral digits : Int)
    | digits => hexNumeral digits
  match pieces '-' range with
  | [first, last] => ⟨hexNumeral first, hexNumeral last, if mark.head? = some ':' then 2 else 1, distance⟩
  | _ => ⟨1, 0, 1, 0⟩

/-- The runs of a table. -/
def listOfLines (lines : List String) : List Shift := (entries lines).map ofEntry

/-- Whether the run moves a code point. -/
def moves (s : Shift) (n : Nat) : Bool :=
  s.first ≤ n && n ≤ s.last && (n - s.first) % s.step == 0

/-- Where the first run that moves a code point moves it. -/
def image? : List Shift → Nat → Option Nat
  | [], _ => none
  | s :: rest, n =>
    if n < s.first then none
    else if s.moves n then some ((n : Int) + s.distance).toNat
    else image? rest n

/-- The code point that the run moves to `n`. -/
def source? (s : Shift) (n : Nat) : Option Nat :=
  let source := ((n : Int) - s.distance).toNat
  if s.moves source then some source else none

end Shift

/-- The runs of a table of entries `first:value`. -/
def runsOfLines (lines : List String) : List (Nat × String) :=
  (entries lines).filterMap fun entry =>
    match pieces ':' entry with
    | [first, value] => some (hexNumeral first, String.ofList value)
    | _ => none

/-- The value of the last run that starts at or before a code point. -/
def runValue : List (Nat × String) → String → Nat → String
  | [], value, _ => value
  | (first, next) :: rest, value, n => if n < first then value else runValue rest next n

/-- The code points of the runs with a wanted value, each up to the next run. -/
def rangesOfRuns (wanted : String → Bool) : List (Nat × String) → Ranges
  | [] => []
  | [(first, value)] => if wanted value then [(first, Ranges.lastCodePoint)] else []
  | (first, value) :: (next, other) :: rest =>
    let more := rangesOfRuns wanted ((next, other) :: rest)
    if wanted value then more.insert first (next - 1) else more

end DocQuery.Text
