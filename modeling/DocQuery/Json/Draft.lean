import DocQuery.Json.Text
import DocQuery.Number.Literal

/-!
# Reading JSON text

A text is read into a `Draft`: the value as far as the text is well formed, with a mark where it
stops being so.  A consumer that expects a particular shape can so tell which comes first, a part of
the wrong shape or the fault in the text.  `Json.ofText?` accepts only a whole, well-formed text.

The reader follows the grammar of JSON.  Containers may be nested less than 128 levels deep, escapes
must denote characters (no half of a surrogate pair), and a number may not overflow.  What breaks
only these last rules is marked as unusable: it counts as a fault unless it is skipped over.

## Main definitions

* `Draft`: a value read up to the first fault
* `Draft.ofText`: the draft of a text and whether text is left over
* `Json.ofText?`: the value of a text
-/

namespace DocQuery

/-- How the elements of a container end. -/
inductive Ending where
  /-- With the closing bracket. -/
  | closed
  /-- With the closing bracket, before which elements were left out that cannot be used. -/
  | unusable
  /-- With a fault in the text. -/
  | broken
deriving DecidableEq

/-- How a container ends of which elements are left out. -/
def Ending.leftOut : Ending → Ending
  | .broken => .broken
  | _ => .unusable

/-- A JSON value read up to the first fault of its text; repeated keys are all kept. -/
inductive Draft where
  /-- No value can be read here. -/
  | broken
  /-- A number or a string that follows the grammar and denotes nothing. -/
  | unusable
  | null
  | bool (value : Bool)
  | number (value : Number)
  | string (value : String)
  | array (items : List Draft) (ending : Ending)
  | object (members : List (String × Draft)) (ending : Ending)

instance : Inhabited Draft := ⟨.broken⟩

namespace Draft

mutual

/-- The value of a draft without faults. -/
def whole? : Draft → Option Json
  | .broken => none
  | .unusable => none
  | .null => some .null
  | .bool b => some (.bool b)
  | .number n => some (.number n)
  | .string s => some (.string s)
  | .array items .closed => (wholeItems? items).map .array
  | .array _ _ => none
  | .object members .closed => (wholeMembers? members).map fun ms => .object (Document.ofMembers ms)
  | .object _ _ => none
termination_by structural d => d

/-- The values of elements without faults. -/
def wholeItems? : List Draft → Option (List Json)
  | [] => some []
  | d :: ds => d.whole?.bind fun v => (wholeItems? ds).map (v :: ·)
termination_by structural ds => ds

/-- The values of members without faults. -/
def wholeMembers? : List (String × Draft) → Option (List (String × Json))
  | [] => some []
  | (k, d) :: ds => d.whole?.bind fun v => (wholeMembers? ds).map ((k, v) :: ·)
termination_by structural ds => ds

end

mutual

/-- Whether the text follows the grammar; whatever it denotes may be skipped then. -/
def isWellFormed : Draft → Bool
  | .broken => false
  | .array items ending => ending != .broken && areWellFormed items
  | .object members ending => ending != .broken && areWellFormedMembers members
  | _ => true
termination_by structural d => d

/-- Whether elements follow the grammar. -/
def areWellFormed : List Draft → Bool
  | [] => true
  | d :: ds => d.isWellFormed && areWellFormed ds
termination_by structural ds => ds

/-- Whether members follow the grammar. -/
def areWellFormedMembers : List (String × Draft) → Bool
  | [] => true
  | (_, d) :: ds => d.isWellFormed && areWellFormedMembers ds
termination_by structural ds => ds

end

mutual

/-- The draft of a value at hand. -/
def ofJson : Json → Draft
  | .null => .null
  | .bool b => .bool b
  | .number n => .number n
  | .string s => .string s
  | .array items => .array (ofItems items) .closed
  | .object members => .object (ofMembers members) .closed
termination_by structural v => v

/-- The drafts of elements. -/
def ofItems : List Json → List Draft
  | [] => []
  | v :: vs => ofJson v :: ofItems vs
termination_by structural vs => vs

/-- The drafts of members. -/
def ofMembers : List (String × Json) → List (String × Draft)
  | [] => []
  | (k, v) :: vs => (k, ofJson v) :: ofMembers vs
termination_by structural vs => vs

end

/-- A blank of the grammar: space, tab, line feed or carriage return. -/
def isGap (c : Char) : Bool := c = ' ' || c = '\n' || c = '\t' || c = '\r'

/-- The text after its leading blanks. -/
def skipGaps (cs : List Char) : List Char := cs.dropWhile isGap

/-- The value of a hexadecimal digit. -/
def hexValue? (c : Char) : Option Nat :=
  if '0' ≤ c ∧ c ≤ '9' then some (c.toNat - 48)
  else if 'a' ≤ c ∧ c ≤ 'f' then some (c.toNat - 87)
  else if 'A' ≤ c ∧ c ≤ 'F' then some (c.toNat - 55)
  else none

/-- A unit of four hexadecimal digits. -/
def hexUnit? : List Char → Option (Nat × List Char)
  | a :: b :: c :: d :: rest => do
    let a ← hexValue? a
    let b ← hexValue? b
    let c ← hexValue? c
    let d ← hexValue? d
    some (((a * 16 + b) * 16 + c) * 16 + d, rest)
  | _ => none

/-- The character of an escape whose backslash and `u` have been read.  Half of a surrogate pair is no
character. -/
def unicodeEscape? (cs : List Char) : Option (Option Char × List Char) := do
  let (high, rest) ← hexUnit? cs
  if 0xD800 ≤ high ∧ high < 0xDC00 then
    match rest with
    | '\\' :: 'u' :: after =>
      let (low, after) ← hexUnit? after
      if 0xDC00 ≤ low ∧ low < 0xE000 then
        some (some (Char.ofNat (0x10000 + (high - 0xD800) * 0x400 + (low - 0xDC00))), after)
      else some (none, rest)
    | _ => some (none, rest)
  else if 0xDC00 ≤ high ∧ high < 0xE000 then some (none, rest)
  else some (some (Char.ofNat high), rest)

/-- The rest of a string after its opening quote, given the characters before, latest first; after
an escape that is no character there are none any more.  `fuel` bounds the number of characters. -/
def readString : Nat → List Char → Option (List Char) → Option (Option String × List Char)
  | 0, _, _ => none
  | fuel + 1, cs, read =>
    match cs with
    | [] => none
    | '"' :: rest => some (read.map fun cs => String.ofList cs.reverse, rest)
    | '\\' :: 'u' :: rest =>
      (unicodeEscape? rest).bind fun (c?, rest) =>
        readString fuel rest (c?.bind fun c => read.map (c :: ·))
    | '\\' :: c :: rest =>
      let plain (d : Char) := readString fuel rest (read.map (d :: ·))
      match c with
      | '"' => plain '"'
      | '\\' => plain '\\'
      | '/' => plain '/'
      | 'b' => plain '\x08'
      | 'f' => plain '\x0c'
      | 'n' => plain '\n'
      | 'r' => plain '\r'
      | 't' => plain '\t'
      | _ => none
    | c :: rest => if c.toNat < 0x20 then none else readString fuel rest (read.map (c :: ·))

/-- A string after its opening quote. -/
def stringAfterQuote (cs : List Char) : Option (Option String × List Char) :=
  readString (cs.length + 1) cs (some [])

/-- Decimal digits at the head of a text. -/
def takeDigits (cs : List Char) : List Nat × List Char :=
  ((cs.takeWhile Char.isDigit).map fun c => c.toNat - 48, cs.dropWhile Char.isDigit)

/-- The fraction of a number: absent, or a point and at least one digit. -/
def readFraction (cs : List Char) : Option (Bool × List Nat × List Char) :=
  match cs with
  | '.' :: rest =>
    match takeDigits rest with
    | ([], _) => none
    | (digits, rest) => some (true, digits, rest)
  | _ => some (false, [], cs)

/-- The exponent of a number: absent, or its mark, a sign if any, and at least one digit. -/
def readExponent (cs : List Char) : Option (Option Int × List Char) :=
  let unsigned (negative : Bool) (cs : List Char) : Option (Option Int × List Char) :=
    match takeDigits cs with
    | ([], _) => none
    | (digits, rest) =>
      let n : Nat := digits.foldl (fun n d => n * 10 + d) 0
      some (some (if negative then -(n : Int) else n), rest)
  let signed (cs : List Char) :=
    match cs with
    | '+' :: rest => unsigned false rest
    | '-' :: rest => unsigned true rest
    | _ => unsigned false cs
  match cs with
  | 'e' :: rest => signed rest
  | 'E' :: rest => signed rest
  | _ => some (none, cs)

/-- A number at the head of a text, if it does not overflow; a whole part of several digits does not
start with a zero. -/
def readNumber (cs : List Char) : Option (Option Number × List Char) := do
  let (negative, cs) := match cs with
    | '-' :: rest => (true, rest)
    | _ => (false, cs)
  let (whole, cs) := takeDigits cs
  match whole with
  | [] => none
  | 0 :: _ :: _ => none
  | _ =>
    let (pointed, fraction, cs) ← readFraction cs
    let (exponent, cs) ← readExponent cs
    some (NumberLiteral.value? ⟨negative, whole, fraction, pointed, exponent⟩, cs)

/-- A container that stands at the given depth: beyond the limit its elements are left out. -/
def within (depth : Nat) : Draft × Option (List Char) → Draft × Option (List Char)
  | (.array items ending, rest) =>
    if depth ≤ 1 then (.array [] ending.leftOut, rest) else (.array items ending, rest)
  | (.object members ending, rest) =>
    if depth ≤ 1 then (.object [] ending.leftOut, rest) else (.object members ending, rest)
  | other => other

/-- An object after a member whose key cannot be used: the members from there on are left out. -/
def upToKey (done : List (String × Draft)) :
    Draft × Option (List Char) → Draft × Option (List Char)
  | (.object _ ending, rest) => (.object done.reverse ending.leftOut, rest)
  | (_, rest) => (.object done.reverse .broken, rest)

mutual

/-- Read a value; the rest of the text is absent after a fault.  `fuel` bounds the number of steps
and `depth` the number of further levels. -/
def read : Nat → Nat → List Char → Draft × Option (List Char)
  | 0, _, _ => (.broken, none)
  | fuel + 1, depth, cs =>
    match skipGaps cs with
    | 'n' :: 'u' :: 'l' :: 'l' :: rest => (.null, some rest)
    | 't' :: 'r' :: 'u' :: 'e' :: rest => (.bool true, some rest)
    | 'f' :: 'a' :: 'l' :: 's' :: 'e' :: rest => (.bool false, some rest)
    | '"' :: rest =>
      match stringAfterQuote rest with
      | some (some s, rest) => (.string s, some rest)
      | some (none, rest) => (.unusable, some rest)
      | none => (.broken, none)
    | '[' :: rest =>
      within depth <| match skipGaps rest with
        | ']' :: rest => (.array [] .closed, some rest)
        | rest => readItems fuel (depth - 1) rest []
    | '{' :: rest =>
      within depth <| match skipGaps rest with
        | '}' :: rest => (.object [] .closed, some rest)
        | rest => readMembers fuel (depth - 1) rest []
    | cs =>
      match readNumber cs with
      | some (some n, rest) => (.number n, some rest)
      | some (none, rest) => (.unusable, some rest)
      | none => (.broken, none)

/-- Read the elements of an array up to its closing bracket. -/
def readItems : Nat → Nat → List Char → List Draft → Draft × Option (List Char)
  | 0, _, _, done => (.array done.reverse .broken, none)
  | fuel + 1, depth, cs, done =>
    match read fuel depth cs with
    | (item, none) => (.array (item :: done).reverse .broken, none)
    | (item, some rest) =>
      match skipGaps rest with
      | ',' :: rest => readItems fuel depth rest (item :: done)
      | ']' :: rest => (.array (item :: done).reverse .closed, some rest)
      | _ => (.array (item :: done).reverse .broken, none)

/-- Read the members of an object up to its closing brace. -/
def readMembers : Nat → Nat → List Char → List (String × Draft) → Draft × Option (List Char)
  | 0, _, _, done => (.object done.reverse .broken, none)
  | fuel + 1, depth, cs, done =>
    match skipGaps cs with
    | '"' :: rest =>
      match stringAfterQuote rest with
      | none => (.object done.reverse .broken, none)
      | some (none, rest) =>
        upToKey done <| match skipGaps rest with
          | ':' :: rest =>
            match read fuel depth rest with
            | (_, none) => (.object [] .broken, none)
            | (_, some rest) =>
              match skipGaps rest with
              | ',' :: rest => readMembers fuel depth rest []
              | '}' :: rest => (.object [] .closed, some rest)
              | _ => (.object [] .broken, none)
          | _ => (.object [] .broken, none)
      | some (some key, rest) =>
        match skipGaps rest with
        | ':' :: rest =>
          match read fuel depth rest with
          | (item, none) => (.object ((key, item) :: done).reverse .broken, none)
          | (item, some rest) =>
            match skipGaps rest with
            | ',' :: rest => readMembers fuel depth rest ((key, item) :: done)
            | '}' :: rest => (.object ((key, item) :: done).reverse .closed, some rest)
            | _ => (.object ((key, item) :: done).reverse .broken, none)
        | _ => (.object ((key, .broken) :: done).reverse .broken, none)
    | _ => (.object done.reverse .broken, none)

end

/-- The number of levels at which a text is refused. -/
def depthLimit : Nat := 128

/-- The draft of a text, and whether nothing but blanks follows the value. -/
def ofText (text : String) (depth : Nat) : Draft × Bool :=
  let cs := text.toList
  match read (2 * cs.length + 2) depth cs with
  | (draft, some rest) => (draft, (skipGaps rest).isEmpty)
  | (draft, none) => (draft, false)

end Draft

namespace Json

/-- The value of a well-formed text nested less deeply than `depth` levels. -/
def ofTextWithin? (depth : Nat) (text : String) : Option Json :=
  match Draft.ofText text depth with
  | (draft, true) => draft.whole?
  | (_, false) => none

/-- The value of a well-formed text. -/
def ofText? (text : String) : Option Json := ofTextWithin? Draft.depthLimit text

end Json

end DocQuery
