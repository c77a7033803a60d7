/-!
# Texts as bytes

The encoding of characters in one to four bytes.  Bytes that are no such encoding are read as a
fault; `decodeLossy` puts a replacement character for each of them, a cut-off character counting as
one fault.
-/

namespace DocQuery.Text.Utf8

/-- The bytes of a text. -/
def encode (s : String) : List Nat := s.toUTF8.toList.map UInt8.toNat

/-- Whether a byte continues a character. -/
def isContinuation (b : Nat) : Bool := 0x80 ≤ b && b ≤ 0xBF

/-- Whether a byte may follow the first byte of a character of several bytes. -/
def maySecond (first second : Nat) : Bool :=
  match first with
  | 0xE0 => 0xA0 ≤ second && second ≤ 0xBF
  | 0xED => 0x80 ≤ second && second ≤ 0x9F
  | 0xF0 => 0x90 ≤ second && second ≤ 0xBF
  | 0xF4 => 0x80 ≤ second && second ≤ 0x8F
  | _ => isContinuation second

/-- The number of bytes that follow the first byte of a character. -/
def following? (first : Nat) : Option Nat :=
  if first < 0x80 then some 0
  else if 0xC2 ≤ first ∧ first ≤ 0xDF then some 1
  else if 0xE0 ≤ first ∧ first ≤ 0xEF then some 2
  else if 0xF0 ≤ first ∧ first ≤ 0xF4 then some 3
  else none

/-- The bytes that continue a character after its first byte, at most `count` of them. -/
def tail (first count : Nat) (rest : List Nat) : List Nat :=
  match rest.take count with
  | [] => []
  | second :: more =>
    if maySecond first second then second :: more.takeWhile isContinuation else []

/-- The code point of the bytes of a character. -/
def codePoint (first : Nat) (tail : List Nat) : Nat :=
  let lead := match tail.length with
    | 0 => first
    | 1 => first % 0x20
    | 2 => first % 0x10
    | _ => first % 0x08
  tail.foldl (fun n b => n * 0x40 + b % 0x40) lead

/-- The characters of bytes, with `none` for a fault. -/
def decodeParts (bytes : List Nat) : List (Option Char) :=
  match bytes with
  | [] => []
  | first :: rest =>
    match following? first with
    | none => none :: decodeParts rest
    | some count =>
      let tail := tail first count rest
      let part := if tail.length = count then some (Char.ofNat (codePoint first tail)) else none
      part :: decodeParts (rest.drop tail.length)
termination_by bytes.length
decreasing_by all_goals simp only [List.length_cons, List.length_drop]; omega

/-- The text of bytes without a fault. -/
def decode? (bytes : List Nat) : Option String :=
  ((decodeParts bytes).mapM id).map String.ofList

/-- The text of bytes with a replacement character for each fault. -/
def decodeLossy (bytes : List Nat) : String :=
  String.ofList ((decodeParts bytes).map fun part => part.getD '\uFFFD')

end DocQuery.Text.Utf8
