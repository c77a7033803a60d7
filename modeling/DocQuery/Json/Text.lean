import DocQuery.Json.Basic

/-!
# The text form of a value

Compact JSON: no blanks, members in their order, and in strings only the quote, the backslash and
the characters below the space written with an escape.
-/

namespace DocQuery

/-- A lower-case hexadecimal digit. -/
def hexDigit (n : Nat) : Char :=
  if n < 10 then Char.ofNat (48 + n) else Char.ofNat (87 + n)

namespace Json

/-- The characters that stand for one character inside a quoted string. -/
def escaped (c : Char) : List Char :=
  match c with
  | '"' => ['\\', '"']
  | '\\' => ['\\', '\\']
  | '\n' => ['\\', 'n']
  | '\r' => ['\\', 'r']
  | '\t' => ['\\', 't']
  | '\x08' => ['\\', 'b']
  | '\x0c' => ['\\', 'f']
  | c =>
    if c.toNat < 0x20 then ['\\', 'u', '0', '0', hexDigit (c.toNat / 16), hexDigit (c.toNat % 16)]
    else [c]

/-- A quoted string followed by `rest`. -/
def writeString (s : String) (rest : List Char) : List Char :=
  '"' :: s.toList.flatMap escaped ++ '"' :: rest

mutual

/-- The text of a value followed by `rest`. -/
def write : Json → List Char → List Char
  | .null, rest => "null".toList ++ rest
  | .bool true, rest => "true".toList ++ rest
  | .bool false, rest => "false".toList ++ rest
  | .number n, rest => n.text.toList ++ rest
  | .string s, rest => writeString s rest
  | .array items, rest => '[' :: writeItems true items (']' :: rest)
  | .object members, rest => '{' :: writeMembers true members ('}' :: rest)
termination_by structural v => v

/-- The elements of an array, each but the first after a comma. -/
def writeItems : Bool → List Json → List Char → List Char
  | _, [], rest => rest
  | first, v :: vs, rest =>
    let tail := v.write (writeItems false vs rest)
    if first then tail else ',' :: tail
termination_by structural _ vs => vs

/-- The members of an object, each but the first after a comma. -/
def writeMembers : Bool → List (String × Json) → List Char → List Char
  | _, [], rest => rest
  | first, (k, v) :: vs, rest =>
    let tail := writeString k (':' :: v.write (writeMembers false vs rest))
    if first then tail else ',' :: tail
termination_by structural _ vs => vs

end

/-- The text form of a value; it also serves as a key that tells values apart. -/
def text (v : Json) : String := String.ofList (v.write [])

end Json

end DocQuery
