import DocQuery.Json.Draft
import DocQuery.Text.Ranges
import DocQuery.Text.Blank
import DocQuery.Text.Utf8

/-!
# Addresses of requests

The path of an address and the parameters behind its question mark.  A byte may be written as a
percent sign and two hexadecimal digits; a percent sign without two digits stands for itself.

In parameters a plus sign stands for a blank, and a parameter given more than once has its last
value.
-/

namespace DocQuery.Http

/-- The value of a byte that is a hexadecimal digit. -/
def hexByte? (b : Nat) : Option Nat := if b < 128 then Draft.hexValue? (Char.ofNat b) else none

/-- Bytes with their percent escapes resolved. -/
def percentDecode : List Nat → List Nat
  | 0x25 :: high :: low :: rest =>
    match hexByte? high, hexByte? low with
    | some h, some l => (h * 16 + l) :: percentDecode rest
    | _, _ => 0x25 :: percentDecode (high :: low :: rest)
  | b :: rest => b :: percentDecode rest
  | [] => []

/-- The text of a part of a path; there is none if its bytes are no text. -/
def pathText? (part : List Char) : Option String :=
  Text.Utf8.decode? (percentDecode (Text.Utf8.encode (String.ofList part)))

/-- The text of a name or a value of a parameter. -/
def parameterText (part : List Char) : String :=
  let bytes := (Text.Utf8.encode (String.ofList part)).map fun b => if b = 0x2B then 0x20 else b
  Text.Utf8.decodeLossy (percentDecode bytes)

/-- A parameter: what stands before its first equals sign and what stands behind it. -/
def parameter (part : List Char) : String × String :=
  match Text.splitOnce '=' part with
  | some (name, value) => (parameterText name, parameterText value)
  | none => (parameterText part, "")

/-- The parameters of a query string in order. -/
def parameters (query : List Char) : List (String × String) :=
  ((Text.pieces '&' query).filter fun part => !part.isEmpty).map parameter

/-- An address, cut into the parts of its path and its query string. -/
structure Address where
  segments : List (List Char)
  query : List Char

/-- The parts of an address; what follows a number sign does not count. -/
def Address.ofText (text : String) : Address :=
  let cs := text.toList.takeWhile (· ≠ '#')
  match Text.splitOnce '?' cs with
  | some (path, query) => ⟨Text.pieces '/' path, query⟩
  | none => ⟨Text.pieces '/' cs, []⟩

/-- The parameters by name. -/
def Address.parameterTable (a : Address) : List (String × String) :=
  (parameters a.query).foldl (fun table p =>
    if table.any fun q => q.1 = p.1 then table.map fun q => if q.1 = p.1 then p else q
    else table ++ [p]) []

end DocQuery.Http
