import DocQuery.Text.BinaryProperty
import DocQuery.Text.Category

/-!
# Texts in quotes

How messages show a text that may hold anything: in double quotes, with escapes for the quote, the
backslash and every character that would not be seen as one of its own.
-/

namespace DocQuery.Text

/-- The digits of a number to the base sixteen, in lower case. -/
def hexDigits (n : Nat) : List Char := Nat.toDigits 16 n

/-- Whether a character is seen as one of its own. -/
def isVisible (c : Char) : Bool :=
  if c.toNat < 0x7F then 0x20 ≤ c.toNat
  else
    match categoryOf c.toNat with
    | "Cc" | "Cf" | "Cs" | "Co" | "Cn" | "Zl" | "Zp" | "Zs" | "Mn" | "Me" => false
    | _ => !attachedRanges.contains c.toNat

/-- How a character is shown inside quotes. -/
def shownChar (c : Char) : List Char :=
  match c with
  | '"' => ['\\', '"']
  | '\\' => ['\\', '\\']
  | '\n' => ['\\', 'n']
  | '\r' => ['\\', 'r']
  | '\t' => ['\\', 't']
  | '\x00' => ['\\', '0']
  | c => if isVisible c then [c] else '\\' :: 'u' :: '{' :: hexDigits c.toNat ++ ['}']

/-- A text in quotes. -/
def quoted (s : String) : String := String.ofList ('"' :: s.toList.flatMap shownChar ++ ['"'])

end DocQuery.Text
