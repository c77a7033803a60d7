import DocQuery.Number.Basic

/-!
# Numerals inside texts

Numbers that arrive as plain text: unsigned and signed integers of a bounded size, and decimals.
A leading plus sign is accepted, blanks and digit separators are not.
-/

namespace DocQuery.Numeral

/-- The value of decimal digits; there is at least one and nothing else. -/
def digits? (cs : List Char) : Option Nat :=
  if cs.isEmpty || !cs.all Char.isDigit then none
  else some (cs.foldl (fun n c => n * 10 + (c.toNat - 48)) 0)

/-- An unsigned numeral that fits the given number of bits. -/
def natural? (bits : Nat) (s : String) : Option Nat :=
  let cs := match s.toList with
    | '+' :: rest => rest
    | cs => cs
  (digits? cs).filter (· < 1 <<< bits)

/-- An unsigned numeral of 64 bits. -/
def word? (s : String) : Option Nat := natural? 64 s

/-- A signed numeral of 64 bits. -/
def integer? (s : String) : Option Int :=
  let value : Option Int := match s.toList with
    | '-' :: rest => (digits? rest).map fun n => -(n : Int)
    | '+' :: rest => (digits? rest).map fun n => (n : Int)
    | cs => (digits? cs).map fun n => (n : Int)
  value.filter fun n => -0x8000000000000000 ≤ n ∧ n < 0x8000000000000000

/-- The exponent part of a decimal: absent, or its mark, a sign if any, and digits. -/
def exponent? : List Char → Option Int
  | [] => some 0
  | mark :: rest =>
    if mark = 'e' || mark = 'E' then
      match rest with
      | '-' :: ds => (digits? ds).map fun n => -(n : Int)
      | '+' :: ds => (digits? ds).map fun n => (n : Int)
      | ds => (digits? ds).map fun n => (n : Int)
    else none

/-- The digits and the scale of an unsigned decimal; one side of the point may be empty. -/
def decimalParts? (cs : List Char) : Option (Nat × Int) :=
  let whole := cs.takeWhile Char.isDigit
  let rest := cs.dropWhile Char.isDigit
  let (fraction, rest) := match rest with
    | '.' :: rest => (rest.takeWhile Char.isDigit, rest.dropWhile Char.isDigit)
    | _ => ([], rest)
  (digits? (whole ++ fraction)).bind fun digits =>
    (exponent? rest).map fun exponent => (digits, exponent - fraction.length)

/-- The correctly rounded value of a decimal, signed or not; an overflow has no value. -/
def decimal? (s : String) : Option Binary64 :=
  let (negative, cs) := match s.toList with
    | '-' :: rest => (true, rest)
    | '+' :: rest => (false, rest)
    | cs => (false, cs)
  (decimalParts? cs).bind fun (digits, exponent) => Binary64.ofDecimal negative digits exponent

end DocQuery.Numeral
