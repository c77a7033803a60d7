import DocQuery.Number.Binary64

/-!
# The fewest digits that read back

A finite binary64 value stands for the interval of reals that round to it.  Its written form uses
the fewest decimal digits that name a point of that interval, and of two such points the nearer one.

The search works on exact natural numbers: for each number of digits it tests the two neighbours of
the value on the grid of decimals with that many digits.

## Main definitions

* `Decimal`: `digits * 10 ^ exponent`
* `Binary64.readsBack`: a decimal lies in the interval of a value
* `Binary64.shortest`: the decimal that is written
* `Binary64.text`: its layout
-/

namespace DocQuery

/-- The non-negative decimal `digits * 10 ^ exponent`. -/
structure Decimal where
  digits : Nat
  exponent : Int
deriving DecidableEq

namespace Decimal

/-- Compare `a * 10 ^ i` with `b * 2 ^ j`, exactly. -/
def compareScaled (a : Nat) (i : Int) (b : Nat) (j : Int) : Ordering :=
  compare (a * Nat.pow 10 i.toNat <<< (-j).toNat) (b * Nat.pow 10 (-i).toNat <<< j.toNat)

/-- Move trailing zeros of the digits into the exponent; `fuel` bounds their number. -/
def strip : Nat → Decimal → Decimal
  | 0, d => d
  | fuel + 1, d =>
    if d.digits ≠ 0 ∧ d.digits % 10 = 0 then strip fuel ⟨d.digits / 10, d.exponent + 1⟩ else d

end Decimal

namespace Binary64

/-- The gap to the value below is half the gap to the value above. -/
def narrowBelow (x : Binary64) : Bool :=
  x.magnitude % binade == 0 && x.magnitude / binade > 1

/-- The decimal lies among the reals that round to the absolute value, a tie going to even. -/
def readsBack (x : Binary64) (d : Decimal) : Bool :=
  let m := x.significand
  let low := if x.narrowBelow then 4 * m - 1 else 4 * m - 2
  let closed := m % 2 == 0
  let lower := Decimal.compareScaled d.digits d.exponent low (x.exponent - 2)
  let upper := Decimal.compareScaled d.digits d.exponent (4 * m + 2) (x.exponent - 2)
  (lower == .gt || (closed && lower == .eq)) && (upper == .lt || (closed && upper == .eq))

/-- The exponent of the leading decimal digit, plus one: the least `k` with value below `10 ^ k`. -/
def decimalScale (x : Binary64) : Int :=
  let m := x.significand
  let q := x.exponent
  let guess : Int := ((m.log2 : Int) + q) * 30103 / 100000
  let atLeast (k : Int) : Bool := Decimal.compareScaled 1 k m q != .gt
  if atLeast (guess + 1) then guess + 2 else if atLeast guess then guess + 1 else guess

/-- The best decimal on the grid `10 ^ e`, if a neighbour of the value on it reads back. -/
def onGrid (x : Binary64) (e : Int) : Option Decimal :=
  let num := x.numerator * Nat.pow 10 (-e).toNat
  let den := x.denominator * Nat.pow 10 e.toNat
  let floor := num / den
  let low : Decimal := ⟨floor, e⟩
  let high : Decimal := ⟨floor + 1, e⟩
  match x.readsBack low, x.readsBack high with
  | true, true =>
    match compare (2 * (num % den)) den with
    | .lt => some low
    | .gt => some high
    | .eq => if floor % 2 = 0 then some low else some high
  | true, false => some low
  | false, true => some high
  | false, false => none

/-- The shortest decimal that reads back, without trailing zeros.  Seventeen digits are enough;
should none be found the exact value is written out. -/
def shortest (x : Binary64) : Decimal :=
  let k := x.decimalScale
  let found := (List.range 17).findSome? fun (n : Nat) => x.onGrid (k - (n + 1 : Nat))
  let exact : Decimal :=
    ⟨x.numerator * Nat.pow 5 (-x.exponent).toNat, min x.exponent 0⟩
  Decimal.strip 400 (found.getD exact)

/-- A positional text of the decimal that always shows a point. -/
def positional (digits : List Char) (exponent : Int) : List Char :=
  if 0 ≤ exponent then digits ++ List.replicate exponent.toNat '0' ++ ['.', '0']
  else
    let places := (-exponent).toNat
    if places < digits.length then
      digits.take (digits.length - places) ++ '.' :: digits.drop (digits.length - places)
    else
      '0' :: '.' :: (List.replicate (places - digits.length) '0' ++ digits)

/-- A text with one digit before the point and a signed exponent. -/
def scientific (digits : List Char) (leading : Int) : List Char :=
  let mantissa := match digits with
    | [] => []
    | [d] => [d]
    | d :: rest => d :: '.' :: rest
  mantissa ++ 'e' :: (if leading < 0 then '-' else '+') :: Nat.toDigits 10 leading.natAbs

/--
The written form of a value: the shortest digits, positional with at least one decimal where the
exponent of the leading digit is between -5 and 15, otherwise with a signed exponent.
-/
def text (x : Binary64) : String :=
  let unsigned :=
    if x.magnitude = 0 then ['0', '.', '0']
    else
      let d := x.shortest
      let digits := Nat.toDigits 10 d.digits
      let leading : Int := d.exponent + digits.length - 1
      if -5 ≤ leading ∧ leading < 16 then positional digits d.exponent
      else scientific digits leading
  String.ofList (if x.negative then '-' :: unsigned else unsigned)

end Binary64

end DocQuery
