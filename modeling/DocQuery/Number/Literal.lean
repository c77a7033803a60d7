import DocQuery.Number.Basic

/-!
# Number literals

The value of a number literal that has been cut into its digits.  Integers within range are exact.
Every other literal is read in two rounded steps: the leading digits that fit an unsigned 64-bit
word form the significand, which is rounded to binary64, and one rounded multiplication or division
applies the power of ten.  An overflow has no value.
-/

namespace DocQuery

/-- The digits of a number literal. -/
structure NumberLiteral where
  negative : Bool
  /-- Digits before the point. -/
  whole : List Nat
  /-- Digits after the point; empty when there is no point. -/
  fraction : List Nat
  /-- Whether the literal has a point. -/
  pointed : Bool
  /-- The written exponent. -/
  exponent : Option Int

namespace NumberLiteral

/-- Append digits to a significand as long as it fits 64 bits; the digits left over are returned. -/
def absorb : Nat → List Nat → Nat × List Nat
  | s, [] => (s, [])
  | s, d :: ds => if s * 10 + d < 0x10000000000000000 then absorb (s * 10 + d) ds else (s, d :: ds)

/-- The binary64 value nearest to a power of ten up to `10 ^ 308`. -/
def powerOfTen (k : Nat) : Binary64 := .ofInt (Nat.pow 10 k)

/-- Apply a power of ten, in steps of `10 ^ 308` when dividing by a larger one. -/
def scale : Nat → Binary64 → Int → Option Binary64
  | 0, x, _ => some x
  | fuel + 1, x, e =>
    if e.natAbs ≤ 308 then
      if 0 ≤ e then x.mul (powerOfTen e.natAbs) else x.div (powerOfTen e.natAbs)
    else if x.isZero then some x
    else if 0 ≤ e then none
    else (x.div (powerOfTen 308)).bind fun y => scale fuel y (e + 308)

/-- The significand and the power of ten that the digits amount to. -/
def decimal (l : NumberLiteral) : Nat × Int :=
  let (whole, dropped) := absorb 0 l.whole
  let (significand, unread) := absorb whole l.fraction
  let places : Int := (l.fraction.length : Int) - unread.length
  (significand, (dropped.length : Int) - places + l.exponent.getD 0)

/-- The floating-point value of a literal.  Three steps of division turn any significand to zero. -/
def float? (l : NumberLiteral) : Option Binary64 :=
  let (significand, exponent) := l.decimal
  (scale 4 (.ofInt significand) exponent).map fun x => if l.negative then x.negate else x

/-- The number that a literal denotes.  The negative zero is a float. -/
def value? (l : NumberLiteral) : Option Number :=
  if l.pointed || l.exponent.isSome then l.float?.map .float
  else
    let n : Nat := l.whole.foldl (fun n d => n * 10 + d) 0
    if l.negative && n == 0 then some (.float (.zero true))
    else
      match Number.ofInt? (if l.negative then -(n : Int) else n) with
      | some number => some number
      | none => l.float?.map .float

end NumberLiteral

end DocQuery
