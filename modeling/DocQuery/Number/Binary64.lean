/-!
# Finite binary64 values

The finite values of the 64-bit binary floating-point format, each given by its sign and by its
magnitude: the exponent and fraction bits read as one natural number.  Among values of one sign the
magnitude grows with the value, so the numeric order is the order of a signed integer
(`Binary64.orderKey`), and no arithmetic on floats is needed to compare them.

Rounding goes through one function, `Binary64.ofQuotient`: the nearest value to an exact quotient of
naturals, a tie going to the even neighbour.

## Main definitions

* `Binary64`: a finite value
* `Binary64.significand`, `Binary64.exponent`: the value is `significand * 2 ^ exponent`
* `Binary64.ofQuotient`, `Binary64.ofDecimal`: correctly rounded conversions
* `Binary64.order`: the numeric comparison, in which the two zeros are equal
-/

namespace DocQuery

/-- The magnitude of infinity, the first one that no finite value has. -/
def infiniteMagnitude : Nat := 0x7FF0000000000000

/-- A finite binary64 value. -/
structure Binary64 where
  /-- Whether the sign bit is set; the negative zero is a value of its own. -/
  negative : Bool
  /-- The exponent and fraction bits as one number. -/
  magnitude : Nat
  /-- The value is neither an infinity nor a NaN. -/
  finite : magnitude < infiniteMagnitude
deriving DecidableEq

namespace Binary64

/-- How many magnitudes share their exponent bits. -/
def binade : Nat := 0x10000000000000

/-- The zero with the given sign. -/
def zero (negative : Bool) : Binary64 := ⟨negative, 0, by decide⟩

instance : Inhabited Binary64 := ⟨zero false⟩

/-- The integer `m` of the decomposition `m * 2 ^ q` of the absolute value. -/
def significand (x : Binary64) : Nat :=
  if x.magnitude / binade = 0 then x.magnitude else binade + x.magnitude % binade

/-- The exponent `q` of the decomposition `m * 2 ^ q` of the absolute value. -/
def exponent (x : Binary64) : Int :=
  if x.magnitude / binade = 0 then -1074 else (x.magnitude / binade : Nat) - 1075

/-- The numerator of the absolute value as an exact quotient. -/
def numerator (x : Binary64) : Nat := x.significand <<< x.exponent.toNat

/-- The denominator of the absolute value as an exact quotient, a power of two. -/
def denominator (x : Binary64) : Nat := 1 <<< (-x.exponent).toNat

/-- A number whose order is the numeric order of the values; both zeros get `0`. -/
def orderKey (x : Binary64) : Int :=
  if x.negative then -(x.magnitude : Int) else x.magnitude

/-- Compare two values numerically. -/
def order (x y : Binary64) : Ordering := compare x.orderKey y.orderKey

/-- Numeric equality, under which the two zeros are equal. -/
def equal (x y : Binary64) : Bool := x.orderKey == y.orderKey

/-- Whether the value is a zero of either sign. -/
def isZero (x : Binary64) : Bool := x.magnitude == 0

/-- The value with the opposite sign. -/
def negate (x : Binary64) : Binary64 := { x with negative := !x.negative }

/-- The quotient rounded to the nearest integer, a tie going to the even one. -/
def roundedQuotient (num den : Nat) : Nat :=
  let q := num / den
  match compare (2 * (num % den)) den with
  | .lt => q
  | .gt => q + 1
  | .eq => if q % 2 = 0 then q else q + 1

/--
The magnitude nearest to the quotient `num / den`, possibly that of infinity or beyond.

The quotient is scaled by a power of two so that its integer part has 53 bits, or fewer when the
least exponent is reached; since consecutive magnitudes are consecutive values, a carry out of the
rounding needs no case of its own.
-/
def nearestMagnitude (num den : Nat) : Nat :=
  if num = 0 then 0
  else
    let estimate : Int := (num.log2 : Int) - den.log2 - 52
    -- The estimate is exact or one too large.
    let below := num <<< (-estimate).toNat < den <<< estimate.toNat * binade
    let scale : Int := max (if below then estimate - 1 else estimate) (-1074)
    (scale + 1074).toNat * binade
      + roundedQuotient (num <<< (-scale).toNat) (den <<< scale.toNat)

/-- The value with the given sign and magnitude, if it is finite. -/
def ofMagnitude? (negative : Bool) (magnitude : Nat) : Option Binary64 :=
  if h : magnitude < infiniteMagnitude then some ⟨negative, magnitude, h⟩ else none

/-- The value nearest to a quotient of naturals; `none` when it overflows. -/
def ofQuotient (negative : Bool) (num den : Nat) : Option Binary64 :=
  ofMagnitude? negative (nearestMagnitude num den)

/-- The largest finite value of the given sign. -/
def greatest (negative : Bool) : Binary64 := ⟨negative, 0x7FEFFFFFFFFFFFFF, by decide⟩

/-- The value nearest to an integer, or the largest one where that would overflow. -/
def ofInt (n : Int) : Binary64 :=
  (ofQuotient (n < 0) n.natAbs 1).getD (greatest (n < 0))

/--
The value nearest to `digits * 10 ^ exp`; `none` when it overflows.

Exponents far outside the range of the format are settled by the number of digits alone, so the
work is bounded by the length of the written number and not by its value.
-/
def ofDecimal (negative : Bool) (digits : Nat) (exp : Int) : Option Binary64 :=
  if digits = 0 then some (zero negative)
  else
    let top : Int := (Nat.toDigits 10 digits).length + exp
    if top > 400 then none
    else if top < -400 then some (zero negative)
    else ofQuotient negative (digits * Nat.pow 10 exp.toNat) (Nat.pow 10 (-exp).toNat)

/-- The rounded product; `none` when it overflows. -/
def mul (x y : Binary64) : Option Binary64 :=
  ofQuotient (x.negative != y.negative) (x.numerator * y.numerator) (x.denominator * y.denominator)

/-- The rounded quotient by a non-zero value; `none` when it overflows. -/
def div (x y : Binary64) : Option Binary64 :=
  ofQuotient (x.negative != y.negative) (x.numerator * y.denominator) (x.denominator * y.numerator)

theorem order_self (x : Binary64) : x.order x = .eq := by
  simp [order]

theorem order_swap (x y : Binary64) : (x.order y).swap = y.order x := by
  simp only [order, Int.compare_swap]

end Binary64

end DocQuery
