import DocQuery.Number.Shortest

/-!
# Numbers of a document

A number is an integer that fits 64 bits, signed or unsigned, or a finite binary64 value.  The two
kinds stay apart for plain equality (`1` is not `1.0`) and meet in the numeric comparison, for which
an integer is first rounded to binary64.
-/

namespace DocQuery

/-- A number of a document. -/
inductive Number where
  /-- An integer within the union of the signed and the unsigned 64-bit range. -/
  | integer (value : Int) (inRange : -0x8000000000000000 ≤ value ∧ value < 0x10000000000000000)
  /-- A finite floating-point value. -/
  | float (value : Binary64)
deriving DecidableEq

namespace Number

/-- An integer, if it is within range. -/
def ofInt? (n : Int) : Option Number :=
  if h : -0x8000000000000000 ≤ n ∧ n < 0x10000000000000000 then some (.integer n h) else none

/-- A natural number; beyond 64 bits it is the nearest floating-point value. -/
def ofNat (n : Nat) : Number :=
  if h : n < 0x10000000000000000 then .integer n (by omega) else .float (.ofInt n)

/-- The value as binary64, an integer being rounded to the nearest. -/
def toBinary64 : Number → Binary64
  | .integer n _ => .ofInt n
  | .float x => x

/-- The value as an unsigned 64-bit integer; a float never is one. -/
def natural? : Number → Option Nat
  | .integer n _ => if 0 ≤ n then some n.toNat else none
  | .float _ => none

/-- The value as a signed 64-bit integer; a float never is one. -/
def signed? : Number → Option Int
  | .integer n _ => if n < 0x8000000000000000 then some n else none
  | .float _ => none

/-- The numeric comparison. -/
def order (a b : Number) : Ordering := a.toBinary64.order b.toBinary64

/-- Plain equality: both integers or both floats, and numerically equal. -/
def equal : Number → Number → Bool
  | .integer m _, .integer n _ => m == n
  | .float x, .float y => x.equal y
  | _, _ => false

/-- The written form: integers in decimal, floats with the fewest digits that read back. -/
def text : Number → String
  | .integer n _ =>
    String.ofList (if n < 0 then '-' :: Nat.toDigits 10 n.natAbs else Nat.toDigits 10 n.natAbs)
  | .float x => x.text

theorem order_swap (a b : Number) : (a.order b).swap = b.order a :=
  Binary64.order_swap _ _

theorem order_self (a : Number) : a.order a = .eq :=
  Binary64.order_self _

theorem equal_self (a : Number) : a.equal a = true := by
  cases a <;> simp [equal, Binary64.equal]

end Number

end DocQuery
