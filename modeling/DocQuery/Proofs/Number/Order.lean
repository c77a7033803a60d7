import DocQuery.Number.Basic

/-!
# Plain equality of numbers against their order

Plain equality keeps integers and floats apart, the numeric order does not.  Numbers that are
plainly equal stand at the same place of the order, so no comparison tells them apart.
-/

namespace DocQuery

namespace Binary64

theorem equal_iff {x y : Binary64} : x.equal y = true ↔ x.orderKey = y.orderKey := by
  simp [equal]

theorem isZero_iff {x : Binary64} : x.isZero = true ↔ x.orderKey = 0 := by
  by_cases sign : x.negative = true <;> simp [isZero, orderKey, sign]

theorem isZero_congr {x y : Binary64} (h : x.equal y = true) : x.isZero = y.isZero := by
  rw [Bool.eq_iff_iff, isZero_iff, isZero_iff, equal_iff.mp h]

end Binary64

namespace Number

theorem equal_symm {a b : Number} (h : a.equal b = true) : b.equal a = true := by
  cases a <;> cases b <;> simp_all [equal, Binary64.equal]

theorem equal_trans {a b c : Number} (left : a.equal b = true) (right : b.equal c = true) :
    a.equal c = true := by
  cases a <;> cases b <;> cases c <;> simp_all [equal, Binary64.equal]

/-- Plainly equal numbers have the same place in the numeric order. -/
theorem orderKey_congr {a b : Number} (h : a.equal b = true) :
    a.toBinary64.orderKey = b.toBinary64.orderKey := by
  cases a with
  | integer m _ =>
      cases b with
      | integer n _ =>
          have same : m = n := by simpa [equal] using h
          rw [toBinary64, toBinary64, same]
      | float y => simp [equal] at h
  | float x =>
      cases b with
      | integer n _ => simp [equal] at h
      | float y => exact Binary64.equal_iff.mp h

theorem order_congr_right {a b : Number} (h : a.equal b = true) (c : Number) :
    c.order a = c.order b := by
  rw [order, order, Binary64.order, Binary64.order, orderKey_congr h]

theorem isZero_congr {a b : Number} (h : a.equal b = true) :
    a.toBinary64.isZero = b.toBinary64.isZero :=
  Binary64.isZero_congr (Binary64.equal_iff.mpr (orderKey_congr h))

theorem natural?_congr {a b : Number} (h : a.equal b = true) : a.natural? = b.natural? := by
  cases a <;> cases b <;> simp_all [equal, natural?]

end Number

end DocQuery
