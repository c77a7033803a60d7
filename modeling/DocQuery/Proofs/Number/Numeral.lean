import DocQuery.Number.Numeral
import Mathlib.Data.List.TakeWhile

/-!
# The characters of numerals

A text that reads as an integer or as a decimal consists of digits, signs, points and the marks of
exponents.  So a separator of any other kind cannot stand inside a numeral.

## Main definitions

* `Numeral.IsNumeralChar`
* `Numeral.isNumeralChar_of_integer?`, `Numeral.isNumeralChar_of_decimal?`
-/

namespace DocQuery

namespace Numeral

variable {cs : List Char} {s : String}

/-- A character of some numeral: a digit, a sign, a point or the mark of an exponent. -/
def IsNumeralChar (c : Char) : Prop := c.isDigit = true ∨ c ∈ ['+', '-', '.', 'e', 'E']

theorem isDigit_of_digits? {n : Nat} (read : digits? cs = some n) :
    ∀ c ∈ cs, c.isDigit = true := by
  unfold digits? at read
  split at read
  · cases read
  · next digits =>
      rw [Bool.or_eq_true, not_or, Bool.not_eq_true', Bool.not_eq_false, List.all_eq_true] at digits
      exact digits.2

theorem isNumeralChar_of_digits? {α : Type} {n : α} {f : Nat → Option α}
    (read : (digits? cs).bind f = some n) : ∀ c ∈ cs, IsNumeralChar c := by
  obtain ⟨value, digits, -⟩ := Option.bind_eq_some_iff.mp read
  exact fun c mem => .inl (isDigit_of_digits? digits c mem)

/-- A sign in front brings no other character. -/
theorem isNumeralChar_of_signed {sign : Char} (isSign : sign = '-' ∨ sign = '+')
    (rest : ∀ c ∈ cs, IsNumeralChar c) : ∀ c ∈ sign :: cs, IsNumeralChar c := by
  refine List.forall_mem_cons.mpr ⟨.inr ?_, rest⟩
  rcases isSign with rfl | rfl <;> decide

theorem isNumeralChar_of_exponent? {e : Int} (read : exponent? cs = some e) :
    ∀ c ∈ cs, IsNumeralChar c := by
  unfold exponent? at read
  split at read
  · exact nofun
  · next mark rest =>
      rw [Option.ite_none_right_eq_some, Bool.or_eq_true, decide_eq_true_iff,
        decide_eq_true_iff] at read
      obtain ⟨isMark, read⟩ := read
      have first : IsNumeralChar mark := by
        right
        rcases isMark with rfl | rfl <;> decide
      refine List.forall_mem_cons.mpr ⟨first, ?_⟩
      split at read <;> obtain ⟨value, digits, -⟩ := Option.map_eq_some_iff.mp read
      · exact isNumeralChar_of_signed (.inl rfl) (isNumeralChar_of_digits? digits)
      · exact isNumeralChar_of_signed (.inr rfl) (isNumeralChar_of_digits? digits)
      · exact isNumeralChar_of_digits? digits

theorem isNumeralChar_of_decimalParts? {parts : Nat × Int} (read : decimalParts? cs = some parts) :
    ∀ c ∈ cs, IsNumeralChar c := by
  have whole : ∀ cs : List Char, ∀ c ∈ cs.takeWhile Char.isDigit, IsNumeralChar c :=
    fun cs c mem => .inl (List.mem_takeWhile_imp mem)
  rw [← List.takeWhile_append_dropWhile (p := Char.isDigit) (l := cs), List.forall_mem_append]
  refine ⟨whole cs, ?_⟩
  simp only [decimalParts?] at read
  obtain ⟨digits, -, read⟩ := Option.bind_eq_some_iff.mp read
  obtain ⟨exponent, read, -⟩ := Option.map_eq_some_iff.mp read
  split at read
  · next rest point =>
      rw [point, List.forall_mem_cons,
        ← List.takeWhile_append_dropWhile (p := Char.isDigit) (l := rest), List.forall_mem_append]
      exact ⟨.inr (by decide), whole rest, isNumeralChar_of_exponent? read⟩
  · exact isNumeralChar_of_exponent? read

theorem isNumeralChar_of_integer? {n : Int} (read : integer? s = some n) :
    ∀ c ∈ s.toList, IsNumeralChar c := by
  have read := (Option.filter_eq_some_iff.mp read).1
  split at read <;> obtain ⟨value, digits, -⟩ := Option.map_eq_some_iff.mp read
  · next rest chars =>
      rw [chars]
      exact isNumeralChar_of_signed (.inl rfl) (isNumeralChar_of_digits? digits)
  · next rest chars =>
      rw [chars]
      exact isNumeralChar_of_signed (.inr rfl) (isNumeralChar_of_digits? digits)
  · exact isNumeralChar_of_digits? digits

theorem isNumeralChar_of_decimal? {x : Binary64} (read : decimal? s = some x) :
    ∀ c ∈ s.toList, IsNumeralChar c := by
  unfold decimal? at read
  obtain ⟨parts, read, -⟩ := Option.bind_eq_some_iff.mp read
  split at read
  · next rest chars =>
      rw [chars]
      exact isNumeralChar_of_signed (.inl rfl) (isNumeralChar_of_decimalParts? read)
  · next rest chars =>
      rw [chars]
      exact isNumeralChar_of_signed (.inr rfl) (isNumeralChar_of_decimalParts? read)
  · exact isNumeralChar_of_decimalParts? read

end Numeral

end DocQuery
