import DocQuery.Number.Numeral
import DocQuery.Proofs.Number.Interval

/-!
# Written numbers tell values apart

The digits that the search for the written form finds read back as the value that they were found
for, whether the search ends on a grid or falls back to the exact value.  The layout of the digits,
positional or with an exponent, is undone by the reader of numerals.  Together with the rounding
intervals this makes the written form of a number injective (`Number.text_injective`): two numbers
with one text are the same number, and an integer never has the text of a float.

## Main definitions

* `Binary64.readsBack_shortest`
* `Binary64.unsigned`: the written form without its sign
* `Numeral.decimalParts?_unsigned`: reading undoes writing
* `Number.text_injective`
-/

namespace DocQuery

namespace Binary64

variable {x y : Binary64} {d d' : Decimal}

/-! ### The digits that are found -/

theorem readsBack_congr (same : d.value = d'.value) (h : x.readsBack d = true) :
    x.readsBack d' = true := by
  rw [readsBack_iff] at h ⊢
  rwa [← same]

theorem readsBack_of_onGrid {e : ℤ} (found : x.onGrid e = some d) : x.readsBack d = true := by
  unfold onGrid at found
  dsimp only at found
  split at found
  · next low high =>
      split at found
      · exact Option.some.inj found ▸ low
      · exact Option.some.inj found ▸ high
      · split at found
        · exact Option.some.inj found ▸ low
        · exact Option.some.inj found ▸ high
  · next low _ => exact Option.some.inj found ▸ low
  · next _ high => exact Option.some.inj found ▸ high
  · cases found

/-- The exact value, as the search writes it when no grid has a point in the interval. -/
theorem value_exact (x : Binary64) :
    (⟨x.numerator * Nat.pow 5 (-x.exponent).toNat, min x.exponent 0⟩ : Decimal).value =
      x.significand * 2 ^ x.exponent := by
  rw [Decimal.value, numerator, Nat.shiftLeft_eq, Nat.pow_eq]
  push_cast
  rcases le_total 0 x.exponent with whole | broken
  · have noFraction : (-x.exponent).toNat = 0 := by omega
    have power : (2 : ℚ) ^ x.exponent.toNat = 2 ^ x.exponent := by
      rw [← zpow_natCast, Int.toNat_of_nonneg whole]
    rw [noFraction, min_eq_right whole, power]
    simp
  · have noShift : x.exponent.toNat = 0 := by omega
    have fives := Decimal.zpow_mul_pow_toNat_neg (by norm_num : (5 : ℚ) ≠ 0) x.exponent
    have ten : (10 : ℚ) ^ x.exponent = 2 ^ x.exponent * 5 ^ x.exponent := by
      rw [← mul_zpow]
      norm_num
    rw [noShift, pow_zero] at *
    rw [min_eq_left broken, ten]
    calc (x.significand : ℚ) * 1 * 5 ^ (-x.exponent).toNat * (2 ^ x.exponent * 5 ^ x.exponent)
        = x.significand * 2 ^ x.exponent * (5 ^ x.exponent * 5 ^ (-x.exponent).toNat) := by ring
      _ = x.significand * 2 ^ x.exponent := by rw [fives, mul_one]

theorem readsBack_exact (exact : d.value = x.significand * 2 ^ x.exponent) :
    x.readsBack d = true := by
  have quarter : (0 : ℚ) < 2 ^ (x.exponent - 2) := by positivity
  have value : d.value = (4 * x.significand : ℕ) * 2 ^ (x.exponent - 2) := by
    have split : x.exponent = x.exponent - 2 + 2 := by omega
    rw [exact]
    conv_lhs => rw [split, zpow_add₀ (by norm_num : (2 : ℚ) ≠ 0)]
    push_cast
    ring
  have below : d.value < x.upperEnd := by
    rw [value, upperEnd]
    exact mul_lt_mul_of_pos_right (by push_cast; linarith) quarter
  refine readsBack_iff.mpr ⟨?_, .inl below⟩
  rcases Nat.eq_zero_or_pos x.significand with zero | positive
  · right
    have quarters : x.lowerQuarters = 0 := by
      rw [lowerQuarters, zero]
      simp
    refine ⟨by rw [OwnsEnds, zero], ?_⟩
    rw [value, lowerEnd, quarters, zero]
  · left
    have quarters : x.lowerQuarters < 4 * x.significand := by
      rw [lowerQuarters]
      split <;> omega
    rw [value, lowerEnd]
    exact mul_lt_mul_of_pos_right (by exact_mod_cast quarters) quarter

/-- **The written digits read back** as the value that they were found for. -/
theorem readsBack_shortest (x : Binary64) : x.readsBack x.shortest = true := by
  unfold shortest
  dsimp only
  refine readsBack_congr (Decimal.value_strip 400 _).symm ?_
  cases found : (List.range 17).findSome? fun n : ℕ => x.onGrid (x.decimalScale - (n + 1 : ℕ)) with
  | none => exact readsBack_exact x.value_exact
  | some d =>
      obtain ⟨n, -, onGrid⟩ := List.exists_of_findSome?_eq_some found
      exact readsBack_of_onGrid onGrid

end Binary64

/-! ### Reading the layout -/

namespace Numeral

variable {digits : List Char}

/-- A list of decimal digits. -/
def AreDigits (cs : List Char) : Prop := ∀ c ∈ cs, c.isDigit = true

theorem areDigits_toDigits (n : ℕ) : AreDigits (Nat.toDigits 10 n) := fun _ mem =>
  Nat.isDigit_of_mem_toDigits (by decide) (by decide) mem

theorem areDigits_zeros (n : ℕ) : AreDigits (List.replicate n '0') := by
  intro c mem
  rw [List.eq_of_mem_replicate mem]
  decide

theorem AreDigits.append {cs ds : List Char} (left : AreDigits cs) (right : AreDigits ds) :
    AreDigits (cs ++ ds) := by
  intro c mem
  exact (List.mem_append.mp mem).elim (left c) (right c)

theorem digits?_eq_some {cs : List Char} (nonempty : cs ≠ []) (all : AreDigits cs) :
    digits? cs = some (Nat.ofDigitChars 10 cs 0) := by
  have test : (cs.isEmpty || !cs.all Char.isDigit) = false := by
    rw [Bool.or_eq_false_iff, List.isEmpty_eq_false_iff, Bool.not_eq_false', List.all_eq_true]
    exact ⟨nonempty, all⟩
  have sum : (fun n (c : Char) => n * 10 + (c.toNat - 48)) =
      fun n (c : Char) => 10 * n + (c.toNat - '0'.toNat) := by
    funext n c
    rw [Nat.mul_comm]
    rfl
  rw [digits?, test, Nat.ofDigitChars_eq_foldl, sum]
  rfl

theorem digits?_toDigits (n : ℕ) : digits? (Nat.toDigits 10 n) = some n := by
  rw [digits?_eq_some Nat.toDigits_ne_nil (areDigits_toDigits n), Nat.ofDigitChars_ten_toDigits]

/-- A run of digits ends where something else begins. -/
theorem span_digits {cs rest : List Char} (all : AreDigits cs)
    (stops : ∀ c ∈ rest.head?, c.isDigit = false) :
    (cs ++ rest).takeWhile Char.isDigit = cs ∧ (cs ++ rest).dropWhile Char.isDigit = rest := by
  rw [List.takeWhile_append_of_pos all, List.dropWhile_append_of_pos all]
  cases rest with
  | nil => simp
  | cons c rest =>
      have notDigit : c.isDigit = false := stops c rfl
      simp [notDigit]

/-- Digits, a point and more digits. -/
theorem decimalParts?_point {whole fraction rest : List Char} (digitsWhole : AreDigits whole)
    (digitsFraction : AreDigits fraction) (nonempty : whole ++ fraction ≠ [])
    (stops : ∀ c ∈ rest.head?, c.isDigit = false) :
    decimalParts? (whole ++ '.' :: (fraction ++ rest)) =
      (exponent? rest).map fun exponent : ℤ =>
        (Nat.ofDigitChars 10 (whole ++ fraction) 0, exponent - fraction.length) := by
  obtain ⟨before, after⟩ := @span_digits whole ('.' :: (fraction ++ rest)) digitsWhole
    fun c first => Option.some.inj first ▸ rfl
  obtain ⟨before', after'⟩ := span_digits digitsFraction stops
  have value := digits?_eq_some nonempty (digitsWhole.append digitsFraction)
  simp only [decimalParts?, before, after, before', after', value, Option.bind_some]

/-- Digits without a point. -/
theorem decimalParts?_whole {whole rest : List Char} (digitsWhole : AreDigits whole)
    (nonempty : whole ≠ []) (stops : ∀ c ∈ rest.head?, c.isDigit = false ∧ c ≠ '.') :
    decimalParts? (whole ++ rest) =
      (exponent? rest).map fun exponent : ℤ => (Nat.ofDigitChars 10 whole 0, exponent) := by
  obtain ⟨before, after⟩ := span_digits digitsWhole fun c first => (stops c first).1
  have value := digits?_eq_some nonempty digitsWhole
  have noPoint : ∀ tail, rest ≠ '.' :: tail := by
    rintro tail rfl
    exact (stops '.' rfl).2 rfl
  simp only [decimalParts?, before, after, List.append_nil, value, Option.bind_some,
    List.length_nil, Nat.cast_zero, sub_zero]

/-- The exponent part that is written reads back. -/
theorem exponent?_written (leading : ℤ) :
    exponent? ('e' :: (if leading < 0 then '-' else '+') :: Nat.toDigits 10 leading.natAbs) =
      some leading := by
  by_cases negative : leading < 0
  · simp [exponent?, negative, digits?_toDigits, abs_of_neg]
  · simp [exponent?, negative, digits?_toDigits, abs_of_nonneg (not_lt.mp negative)]

end Numeral

namespace Binary64

open Numeral (AreDigits areDigits_toDigits areDigits_zeros decimalParts?)

variable {x y : Binary64} {digits : List Char}

/-- A text that reads as a decimal of a value. -/
def ReadsAs (cs : List Char) (value : ℚ) : Prop :=
  ∃ n e, decimalParts? cs = some (n, e) ∧ (⟨n, e⟩ : Decimal).value = value

theorem readsAs_positional (all : AreDigits digits) (nonempty : digits ≠ []) (exponent : ℤ) :
    ReadsAs (positional digits exponent) (Nat.ofDigitChars 10 digits 0 * 10 ^ exponent) := by
  have ten : (10 : ℚ) ≠ 0 := by norm_num
  unfold positional
  split
  · next whole =>
      have read := @Numeral.decimalParts?_point _ _ []
        (all.append (areDigits_zeros exponent.toNat)) (areDigits_zeros 1) (by simp) (by simp)
      refine ⟨_, _, read, ?_⟩
      rw [Nat.ofDigitChars_append, Nat.ofDigitChars_append, Nat.ofDigitChars_replicate_zero,
        Nat.ofDigitChars_replicate_zero, Decimal.value, List.length_replicate]
      have power : (10 : ℚ) ^ exponent.toNat = 10 ^ exponent := by
        rw [← zpow_natCast, Int.toNat_of_nonneg whole]
      push_cast
      rw [power]
      norm_num
      ring
  · next broken =>
      obtain ⟨places, rfl⟩ : ∃ places : ℕ, exponent = -places := ⟨(-exponent).toNat, by omega⟩
      rw [neg_neg, Int.toNat_natCast]
      dsimp only
      split
      · next inside =>
          have read := @Numeral.decimalParts?_point (digits.take (digits.length - places))
            (digits.drop (digits.length - places)) [] (fun c mem => all c (List.mem_of_mem_take mem))
            (fun c mem => all c (List.mem_of_mem_drop mem)) (by simpa using nonempty) (by simp)
          rw [List.append_nil, List.take_append_drop, List.length_drop] at read
          refine ⟨_, _, read, ?_⟩
          have length : digits.length - (digits.length - places) = places := by omega
          rw [length, Decimal.value, zero_sub]
      · next outside =>
          have read := @Numeral.decimalParts?_point _ _ [] (areDigits_zeros 1)
            ((areDigits_zeros (places - digits.length)).append all) (by simp) (by simp)
          rw [List.append_nil] at read
          refine ⟨_, _, read, ?_⟩
          have length : (places - digits.length) + digits.length = places := by omega
          rw [Nat.ofDigitChars_append, Nat.ofDigitChars_append, Nat.ofDigitChars_replicate_zero,
            Nat.ofDigitChars_replicate_zero, List.length_append, List.length_replicate, length,
            Decimal.value, zero_sub]
          simp

theorem readsAs_scientific (all : AreDigits digits) (nonempty : digits ≠ []) (leading : ℤ) :
    ReadsAs (scientific digits leading)
      (Nat.ofDigitChars 10 digits 0 * 10 ^ (leading - digits.length + 1)) := by
  have stops : ∀ sign : Char, ∀ rest : List Char, ∀ c ∈ ('e' :: sign :: rest).head?,
      c.isDigit = false ∧ c ≠ '.' := by
    intro sign rest c first
    rw [← Option.some.inj first]
    decide
  have written := Numeral.exponent?_written leading
  match digits, nonempty with
  | [d], _ =>
      have read := Numeral.decimalParts?_whole all (by simp)
        (stops (if leading < 0 then '-' else '+') (Nat.toDigits 10 leading.natAbs))
      rw [written] at read
      exact ⟨_, _, read, by simp [Decimal.value]⟩
  | d :: d' :: more, _ =>
      have head : AreDigits [d] := fun c mem => all c (by simp_all)
      have tail : AreDigits (d' :: more) := fun c mem => all c (List.mem_cons_of_mem _ mem)
      have read := Numeral.decimalParts?_point head tail (by simp) fun c first =>
        (stops (if leading < 0 then '-' else '+') (Nat.toDigits 10 leading.natAbs) c first).1
      rw [written] at read
      refine ⟨_, _, read, ?_⟩
      have scale : leading - ((d' :: more).length : ℤ) = leading - ((d :: d' :: more).length : ℤ) + 1 := by
        simp only [List.length_cons]
        omega
      rw [Decimal.value, scale]
      rfl

/-! ### Reading undoes writing -/

/-- The written form without its sign. -/
def unsigned (x : Binary64) : List Char :=
  if x.magnitude = 0 then ['0', '.', '0']
  else
    let d := x.shortest
    let digits := Nat.toDigits 10 d.digits
    let leading : ℤ := d.exponent + digits.length - 1
    if -5 ≤ leading ∧ leading < 16 then positional digits d.exponent
    else scientific digits leading

theorem text_eq (x : Binary64) :
    x.text = String.ofList (if x.negative then '-' :: x.unsigned else x.unsigned) := rfl

/-- **The written form reads back.** -/
theorem decimalParts?_unsigned (x : Binary64) :
    ∃ n e, decimalParts? x.unsigned = some (n, e) ∧ x.readsBack ⟨n, e⟩ = true := by
  by_cases zero : x.magnitude = 0
  · have significand : x.significand = 0 := by
      rw [Binary64.significand, zero]
      rfl
    refine ⟨0, -1, ?_, readsBack_exact ?_⟩
    · rw [unsigned, if_pos zero]
      decide
    · simp [Decimal.value, significand]
  · have digits := areDigits_toDigits x.shortest.digits
    have layout : ReadsAs x.unsigned x.shortest.value := by
      rw [unsigned, if_neg zero]
      dsimp only
      split
      · have read := readsAs_positional digits Nat.toDigits_ne_nil x.shortest.exponent
        rwa [Nat.ofDigitChars_ten_toDigits] at read
      · have read := readsAs_scientific digits Nat.toDigits_ne_nil
          (x.shortest.exponent + (Nat.toDigits 10 x.shortest.digits).length - 1)
        rw [Nat.ofDigitChars_ten_toDigits] at read
        have scale : x.shortest.exponent + ((Nat.toDigits 10 x.shortest.digits).length : ℤ) - 1 -
            (Nat.toDigits 10 x.shortest.digits).length + 1 = x.shortest.exponent := by omega
        rwa [scale] at read
    obtain ⟨n, e, read, same⟩ := layout
    exact ⟨n, e, read, readsBack_congr same.symm x.readsBack_shortest⟩

theorem magnitude_eq_of_unsigned (same : x.unsigned = y.unsigned) : x.magnitude = y.magnitude := by
  obtain ⟨n, e, readX, backX⟩ := x.decimalParts?_unsigned
  obtain ⟨m, f, readY, backY⟩ := y.decimalParts?_unsigned
  rw [same, readY] at readX
  cases readX
  exact magnitude_eq_of_readsBack backX backY

/-- A float is written with a point or an exponent. -/
theorem exists_mark_unsigned (x : Binary64) : ∃ c ∈ x.unsigned, c.isDigit = false := by
  rw [unsigned]
  split
  · exact ⟨'.', by simp, rfl⟩
  · dsimp only
    split
    · refine ⟨'.', ?_, rfl⟩
      unfold positional
      dsimp only
      repeat' split
      all_goals simp
    · refine ⟨'e', ?_, rfl⟩
      simp [scientific]

end Binary64

/-! ### Texts of numbers -/

namespace Numeral

/-- A decimal starts with a digit or with its point. -/
theorem head_of_decimalParts? {c : Char} {cs : List Char} {parts : ℕ × ℤ}
    (read : decimalParts? (c :: cs) = some parts) : c.isDigit = true ∨ c = '.' := by
  by_contra neither
  obtain ⟨notDigit, notPoint⟩ := not_or.mp neither
  simp [decimalParts?, notDigit, notPoint, digits?] at read

end Numeral

namespace Number

variable {a b : Number}

/-- The written form without its sign. -/
def unsigned : Number → List Char
  | .integer n _ => Nat.toDigits 10 n.natAbs
  | .float x => x.unsigned

/-- Whether the written form has a sign. -/
def isSigned : Number → Bool
  | .integer n _ => decide (n < 0)
  | .float x => x.negative

theorem text_eq (a : Number) :
    a.text = String.ofList (if a.isSigned then '-' :: a.unsigned else a.unsigned) := by
  cases a with
  | integer n _ => simp [text, isSigned, unsigned]
  | float x => rfl

theorem exists_head_unsigned (a : Number) :
    ∃ c rest, a.unsigned = c :: rest ∧ (c.isDigit = true ∨ c = '.') := by
  cases a with
  | integer n _ =>
      obtain ⟨c, rest, split⟩ := List.exists_cons_of_ne_nil
        (Nat.toDigits_ne_nil (b := 10) (n := n.natAbs))
      have mem : c ∈ Nat.toDigits 10 n.natAbs := by simp [split]
      exact ⟨c, rest, split, .inl (Numeral.areDigits_toDigits _ c mem)⟩
  | float x =>
      obtain ⟨m, e, read, -⟩ := x.decimalParts?_unsigned
      cases split : x.unsigned with
      | nil =>
          rw [split] at read
          cases read
      | cons c rest =>
          rw [split] at read
          exact ⟨c, rest, split, Numeral.head_of_decimalParts? read⟩

theorem unsigned_ne_minus (a : Number) (rest : List Char) : a.unsigned ≠ '-' :: rest := by
  intro same
  obtain ⟨c, more, split, head⟩ := a.exists_head_unsigned
  have minus : c = '-' := (List.cons.inj (split.symm.trans same)).1
  rw [minus] at head
  exact absurd head (by decide)

/-- The sign and the rest of a number can be told from its text. -/
theorem unsigned_eq_of_text (same : a.text = b.text) :
    a.isSigned = b.isSigned ∧ a.unsigned = b.unsigned := by
  have chars := congrArg String.toList same
  rw [text_eq, text_eq, String.toList_ofList, String.toList_ofList] at chars
  cases signA : a.isSigned with
  | true =>
      cases signB : b.isSigned with
      | true =>
          rw [signA, signB] at chars
          exact ⟨rfl, (List.cons.inj chars).2⟩
      | false =>
          rw [signA, signB] at chars
          exact absurd chars.symm (b.unsigned_ne_minus _)
  | false =>
      cases signB : b.isSigned with
      | true =>
          rw [signA, signB] at chars
          exact absurd chars (a.unsigned_ne_minus _)
      | false =>
          rw [signA, signB] at chars
          exact ⟨rfl, chars⟩

/-- **The written form of a number tells it apart** from every other number. -/
theorem text_injective (same : a.text = b.text) : a = b := by
  obtain ⟨sign, unsigned⟩ := unsigned_eq_of_text same
  have mixed : ∀ (n : ℤ) (x : Binary64), Nat.toDigits 10 n.natAbs ≠ x.unsigned := by
    intro n x same
    obtain ⟨c, mem, mark⟩ := x.exists_mark_unsigned
    rw [← same] at mem
    rw [Numeral.areDigits_toDigits _ c mem] at mark
    cases mark
  cases a with
  | integer n boundsN =>
      cases b with
      | integer m boundsM =>
          have size : n.natAbs = m.natAbs := by
            rw [← Nat.ofDigitChars_ten_toDigits (n := n.natAbs),
              ← Nat.ofDigitChars_ten_toDigits (n := m.natAbs)]
            exact congrArg (Nat.ofDigitChars 10 · 0) unsigned
          have sign : n < 0 ↔ m < 0 := by simpa [isSigned] using sign
          have value : n = m := by omega
          subst value
          rfl
      | float y => exact absurd unsigned (mixed n y)
  | float x =>
      cases b with
      | integer m _ => exact absurd unsigned.symm (mixed m x)
      | float y =>
          have magnitude := Binary64.magnitude_eq_of_unsigned unsigned
          obtain ⟨negative, size, finite⟩ := x
          obtain ⟨negative', size', finite'⟩ := y
          obtain rfl : negative = negative' := sign
          obtain rfl : size = size' := magnitude
          rfl

end Number

end DocQuery
