import DocQuery.Document.Order
import DocQuery.Json.Draft
import DocQuery.Proofs.Number.Written
import Mathlib.Tactic.IntervalCases

/-!
# Texts of values

The text of a value serves as a key that references are looked up by.  The kind of a value shows in
the first character of its text, a quoted string reads back, and a number is told apart by its
written form.  So a string or a number shares its text with no other value
of any kind (`Json.eq_string_of_text`, `Json.eq_number_of_text`).

## Main definitions

* `Draft.readString_written`: reading undoes quoting
* `Json.kindRank_eq_of_text`: the kind of a value shows in its text
* `Json.eq_string_of_text`, `Json.eq_number_of_text`
-/

namespace DocQuery

/-! ### Quoted strings read back -/

namespace Draft

/-- A written character is read as itself. -/
theorem readString_escaped (fuel : ℕ) (c : Char) (rest before : List Char) :
    readString (fuel + 1) (Json.escaped c ++ rest) (some before) =
      readString fuel rest (some (c :: before)) := by
  by_cases control : c.toNat < 0x20
  · -- each of these has an escape of its own
    obtain ⟨n, small, rfl⟩ : ∃ n < 0x20, c = Char.ofNat n := ⟨c.toNat, control, c.ofNat_toNat.symm⟩
    clear control
    interval_cases n <;> rfl
  · by_cases quote : c = '"'
    · subst quote
      rfl
    · by_cases backslash : c = '\\'
      · subst backslash
        rfl
      · have plain : Json.escaped c = [c] := by
          unfold Json.escaped
          split <;> first | contradiction | simp_all
        rw [plain, List.singleton_append, readString]
        · rw [if_neg control]
          rfl
        all_goals simp_all

theorem readString_written (cs rest before : List Char) (fuel : ℕ) (enough : cs.length < fuel) :
    readString fuel (cs.flatMap Json.escaped ++ '"' :: rest) (some before) =
      some (some (String.ofList (before.reverse ++ cs)), rest) := by
  induction cs generalizing fuel before with
  | nil =>
      obtain ⟨fuel, rfl⟩ := Nat.exists_eq_succ_of_ne_zero (Nat.ne_of_gt enough)
      rw [List.append_nil]
      rfl
  | cons c cs ih =>
      obtain ⟨fuel, rfl⟩ := Nat.exists_eq_succ_of_ne_zero (Nat.ne_of_gt (Nat.lt_of_le_of_lt
        (Nat.zero_le _) enough))
      rw [List.flatMap_cons, List.append_assoc, readString_escaped, ih _ _ (by simpa using enough)]
      simp

end Draft

namespace Json

variable {v w : Json} {s t : String}

/-- A quoted string is followed by what follows it only if it is the same string. -/
theorem eq_of_writeString {rest more : List Char}
    (same : writeString s rest = writeString t more) : s = t ∧ rest = more := by
  have chars : s.toList.flatMap escaped ++ '"' :: rest = t.toList.flatMap escaped ++ '"' :: more :=
    (List.cons.inj same).2
  let fuel := s.toList.length + t.toList.length + 1
  have readS := Draft.readString_written s.toList rest [] fuel (by omega)
  have readT := Draft.readString_written t.toList more [] fuel (by omega)
  rw [chars, readT] at readS
  simpa [eq_comm] using readS

/-! ### The kind of a value shows in its text -/

/-- The kind of the value whose text starts with a character. -/
def rankOfInitial : Char → ℕ
  | 'n' => 0
  | '"' => 2
  | '{' => 3
  | '[' => 4
  | 't' => 5
  | 'f' => 5
  | _ => 1

theorem toList_text (v : Json) : v.text.toList = v.write [] := String.toList_ofList

/-- A number starts with a sign, a digit or a point, as no other kind of value does. -/
theorem rankOfInitial_number (n : Number) :
    ∃ c rest, n.text.toList = c :: rest ∧ rankOfInitial c = 1 := by
  obtain ⟨c, rest, split, head⟩ := n.exists_head_unsigned
  rw [Number.text_eq, String.toList_ofList, split]
  cases n.isSigned with
  | true => exact ⟨'-', _, rfl, rfl⟩
  | false =>
      refine ⟨c, rest, rfl, ?_⟩
      unfold rankOfInitial
      split <;> first | rfl | exact absurd head (by decide)

theorem rankOfInitial_text (v : Json) :
    ∃ c rest, v.text.toList = c :: rest ∧ rankOfInitial c = v.kindRank := by
  rw [toList_text]
  match v with
  | .null => exact ⟨'n', _, rfl, rfl⟩
  | .bool true => exact ⟨'t', _, rfl, rfl⟩
  | .bool false => exact ⟨'f', _, rfl, rfl⟩
  | .number n =>
      rw [write, List.append_nil]
      exact rankOfInitial_number n
  | .string _ => exact ⟨'"', _, rfl, rfl⟩
  | .array _ => exact ⟨'[', _, rfl, rfl⟩
  | .object _ => exact ⟨'{', _, rfl, rfl⟩

/-- **The kind of a value shows in its text.** -/
theorem kindRank_eq_of_text (same : v.text = w.text) : v.kindRank = w.kindRank := by
  obtain ⟨c, rest, split, kind⟩ := v.rankOfInitial_text
  obtain ⟨d, more, split', kind'⟩ := w.rankOfInitial_text
  rw [same, split'] at split
  rw [← kind, ← kind', (List.cons.inj split).1]

/-- Only a string has its text. -/
theorem eq_string_of_text (same : v.text = (string s).text) : v = .string s := by
  have kind := kindRank_eq_of_text same
  cases v with
  | string t =>
      have written : writeString t [] = writeString s [] := by
        have chars := congrArg String.toList same
        rwa [toList_text, toList_text] at chars
      rw [(eq_of_writeString written).1]
  | _ => cases kind

/-- Only a number has its text. -/
theorem eq_number_of_text {n : Number} (same : v.text = (number n).text) : v = .number n := by
  have kind := kindRank_eq_of_text same
  cases v with
  | number m =>
      have written : m.text = n.text := by
        have chars := congrArg String.toList same
        simp only [toList_text, write, List.append_nil] at chars
        exact String.toList_inj.mp chars
      rw [Number.text_injective written]
  | _ => cases kind

end Json

end DocQuery
