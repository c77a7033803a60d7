import DocQuery.Proofs.Text.Split
import Mathlib.Data.List.DropRight

/-!
# Trimming

A text is its trimmed form with blanks on both sides (`exists_trimmed`), and blanks at either end do
not change what trimming gives.  So trimming twice is trimming once, and a text may be cut at a
character that is no blank before or after it is trimmed (`trimChars_takeWhile`).  Around such a
character, trimming touches only the outer ends (`trimChars_around`).

A text is its own trimmed form if it neither begins nor ends with a blank.
-/

namespace DocQuery.Text

variable {c : Char} {cs : List Char}

theorem trimEnd_eq_rdropWhile : trimEnd cs = cs.rdropWhile isBlank := rfl

/-- Trimming keeps a first character that is no blank. -/
theorem trimChars_cons (cs : List Char) (dark : isBlank c = false) :
    ∃ rest, trimChars (c :: cs) = c :: rest := by
  have start : trimStart (c :: cs) = c :: cs := List.dropWhile_cons_of_neg (by simp [dark])
  rw [trimChars, start, trimEnd_eq_rdropWhile]
  obtain ⟨rest, split⟩ := List.rdropWhile_prefix isBlank (l := c :: cs)
  cases trimmed : (c :: cs).rdropWhile isBlank with
  | nil =>
      have blank := List.rdropWhile_eq_nil_iff.mp trimmed c List.mem_cons_self
      rw [dark] at blank
      cases blank
  | cons d more =>
      rw [trimmed, List.cons_append] at split
      exact ⟨more, (List.cons.inj split).1 ▸ rfl⟩

/-! ### Blanks at the ends -/

/-- Whether there is nothing but blanks in a text. -/
def AreBlank (cs : List Char) : Prop := ∀ c ∈ cs, isBlank c = true

theorem trimStart_append_left {blanks : List Char} (blank : AreBlank blanks) :
    trimStart (blanks ++ cs) = trimStart cs :=
  List.dropWhile_append_of_pos blank

theorem trimEnd_append_right {blanks : List Char} (blank : AreBlank blanks) :
    trimEnd (cs ++ blanks) = trimEnd cs := by
  have reversed : ∀ c ∈ blanks.reverse, isBlank c = true := by
    intro c mem
    exact blank c (List.mem_reverse.mp mem)
  rw [trimEnd, trimEnd, List.reverse_append, List.dropWhile_append_of_pos reversed]

theorem trimChars_append_left {blanks : List Char} (blank : AreBlank blanks) :
    trimChars (blanks ++ cs) = trimChars cs := by
  rw [trimChars, trimStart_append_left blank, trimChars]

theorem trimChars_append_right {blanks : List Char} (blank : AreBlank blanks) :
    trimChars (cs ++ blanks) = trimChars cs := by
  unfold trimChars
  by_cases allBlank : trimStart cs = []
  · have none : trimStart (cs ++ blanks) = [] := by
      rw [trimStart_append_left (List.dropWhile_eq_nil_iff.mp allBlank)]
      exact List.dropWhile_eq_nil_iff.mpr blank
    rw [none, allBlank]
  · have kept : trimStart (cs ++ blanks) = trimStart cs ++ blanks := by
      unfold trimStart at allBlank ⊢
      rw [List.dropWhile_append, if_neg (by simpa using allBlank)]
    rw [kept, trimEnd_append_right blank]

/-- A text is its trimmed form between blanks. -/
theorem exists_trimmed (cs : List Char) :
    ∃ front back, AreBlank front ∧ AreBlank back ∧ cs = front ++ trimChars cs ++ back := by
  refine ⟨cs.takeWhile isBlank, (trimStart cs).rtakeWhile isBlank, ?_, ?_, ?_⟩
  · intro c mem
    exact List.mem_takeWhile_imp mem
  · intro c mem
    exact List.mem_rtakeWhile_imp mem
  · rw [List.append_assoc, trimChars, trimEnd_eq_rdropWhile, List.rdropWhile_append_rtakeWhile]
    exact List.takeWhile_append_dropWhile.symm

/-- Nothing is left of a text exactly if there is nothing but blanks in it. -/
theorem isEmpty_trimChars (s : String) : (trimChars s.toList).isEmpty = isBlankText s := by
  rw [isBlankText, Bool.eq_iff_iff, List.isEmpty_iff, List.all_eq_true]
  constructor
  · intro empty
    obtain ⟨front, back, blankFront, blankBack, split⟩ := exists_trimmed s.toList
    rw [empty, List.append_nil] at split
    intro c mem
    rw [split] at mem
    exact (List.mem_append.mp mem).elim (blankFront c) (blankBack c)
  · intro blank
    have none : trimStart s.toList = [] := List.dropWhile_eq_nil_iff.mpr blank
    rw [trimChars, none]
    rfl

theorem isEmpty_trim (s : String) : (trim s).isEmpty = isBlankText s := by
  rw [← isEmpty_trimChars, Bool.eq_iff_iff, String.isEmpty_iff, List.isEmpty_iff,
    ← String.toList_eq_nil_iff, trim, String.toList_ofList]

theorem trimChars_trimChars (cs : List Char) : trimChars (trimChars cs) = trimChars cs := by
  obtain ⟨front, back, blankFront, blankBack, split⟩ := exists_trimmed cs
  have trimmed : trimChars (front ++ trimChars cs ++ back) = trimChars (trimChars cs) := by
    rw [trimChars_append_right blankBack, trimChars_append_left blankFront]
  rw [← trimmed, ← split]

theorem trim_trim (s : String) : trim (trim s) = trim s := by
  rw [trim, trim, String.toList_ofList, trimChars_trimChars]

theorem trimChars_trimStart (cs : List Char) : trimChars (trimStart cs) = trimChars cs := by
  have twice : trimStart (trimStart cs) = trimStart cs := List.dropWhile_idempotent isBlank cs
  rw [trimChars, twice, trimChars]

theorem trimChars_trimEnd (cs : List Char) : trimChars (trimEnd cs) = trimChars cs := by
  have blank : AreBlank (cs.rtakeWhile isBlank) := fun c mem => List.mem_rtakeWhile_imp mem
  rw [← trimChars_append_right blank, trimEnd_eq_rdropWhile, List.rdropWhile_append_rtakeWhile]

/-- Blanks are dropped only up to a character that is none. -/
theorem dropWhile_isBlank_append (dark : isBlank c = false) (front back : List Char) :
    (front ++ c :: back).dropWhile isBlank = front.dropWhile isBlank ++ c :: back := by
  rw [List.dropWhile_append]
  split
  · next allBlank =>
      rw [List.isEmpty_iff.mp allBlank, List.dropWhile_cons_of_neg (by simp [dark]),
        List.nil_append]
  · rfl

theorem trimEnd_append_cons (dark : isBlank c = false) (before after : List Char) :
    trimEnd (before ++ c :: after) = before ++ c :: trimEnd after := by
  rw [trimEnd, List.reverse_append, List.reverse_cons, List.append_assoc, List.singleton_append,
    dropWhile_isBlank_append dark, List.reverse_append, List.reverse_cons, List.reverse_reverse,
    List.append_assoc, List.singleton_append, trimEnd]

/-- Around a character that is no blank, a text is trimmed on both sides of it. -/
theorem trimChars_around (dark : isBlank c = false) (before after : List Char) :
    trimChars (before ++ c :: after) = trimStart before ++ c :: trimEnd after := by
  rw [trimChars, trimStart, dropWhile_isBlank_append dark, trimEnd_append_cons dark, trimStart]

/-- Characters that are no blanks are kept. -/
theorem mem_trimChars_iff (dark : isBlank c = false) : c ∈ trimChars cs ↔ c ∈ cs := by
  obtain ⟨front, back, blankFront, blankBack, split⟩ := exists_trimmed cs
  have notIn : ∀ {blanks : List Char}, AreBlank blanks → c ∉ blanks := by
    intro blanks blank mem
    rw [blank c mem] at dark
    cases dark
  constructor
  · intro mem
    rw [split]
    exact List.mem_append_left _ (List.mem_append_right _ mem)
  · intro mem
    rw [split] at mem
    rcases List.mem_append.mp mem with mem | mem
    · exact (List.mem_append.mp mem).resolve_left (notIn blankFront)
    · exact absurd mem (notIn blankBack)

/-- A text is cut at the same place before and after it is trimmed, if it is not cut at blanks. -/
theorem trimChars_takeWhile {p : Char → Bool} (passes : ∀ c, isBlank c = true → p c = true)
    (cs : List Char) :
    trimChars ((trimChars cs).takeWhile p) = trimChars (cs.takeWhile p) := by
  obtain ⟨front, back, blankFront, blankBack, split⟩ := exists_trimmed cs
  have passFront : ∀ c ∈ front, p c = true := fun c mem => passes c (blankFront c mem)
  have passBack : back.takeWhile p = back :=
    List.takeWhile_eq_self_iff.mpr fun c mem => passes c (blankBack c mem)
  have cut : cs.takeWhile p = front ++ (trimChars cs ++ back).takeWhile p := by
    conv_lhs => rw [split]
    rw [List.append_assoc, List.takeWhile_append_of_pos passFront]
  rw [cut, trimChars_append_left blankFront, List.takeWhile_append]
  split
  · next whole =>
      have same : (trimChars cs).takeWhile p = trimChars cs :=
        (List.takeWhile_prefix p).eq_of_length whole
      rw [passBack, trimChars_append_right blankBack, same]
  · rfl

/-! ### Texts without blanks at the ends -/

/-- The characters of ASCII above the blank are no blanks. -/
theorem isBlank_eq_false (above : 0x20 < c.toNat) (below : c.toNat < 0x80) : isBlank c = false := by
  simp only [isBlank, blankRanges, Ranges.contains]
  grind

theorem trimChars_eq_self (first : ∀ c ∈ cs.head?, isBlank c = false)
    (last : ∀ c ∈ cs.getLast?, isBlank c = false) : trimChars cs = cs := by
  have start : trimStart cs = cs := by
    cases cs with
    | nil => rfl
    | cons c rest => exact List.dropWhile_cons_of_neg (by simp [first c rfl])
  rw [trimChars, start, trimEnd_eq_rdropWhile, List.rdropWhile_eq_self_iff]
  intro some
  simp [last _ (List.getLast?_eq_some_getLast some)]

theorem isBlank_getLast?_trimChars : ∀ c ∈ (trimChars cs).getLast?, isBlank c = false := by
  intro c last
  have twice : (trimStart cs).rdropWhile isBlank = trimChars cs := rfl
  have stable : (trimChars cs).rdropWhile isBlank = trimChars cs := by
    rw [← twice, List.rdropWhile_idempotent]
  obtain ⟨rest, split⟩ := List.getLast?_eq_some_iff.mp last
  have some : trimChars cs ≠ [] := by simp [split]
  have dark := List.rdropWhile_eq_self_iff.mp stable some
  simpa [split] using dark

end DocQuery.Text
