import DocQuery.Text.Blank
import Mathlib.Data.List.Basic

/-!
# Splitting and joining

Splitting a text at a separator is `List.splitOn`, so joining undoes it.
-/

namespace DocQuery.Text

variable {separator c : Char} {cs : List Char} {parts : List String}

/-! ### Splitting at every separator -/

theorem pieces_eq_splitOn : pieces separator cs = cs.splitOn separator := by
  induction cs with
  | nil => rfl
  | cons c rest ih =>
      rw [pieces, ih, List.splitOn_cons_eq_if_modifyHead]
      cases pieces : rest.splitOn separator with
      | nil => exact absurd pieces (List.splitOn_ne_nil _ _)
      | cons piece more => by_cases same : c = separator <;> simp [same]

theorem splitOnChar_ne_nil (separator : Char) (s : String) : splitOnChar separator s ≠ [] := by
  simp [splitOnChar, pieces_eq_splitOn]

theorem notMem_of_mem_splitOn {piece : List Char} (mem : piece ∈ cs.splitOn separator) :
    separator ∉ piece := by
  induction cs generalizing piece with
  | nil => simp_all
  | cons c rest ih =>
      rw [List.splitOn_cons_eq_if_modifyHead] at mem
      by_cases same : c = separator
      · rcases List.mem_cons.mp (by simpa [same] using mem) with rfl | later
        · exact List.not_mem_nil
        · exact ih later
      · obtain ⟨first, more, split⟩ := List.exists_cons_of_ne_nil (List.splitOn_ne_nil separator rest)
        rw [if_neg (by simpa using same), split, List.modifyHead_cons] at mem
        rw [split] at ih
        rcases List.mem_cons.mp mem with rfl | later
        · simp only [List.mem_cons, not_or]
          exact ⟨Ne.symm same, ih List.mem_cons_self⟩
        · exact ih (List.mem_cons_of_mem _ later)

theorem notMem_of_mem_splitOnChar {s part : String} (mem : part ∈ splitOnChar separator s) :
    separator ∉ part.toList := by
  obtain ⟨piece, inPieces, rfl⟩ := List.mem_map.mp mem
  rw [String.toList_ofList]
  exact notMem_of_mem_splitOn (pieces_eq_splitOn ▸ inPieces)

/-- A text without the separator is its own only part. -/
theorem splitOnChar_of_notMem {s : String} (absent : separator ∉ s.toList) :
    splitOnChar separator s = [s] := by
  rw [splitOnChar, pieces_eq_splitOn, List.splitOn_eq_singleton absent]
  simp

theorem toList_join (parts : List String) :
    (join (.singleton separator) parts).toList = [separator].intercalate (parts.map String.toList) := by
  rw [join, String.toList_intercalate, String.toList_singleton]

/-- Joined parts split into the same parts, if there are any and none contains the separator. -/
theorem splitOnChar_join (some : parts ≠ []) (absent : ∀ part ∈ parts, separator ∉ part.toList) :
    splitOnChar separator (join (.singleton separator) parts) = parts := by
  have apart : ∀ piece ∈ parts.map String.toList, separator ∉ piece := by
    simpa using absent
  rw [splitOnChar, toList_join, pieces_eq_splitOn,
    List.splitOn_intercalate separator apart (by simpa using some), List.map_map]
  simp

theorem intercalate_append {xs ys : List (List Char)} (some : xs ≠ []) (more : ys ≠ []) :
    [separator].intercalate (xs ++ ys) =
      [separator].intercalate xs ++ separator :: [separator].intercalate ys := by
  induction xs with
  | nil => exact absurd rfl some
  | cons x rest ih =>
      rw [List.cons_append,
        List.intercalate_cons_of_ne_nil (List.append_ne_nil_of_right_ne_nil _ more)]
      by_cases last : rest = []
      · simp [last]
      · rw [ih last, List.intercalate_cons_of_ne_nil last]
        simp

theorem mem_intercalate {pieces : List (List Char)} (mem : c ∈ [separator].intercalate pieces) :
    c = separator ∨ ∃ piece ∈ pieces, c ∈ piece := by
  induction pieces with
  | nil => cases mem
  | cons piece rest ih =>
      by_cases last : rest = []
      · rw [last, List.intercalate_singleton] at mem
        exact .inr ⟨piece, List.mem_cons_self, mem⟩
      · rw [List.intercalate_cons_of_ne_nil last, List.append_assoc, List.singleton_append] at mem
        rcases List.mem_append.mp mem with here | behind
        · exact .inr ⟨piece, List.mem_cons_self, here⟩
        · rcases List.mem_cons.mp behind with same | later
          · exact .inl same
          · rcases ih later with same | ⟨other, inRest, inside⟩
            · exact .inl same
            · exact .inr ⟨other, List.mem_cons_of_mem _ inRest, inside⟩

/-- A character of joined parts is a separator or one of a part. -/
theorem mem_join (mem : c ∈ (join (.singleton separator) parts).toList) :
    c = separator ∨ ∃ part ∈ parts, c ∈ part.toList := by
  rw [toList_join] at mem
  simpa using mem_intercalate mem

/-- A character of a text is a separator or one of a part. -/
theorem mem_splitOnChar {s : String} (mem : c ∈ s.toList) :
    c = separator ∨ ∃ part ∈ splitOnChar separator s, c ∈ part.toList := by
  have joined : [separator].intercalate (s.toList.splitOn separator) = s.toList :=
    List.intercalate_splitOn separator
  rw [← joined] at mem
  rcases mem_intercalate mem with same | ⟨piece, inPieces, inside⟩
  · exact .inl same
  · refine .inr ⟨String.ofList piece, ?_, ?_⟩
    · rw [splitOnChar, pieces_eq_splitOn]
      exact List.mem_map_of_mem inPieces
    · rw [String.toList_ofList]
      exact inside

/-- The pieces of a text are a prefix of those of another one exactly if the texts are equal or the
second one goes on with a separator behind the first. -/
theorem splitOn_prefix_iff {xs ys : List Char} :
    xs.splitOn separator <+: ys.splitOn separator ↔ xs = ys ∨ xs ++ [separator] <+: ys := by
  constructor
  · rintro ⟨rest, split⟩
    have joined : ys = [separator].intercalate (xs.splitOn separator ++ rest) := by
      rw [split, List.intercalate_splitOn]
    by_cases empty : rest = []
    · left
      rw [joined, empty, List.append_nil, List.intercalate_splitOn]
    · right
      refine ⟨[separator].intercalate rest, ?_⟩
      rw [joined, intercalate_append (List.splitOn_ne_nil _ _) empty, List.intercalate_splitOn,
        List.append_assoc, List.singleton_append]
  · rintro (rfl | ⟨rest, rfl⟩)
    · exact List.prefix_rfl
    · rw [List.append_assoc, List.singleton_append, List.splitOn_append_cons_self]
      exact List.prefix_append _ _

/-- Behind a text, one without separators goes on with its last part. -/
theorem splitOn_append_of_notMem {ys : List Char} (absent : separator ∉ ys) (xs : List Char) :
    ∃ before last, before.length = xs.count separator ∧ xs.splitOn separator = before ++ [last] ∧
      (xs ++ ys).splitOn separator = before ++ [last ++ ys] := by
  induction xs with
  | nil => exact ⟨[], [], rfl, rfl, List.splitOn_eq_singleton absent⟩
  | cons c rest ih =>
      obtain ⟨before, last, parts, split, split'⟩ := ih
      rw [List.cons_append, List.splitOn_cons_eq_if_modifyHead, List.splitOn_cons_eq_if_modifyHead,
        split, split']
      by_cases same : c = separator
      · exact ⟨[] :: before, last, by simp [same, parts], by simp [same], by simp [same]⟩
      · cases before with
        | nil => exact ⟨[], c :: last, by simpa [same] using parts, by simp [same], by simp [same]⟩
        | cons first others =>
            exact ⟨(c :: first) :: others, last, by simpa [same] using parts, by simp [same],
              by simp [same]⟩

/-- A text has one part more than separators. -/
theorem length_splitOnChar (separator : Char) (s : String) :
    (splitOnChar separator s).length = s.toList.count separator + 1 := by
  have plain : separator ∉ ([] : List Char) := List.not_mem_nil
  obtain ⟨before, last, count, split, -⟩ := splitOn_append_of_notMem plain s.toList
  rw [splitOnChar, List.length_map, pieces_eq_splitOn, split, List.length_append, count]
  rfl

/-! ### Runs -/

/-- The runs of a text are its parts between the characters that break them, without the empty ones. -/
theorem runs_eq_splitOnP (p : Char → Bool) (cs : List Char) :
    runs p cs = (cs.splitOnP fun c => !p c).filter fun run => !run.isEmpty := by
  induction cs with
  | nil => rfl
  | cons c rest ih =>
      rw [List.splitOnP_cons_eq_if_modifyHead]
      cases inside : p c with
      | false =>
          rw [runs.eq_def]
          simp [inside, ih]
      | true =>
          cases rest with
          | nil => simp [runs, inside]
          | cons d others =>
              obtain ⟨run, more, parts⟩ :=
                List.exists_cons_of_ne_nil (List.splitOnP_ne_nil (fun c => !p c) others)
              rw [List.splitOnP_cons_eq_if_modifyHead, parts] at ih ⊢
              rw [runs.eq_def]
              cases goesOn : p d with
              | false =>
                  -- the run is this character alone, whatever comes behind it
                  simp only [inside, goesOn, Bool.not_true, Bool.not_false, Bool.false_eq_true,
                    if_true, if_false, List.modifyHead_cons] at ih ⊢
                  rw [List.filter_cons_of_neg (by simp)] at ih
                  rw [List.filter_cons_of_pos (a := [c]) rfl, ih]
                  cases (run :: more).filter fun run => !run.isEmpty <;> simp [goesOn]
              | true => simp [inside, ih, goesOn]

/-- What breaks a run splits the runs of a text. -/
theorem runs_append_cons {p : Char → Bool} (breaks : p c = false) (xs ys : List Char) :
    runs p (xs ++ c :: ys) = runs p xs ++ runs p ys := by
  rw [runs_eq_splitOnP, List.splitOnP_append_cons xs ys (by simp [breaks]), List.filter_append,
    ← runs_eq_splitOnP, ← runs_eq_splitOnP]

/-- A text that nothing breaks is one run. -/
theorem runs_of_forall {p : Char → Bool} (some : cs ≠ []) (all : ∀ c ∈ cs, p c = true) :
    runs p cs = [cs] := by
  rw [runs_eq_splitOnP, List.splitOnP_eq_singleton (by simpa using all)]
  simp [some]

/-! ### Splitting at the last separator -/

theorem splitLast_eq_some {before after : List Char}
    (h : splitLast separator cs = some (before, after)) :
    cs = before ++ separator :: after := by
  induction cs generalizing before with
  | nil => cases h
  | cons c rest ih =>
      rw [splitLast] at h
      cases later : splitLast separator rest with
      | some parts =>
          obtain ⟨front, back⟩ := parts
          rw [later] at h
          obtain ⟨rfl, rfl⟩ := Prod.mk.inj (Option.some.inj h)
          rw [ih later, List.cons_append]
      | none =>
          rw [later] at h
          by_cases same : c = separator
          · rw [if_pos same] at h
            obtain ⟨rfl, rfl⟩ := Prod.mk.inj (Option.some.inj h)
            rw [same, List.nil_append]
          · rw [if_neg same] at h
            cases h

theorem splitLast_of_notMem (absent : separator ∉ cs) : splitLast separator cs = none := by
  induction cs with
  | nil => rfl
  | cons c rest ih =>
      rw [List.mem_cons, not_or] at absent
      rw [splitLast, ih absent.2]
      exact if_neg (Ne.symm absent.1)

/-- A separator with none behind it is the last one. -/
theorem splitLast_append {after : List Char} (before : List Char) (absent : separator ∉ after) :
    splitLast separator (before ++ separator :: after) = some (before, after) := by
  induction before with
  | nil =>
      rw [List.nil_append, splitLast, splitLast_of_notMem absent]
      exact if_pos rfl
  | cons c rest ih => rw [List.cons_append, splitLast, ih]

/-! ### Splitting at the first separator -/

theorem splitOnce_eq_some {before after : List Char}
    (h : splitOnce separator cs = some (before, after)) :
    before = cs.takeWhile (· ≠ separator) := by
  induction cs generalizing before with
  | nil => cases h
  | cons c rest ih =>
      rw [splitOnce] at h
      by_cases same : c = separator
      · rw [if_pos same] at h
        obtain ⟨rfl, rfl⟩ := Prod.mk.inj (Option.some.inj h)
        simp [same]
      · rw [if_neg same] at h
        obtain ⟨⟨front, back⟩, split, parts⟩ := Option.map_eq_some_iff.mp h
        obtain ⟨rfl, rfl⟩ := Prod.mk.inj parts
        rw [List.takeWhile_cons_of_pos (by simpa using same), ih split]

theorem splitOnce_eq_none (h : splitOnce separator cs = none) :
    cs.takeWhile (· ≠ separator) = cs := by
  induction cs with
  | nil => rfl
  | cons c rest ih =>
      rw [splitOnce] at h
      by_cases same : c = separator
      · rw [if_pos same] at h
        cases h
      · rw [if_neg same] at h
        rw [List.takeWhile_cons_of_pos (by simpa using same), ih (Option.map_eq_none_iff.mp h)]

theorem splitOnce_of_notMem (absent : separator ∉ cs) : splitOnce separator cs = none := by
  induction cs with
  | nil => rfl
  | cons c rest ih =>
      rw [List.mem_cons, not_or] at absent
      rw [splitOnce, if_neg (Ne.symm absent.1), ih absent.2]
      rfl

/-- A separator with none before it is the first one. -/
theorem splitOnce_append {before : List Char} (absent : separator ∉ before) (after : List Char) :
    splitOnce separator (before ++ separator :: after) = some (before, after) := by
  induction before with
  | nil => exact if_pos rfl
  | cons c rest ih =>
      rw [List.mem_cons, not_or] at absent
      rw [List.cons_append, splitOnce, if_neg (Ne.symm absent.1), ih absent.2]
      rfl

end DocQuery.Text
