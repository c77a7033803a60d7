import DocQuery.Proofs.Document.Place
import DocQuery.Sql.Path

/-!
# Paths as SQL text

The expression of a path is pasted into statements as it is, so it has to be accepted for harmless
segments only, and no two paths may share one expression.

An accepted path is written segment by segment.  Every step begins with a dash, and no segment that
is accepted contains one, so the dashes cut an expression into its steps
(`Text.eq_of_flatMap_cons`).  A step is bare or quoted, and a bare one begins with a digit, so it
determines its segment (`Sql.stepBody_injective`), and the segments determine the path.

## Main definitions

* `Sql.IsPathSegment`: what may stand between the points of a path
* `Sql.stepText`: a step as it is written
* `Sql.pathExpr_eq_ok_iff`: which paths are accepted, and how they are written
* `Sql.pathExpr_encodes`
-/

namespace DocQuery

/-- Pieces that follow a separator each are determined by the text that they make up. -/
theorem Text.eq_of_flatMap_cons {separator : Char} {xs ys : List (List Char)}
    (absentX : ∀ piece ∈ xs, separator ∉ piece) (absentY : ∀ piece ∈ ys, separator ∉ piece)
    (same : xs.flatMap (separator :: ·) = ys.flatMap (separator :: ·)) : xs = ys := by
  have joined (first : List Char) (pieces : List (List Char)) :
      [separator].intercalate (first :: pieces) = first ++ pieces.flatMap (separator :: ·) := by
    induction pieces generalizing first with
    | nil => simp
    | cons piece rest ih =>
        rw [List.intercalate_cons_of_ne_nil (List.cons_ne_nil _ _), ih, List.flatMap_cons]
        simp
  have cut (pieces : List (List Char)) (absent : ∀ piece ∈ pieces, separator ∉ piece) :
      (pieces.flatMap (separator :: ·)).splitOn separator = [] :: pieces := by
    rw [← List.nil_append (pieces.flatMap _), ← joined]
    refine List.splitOn_intercalate separator ?_ (List.cons_ne_nil _ _)
    exact List.forall_mem_cons.mpr ⟨List.not_mem_nil, absent⟩
  have parts := congrArg (List.splitOn separator) same
  rw [cut xs absentX, cut ys absentY] at parts
  exact (List.cons.inj parts).2

namespace Sql

variable {segment root path expr : String} {segments : List String}

/-! ### Segments -/

/-- A segment that can be written: digits, or one to 63 letters, digits and underscores. -/
def IsPathSegment (segment : String) : Prop :=
  (segment ≠ "" ∧ ∀ c ∈ segment.toList, c.isDigit = true) ∨
    (1 ≤ segment.length ∧ segment.length ≤ 63 ∧
      ∀ c ∈ segment.toList, c.isAlphanum = true ∨ c = '_')

theorem isIndex_iff :
    isIndex segment = true ↔ segment ≠ "" ∧ ∀ c ∈ segment.toList, c.isDigit = true := by
  simp [isIndex]

theorem isPlainName_iff : isPlainName segment = true ↔ 1 ≤ segment.length ∧ segment.length ≤ 63 ∧
    ∀ c ∈ segment.toList, c.isAlphanum = true ∨ c = '_' := by
  have nonempty : segment ≠ "" ↔ 1 ≤ segment.length := by
    rw [Nat.one_le_iff_ne_zero, Ne, Ne, ← String.length_toList, List.length_eq_zero_iff,
      String.toList_eq_nil_iff]
  simp [isPlainName, String.length_toList, ← nonempty, and_assoc]

/-- Whatever is accepted consists of letters, digits and underscores. -/
theorem IsPathSegment.isAlphanum_or (accepted : IsPathSegment segment) :
    ∀ c ∈ segment.toList, c.isAlphanum = true ∨ c = '_' := by
  intro c mem
  rcases accepted with ⟨-, digits⟩ | ⟨-, -, name⟩
  · left
    rw [Char.isAlphanum, digits c mem, Bool.or_true]
  · exact name c mem

theorem IsPathSegment.notMem {c : Char} (accepted : IsPathSegment segment)
    (other : ¬(c.isAlphanum = true ∨ c = '_')) : c ∉ segment.toList :=
  fun mem => other (accepted.isAlphanum_or c mem)

/-! ### Steps -/

/-- A step without its dash. -/
def stepBody (segment : String) : List Char :=
  '>' :: if isIndex segment then segment.toList else '\'' :: segment.toList ++ ['\'']

/-- The step to a segment as it is written: an index bare, a name in quotes. -/
def stepText (segment : String) : String :=
  if isIndex segment then "->" ++ segment else "->'" ++ segment ++ "'"

theorem toList_stepText (segment : String) : (stepText segment).toList = '-' :: stepBody segment := by
  rw [stepText, stepBody]
  split <;> simp

theorem step?_eq_some_iff {step : String} :
    step? segment = some step ↔ IsPathSegment segment ∧ step = stepText segment := by
  rw [IsPathSegment, ← isIndex_iff, ← isPlainName_iff, step?, stepText, eq_comm (a := step)]
  by_cases index : isIndex segment = true
  · simp [index]
  · by_cases name : isPlainName segment = true <;> simp [index, name]

theorem steps?_eq_some_iff {steps : String} :
    steps? segments = some steps ↔
      (∀ s ∈ segments, IsPathSegment s) ∧ steps = String.join (segments.map stepText) := by
  induction segments generalizing steps with
  | nil => simp [steps?, eq_comm]
  | cons segment rest ih =>
      rw [steps?, Option.bind_eq_some_iff, List.forall_mem_cons, List.map_cons, String.join_cons]
      simp only [step?_eq_some_iff, Option.map_eq_some_iff, ih]
      constructor
      · rintro ⟨_, ⟨first, rfl⟩, _, ⟨others, rfl⟩, rfl⟩
        exact ⟨⟨first, others⟩, rfl⟩
      · rintro ⟨⟨first, others⟩, rfl⟩
        exact ⟨_, ⟨first, rfl⟩, _, ⟨others, rfl⟩, rfl⟩

/-- Accepted are the paths whose segments are, and they are written step by step. -/
theorem pathExpr_eq_ok_iff : pathExpr root path = .ok expr ↔
    (∀ s ∈ Path.segments path, IsPathSegment s) ∧
      expr = root ++ String.join ((Path.segments path).map stepText) := by
  rw [pathExpr]
  cases found : steps? (Path.segments path) with
  | none =>
      refine iff_of_false nofun ?_
      rintro ⟨accepted, -⟩
      rw [steps?_eq_some_iff.mpr ⟨accepted, rfl⟩] at found
      cases found
  | some steps =>
      obtain ⟨accepted, rfl⟩ := steps?_eq_some_iff.mp found
      rw [Except.ok.injEq, eq_comm]
      exact ⟨fun written => ⟨accepted, written⟩, And.right⟩

/-! ### Reading steps back -/

/-- A quote is no digit, so a bare step is no quoted one. -/
theorem stepBody_injective : Function.Injective stepBody := by
  have bare (s t : String) (index : isIndex s = true) :
      s.toList ≠ '\'' :: t.toList ++ ['\''] := by
    intro same
    have digit := (isIndex_iff.mp index).2 '\'' (by rw [same]; simp)
    exact absurd digit (by decide)
  intro s t same
  have same := (List.cons.inj same).2
  refine String.toList_inj.mp ?_
  by_cases indexS : isIndex s = true <;> by_cases indexT : isIndex t = true
  · simpa [indexS, indexT] using same
  · rw [if_pos indexS, if_neg indexT] at same
    exact absurd same (bare s t indexS)
  · rw [if_neg indexS, if_pos indexT] at same
    exact absurd same.symm (bare t s indexT)
  · simpa [indexS, indexT] using same

theorem dash_notMem_stepBody (accepted : IsPathSegment segment) : '-' ∉ stepBody segment := by
  have absent : '-' ∉ segment.toList := accepted.notMem (by decide)
  rw [stepBody]
  split <;> simp [absent]

/-- Steps that make up one text lead through the same segments. -/
theorem eq_of_join_stepText {others : List String} (accepted : ∀ s ∈ segments, IsPathSegment s)
    (accepted' : ∀ s ∈ others, IsPathSegment s)
    (same : String.join (segments.map stepText) = String.join (others.map stepText)) :
    segments = others := by
  have chars (segments : List String) : (String.join (segments.map stepText)).toList =
      (segments.map stepBody).flatMap ('-' :: ·) := by
    rw [String.toList_join, List.flatMap_map, List.flatMap_map]
    simp only [toList_stepText]
  have apart {segments : List String} (accepted : ∀ s ∈ segments, IsPathSegment s) :
      ∀ body ∈ segments.map stepBody, '-' ∉ body := by
    intro body mem
    obtain ⟨s, inSegments, rfl⟩ := List.mem_map.mp mem
    exact dash_notMem_stepBody (accepted s inSegments)
  have bodies := congrArg String.toList same
  rw [chars, chars] at bodies
  exact List.map_injective_iff.mpr stepBody_injective
    (Text.eq_of_flatMap_cons (apart accepted) (apart accepted') bodies)

/-! ### Quotes -/

/-- The quotes of accepted steps are the two around each name. -/
theorem count_quote_steps (accepted : ∀ s ∈ segments, IsPathSegment s) :
    (String.join (segments.map stepText)).toList.count '\'' =
      2 * segments.countP fun s => !isIndex s := by
  induction segments with
  | nil => rfl
  | cons segment rest ih =>
      obtain ⟨first, others⟩ := List.forall_mem_cons.mp accepted
      have none : segment.toList.count '\'' = 0 := List.count_eq_zero.mpr (first.notMem (by decide))
      rw [List.map_cons, String.join_cons, String.toList_append, List.count_append, ih others,
        toList_stepText, stepBody, List.countP_cons]
      by_cases index : isIndex segment = true
      · simp [index, none]
      · simp [index, none]
        omega

theorem count_doubleQuote_steps (accepted : ∀ s ∈ segments, IsPathSegment s) :
    (String.join (segments.map stepText)).toList.count '"' = 0 := by
  rw [List.count_eq_zero, String.toList_join, List.flatMap_map]
  intro mem
  obtain ⟨segment, inSegments, inStep⟩ := List.mem_flatMap.mp mem
  have absent : '"' ∉ segment.toList := (accepted segment inSegments).notMem (by decide)
  rw [toList_stepText, stepBody] at inStep
  split at inStep <;> simp [absent] at inStep

/-- **Paths are written safely and unambiguously.**  A path is accepted exactly if each of its
segments is digits or a name of 1 to 63 letters, digits and underscores.  Its expression is the root
and one step for each segment, a name in quotes, and there is no quote besides; and no other path has
the same expression. -/
theorem pathExpr_encodes (root path : String) :
    ((∃ expr, pathExpr root path = .ok expr) ↔ ∀ s ∈ Path.segments path, IsPathSegment s) ∧
    ∀ expr, pathExpr root path = .ok expr →
      expr = root ++ String.join ((Path.segments path).map stepText) ∧
      expr.toList.count '\'' = root.toList.count '\'' +
        2 * (Path.segments path).countP (fun s => !isIndex s) ∧
      expr.toList.count '"' = root.toList.count '"' ∧
      ∀ other, pathExpr root other = .ok expr → other = path := by
  simp only [pathExpr_eq_ok_iff, exists_and_left, exists_eq, and_true, true_and]
  rintro _ ⟨accepted, rfl⟩
  refine ⟨rfl, ?_, ?_, ?_⟩
  · rw [String.toList_append, List.count_append, count_quote_steps accepted]
  · rw [String.toList_append, List.count_append, count_doubleQuote_steps accepted, Nat.add_zero]
  · rintro other ⟨accepted', same⟩
    have chars := congrArg String.toList same
    rw [String.toList_append, String.toList_append] at chars
    have steps := String.toList_inj.mp (List.append_cancel_left chars)
    exact (Path.segments_injective (eq_of_join_stepText accepted accepted' steps)).symm

/-- An index between two names; what breaks out of its quotes is refused. -/
theorem pathExpr_encodes_lines :
    pathExpr "doc" "lines.0.sku_1" = .ok "doc->'lines'->0->'sku_1'" ∧
      "doc->'lines'->0->'sku_1'".toList.count '\'' = 4 ∧
      (∀ other, pathExpr "doc" other = .ok "doc->'lines'->0->'sku_1'" → other = "lines.0.sku_1") ∧
      ¬∃ expr, pathExpr "doc" "a'->>'b" = .ok expr := by
  have written : pathExpr "doc" "lines.0.sku_1" = .ok "doc->'lines'->0->'sku_1'" := by
    decide +kernel
  obtain ⟨-, quotes, -, only⟩ := (pathExpr_encodes "doc" "lines.0.sku_1").2 _ written
  refine ⟨written, quotes, only, ?_⟩
  rw [(pathExpr_encodes "doc" "a'->>'b").1]
  intro accepted
  have quote := (accepted "a'->>'b" (by decide)).notMem (c := '\'') (by decide)
  exact quote (by decide)

end Sql

end DocQuery
