import DocQuery.Proofs.Filter.Folding
import DocQuery.Proofs.Number.Numeral
import DocQuery.Proofs.Predicate.Meaning
import DocQuery.Proofs.Text.Trim
import Mathlib.Order.Compare
import Mathlib.Data.Int.Order.Basic

/-!
# Ranges

A range of a field is written with two bounds, in a list or in a text with a comma between them, and
either bound may come first.  It is mapped to two comparisons with the bounds in numeric order.

A comparison sees a number by its place in the numeric order only (`Number.place`), and the places
of the ordered bounds are the least and the greatest of the two (`Number.place_inOrder`).  So a range
means the same whichever bound comes first and however it is written; of two bounds at one place,
such as `1` and `1.0`, the order shows in the clauses but in no answer.

That a text has two parts only when both bounds are numerals is a fact about numerals: they have no
commas.

## Main definitions

* `rangeKey`, `WritesRange`: a range as a client writes it
* `Number.place`, `Number.inOrder`: the order of the bounds
* `Operand.bounds_eq_ok_iff`: which ranges are accepted
* `Predicate.range`: what a range compiles to
* `matchesDocument_range`
-/

namespace DocQuery

/-- The flat key of a range of a field. -/
def rangeKey (field : String) : String := field ++ "_between"

/-- The ways to write a range with two bounds: a list, or a text with a comma between them. -/
inductive WritesRange : Json → Json → Json → Prop where
  | list (first second : Json) : WritesRange first second (.array [first, second])
  | text (first second : String) :
      WritesRange (.string first) (.string second) (.string (first ++ "," ++ second))

/-! ### The order of the bounds -/

namespace Number

/-- The place of a number in the numeric order. -/
def place (n : Number) : Int := n.toBinary64.orderKey

/-- Two numbers, the one that comes first in front; at one place they stay as they are. -/
def inOrder (a b : Number) : Number × Number := if a.order b ≠ .gt then (a, b) else (b, a)

theorem order_ne_gt_iff {a b : Number} : a.order b ≠ .gt ↔ a.place ≤ b.place := by
  rw [Ne, order, Binary64.order, compare_gt_iff_gt, not_lt, place, place]

theorem order_ne_lt_iff {a b : Number} : a.order b ≠ .lt ↔ b.place ≤ a.place := by
  rw [Ne, order, Binary64.order, compare_lt_iff_lt, not_lt, place, place]

theorem place_inOrder (a b : Number) :
    (inOrder a b).1.place = min a.place b.place ∧ (inOrder a b).2.place = max a.place b.place := by
  unfold inOrder
  split
  · next le =>
      have le := order_ne_gt_iff.mp le
      exact ⟨(min_eq_left le).symm, (max_eq_right le).symm⟩
  · next greater =>
      have le := (not_le.mp fun le => greater (order_ne_gt_iff.mpr le)).le
      exact ⟨(min_eq_right le).symm, (max_eq_left le).symm⟩

end Number

/-- A comparison sees the place of a number and nothing else of it. -/
theorem Json.comparison_of_place_eq {a b : Number} (same : a.place = b.place) (v : Json) :
    v.comparison (.number a) = v.comparison (.number b) := by
  cases v with
  | number n => exact congrArg (fun key => some (compare n.place key)) same
  | _ => rfl

/-! ### Reading a range -/

namespace Operand

/-- A numeral has no commas. -/
theorem comma_notMem_of_number? {s : String} {n : Number} (read : number? s = some n) :
    ',' ∉ s.toList := by
  have other : ¬Numeral.IsNumeralChar ',' := by
    unfold Numeral.IsNumeralChar
    decide
  have trimmed : ',' ∈ s.toList ↔ ',' ∈ (Text.trim s).toList := by
    rw [Text.trim, String.toList_ofList, Text.mem_trimChars_iff (by decide)]
  rw [trimmed]
  intro mem
  unfold number? at read
  dsimp only at read
  split at read
  · next integer =>
      obtain ⟨value, read, -⟩ := Option.bind_eq_some_iff.mp integer
      exact other (Numeral.isNumeralChar_of_integer? read _ mem)
  · obtain ⟨value, read, -⟩ := Option.map_eq_some_iff.mp read
    exact other (Numeral.isNumeralChar_of_decimal? read _ mem)

/-- Blanks around a bound do not count. -/
theorem boundNumber?_trim (s : String) :
    boundNumber? (.string (Text.trim s)) = boundNumber? (.string s) := by
  rw [boundNumber?, boundNumber?, number?, number?, Text.trim_trim]

theorem bounds_list_eq_ok_iff {first second : Json} {ordered : Number × Number} :
    bounds (.array [first, second]) = .ok ordered ↔
      ∃ a b, boundNumber? first = some a ∧ boundNumber? second = some b ∧
        Number.inOrder a b = ordered := by
  simp only [bounds, boundParts]
  cases boundNumber? first with
  | none => simp
  | some a =>
      cases boundNumber? second with
      | none => simp
      | some b => simp [Number.inOrder]

/-- A text with one comma is the list of what stands before it and behind it. -/
theorem bounds_text {first second : String} (plain : ',' ∉ first.toList)
    (plain' : ',' ∉ second.toList) :
    bounds (.string (first ++ "," ++ second)) =
      bounds (.array [.string first, .string second]) := by
  have parts : Text.splitOnChar ',' (first ++ "," ++ second) = [first, second] := by
    have joined : first ++ "," ++ second = Text.join (.singleton ',') [first, second] := by
      rw [← String.toList_inj, Text.toList_join]
      simp
    rw [joined]
    exact Text.splitOnChar_join (List.cons_ne_nil _ _) (by simp [plain, plain'])
  simp only [bounds, boundParts, parts, List.map_cons, List.map_nil, boundNumber?_trim]

/-- A text that is accepted has one comma. -/
theorem notMem_of_bounds_text {first second : String} {ordered : Number × Number}
    (read : bounds (.string (first ++ "," ++ second)) = .ok ordered) :
    ',' ∉ first.toList ∧ ',' ∉ second.toList := by
  have two : (Text.splitOnChar ',' (first ++ "," ++ second)).length = 2 := by
    simp only [bounds, boundParts] at read
    split at read
    · cases read
    · next parts =>
        have lengths := congrArg List.length (Except.ok.inj parts)
        rwa [List.length_map] at lengths
    · cases read
  have commas : (first ++ "," ++ second).toList.count ',' =
      first.toList.count ',' + 1 + second.toList.count ',' := by
    rw [String.toList_append, String.toList_append, List.count_append, List.count_append]
    rfl
  rw [Text.length_splitOnChar, commas] at two
  exact ⟨List.count_eq_zero.mp (by omega), List.count_eq_zero.mp (by omega)⟩

/-- **A range is accepted exactly if both bounds are numbers or numerals**, and its bounds are read
in order. -/
theorem bounds_eq_ok_iff {first second value : Json} {ordered : Number × Number}
    (written : WritesRange first second value) :
    bounds value = .ok ordered ↔
      ∃ a b, boundNumber? first = some a ∧ boundNumber? second = some b ∧
        Number.inOrder a b = ordered := by
  cases written with
  | list => exact bounds_list_eq_ok_iff
  | text first second =>
      constructor
      · intro read
        obtain ⟨plain, plain'⟩ := notMem_of_bounds_text read
        rw [bounds_text plain plain'] at read
        exact bounds_list_eq_ok_iff.mp read
      · rintro ⟨a, b, readA, readB, order⟩
        rw [bounds_text (comma_notMem_of_number? readA) (comma_notMem_of_number? readB)]
        exact bounds_list_eq_ok_iff.mpr ⟨a, b, readA, readB, order⟩

end Operand

/-! ### Mapping and compiling a range -/

section

variable {field : String} {value : Json} {low high : Number}

/-- The clauses of a range. -/
def rangeClauses (field : String) (low high : Number) : Document :=
  [(field, .object [("$gte", .number low), ("$lte", .number high)])]

/-- What a range compiles to. -/
def Predicate.range (field : String) (low high : Number) : Predicate :=
  .allOf [.field field (.allOf [.compares .gte (.number low), .compares .lte (.number high)])]

/-- The second bound joins the operator map of the first one. -/
theorem addOperand_bounds (field : String) (low high : Number) :
    Clauses.addOperand (Clauses.addOperand [] field .gte (.single (.number low))) field .lte
      (.single (.number high)) = rangeClauses field low high := by
  have first : Clauses.addOperand [] field .gte (.single (.number low)) =
      [(field, .object (Document.insert [] "$gte" (.number low)))] :=
    Clauses.addOperand_eq (by decide)
  have joined : Clauses.operatorsAt [(field, .object (Document.insert [] "$gte" (.number low)))]
      field = Document.insert [] "$gte" (.number low) := by
    rw [Clauses.operatorsAt, Document.get?_cons, if_pos rfl]
    exact Clauses.operatorsOf_insert (List.forall_mem_nil _) (by decide)
  rw [first, Clauses.addOperand_eq (by decide), joined]
  simp [Document.insert, withOperand, Operator.native, rangeClauses]

/-- A range is mapped to the comparisons with its bounds, or reported. -/
theorem mapFilters_range [PatternReader] (named : field ≠ "") (path : isDollarKey field = false)
    (trust : Trust) :
    mapFilters [(rangeKey field, value)] trust =
      match Operand.bounds value with
      | .ok ordered => ⟨rangeClauses field ordered.1 ordered.2, []⟩
      | .error fault => ⟨[], [FilterPart.refusal (rangeKey field) fault]⟩ := by
  have suffixed : rangeKey field = field ++ "_" ++ "between" := by
    rw [rangeKey, String.append_assoc]
    rfl
  have parsed : FilterKey.parse (rangeKey field) = ⟨field, some .between⟩ := by
    rw [suffixed]
    exact FilterKey.parse_suffixed named (by decide) rfl
  have key : isDollarKey (rangeKey field) = false := by
    rw [rangeKey, isDollarKey_append named, path]
  rw [mapFilters_eq, List.flatMap_singleton, FilterPart.ofEntry_range key parsed,
    FilterPart.ofRange]
  cases Operand.bounds value with
  | error fault => rfl
  | ok ordered =>
      exact congrArg (MappedFilters.mk · []) (addOperand_bounds field ordered.1 ordered.2)

theorem compile_rangeClauses [PatternReader] (path : isDollarKey field = false)
    (fields : List String) :
    Predicate.compile (rangeClauses field low high) fields = .ok (.range field low high) := by
  have operators : (Json.object [("$gte", .number low), ("$lte", .number high)]).operators? =
      some [("$gte", .number low), ("$lte", .number high)] :=
    Json.operators?_eq_some_iff.mpr ⟨rfl, List.cons_ne_nil _ _, by simp; decide⟩
  rw [rangeClauses, Predicate.compile, compileClauses, compileClause_path path, operators]
  rfl

/-- A range is accepted exactly if its bounds are. -/
theorem diagnostics_range [PatternReader] (named : field ≠ "") (path : isDollarKey field = false)
    (trust : Trust) :
    (mapFilters [(rangeKey field, value)] trust).diagnostics = [] ↔
      ∃ ordered, Operand.bounds value = .ok ordered := by
  rw [mapFilters_range named path]
  cases Operand.bounds value with
  | error fault => simp
  | ok ordered => simp

/-! ### What a range matches -/

/-- A range sees the places of its bounds and nothing else of them. -/
theorem Predicate.matchesDocument_range_congr {low' high' : Number}
    (sameLow : low.place = low'.place) (sameHigh : high.place = high'.place) (doc : Document) :
    (range field low high).matchesDocument doc = (range field low' high').matchesDocument doc := by
  simp only [range, matchesDocument_allOf, List.all_cons, List.all_nil, matchesDocument_field,
    FieldTest.holds, holdsAll, Json.comparison_of_place_eq sameLow,
    Json.comparison_of_place_eq sameHigh]

/-- Of a single number a range tells whether its place is between those of the bounds. -/
theorem Predicate.matchesDocument_range_iff {doc : Document} {x : Number}
    (single : doc.lookup field = [.number x]) :
    (range field low high).matchesDocument doc = true ↔
      low.place ≤ x.place ∧ x.place ≤ high.place := by
  rw [← Number.order_ne_lt_iff, ← Number.order_ne_gt_iff]
  simp [range, FieldTest.holds, holdsAll, single, candidates, Json.array?, Json.comparison,
    Comparison.holds]

/-- Two bounds by their size: neither has been left out, and the first one is not the greater. -/
def AreBounds (a b low high : Number) : Prop :=
  (low = a ∧ high = b ∨ low = b ∧ high = a) ∧
    (Json.number low).comparison (.number high) ≠ some .gt

theorem AreBounds.places {a b : Number} (bounds : AreBounds a b low high) :
    low.place = (Number.inOrder a b).1.place ∧ high.place = (Number.inOrder a b).2.place := by
  obtain ⟨which, le⟩ := bounds
  have le : low.place ≤ high.place :=
    Number.order_ne_gt_iff.mp fun greater => le (congrArg some greater)
  obtain ⟨least, greatest⟩ := Number.place_inOrder a b
  rw [least, greatest]
  rcases which with ⟨rfl, rfl⟩ | ⟨rfl, rfl⟩
  · exact ⟨(min_eq_left le).symm, (max_eq_right le).symm⟩
  · exact ⟨(min_eq_right le).symm, (max_eq_left le).symm⟩

theorem areBounds_inOrder (a b : Number) :
    AreBounds a b (Number.inOrder a b).1 (Number.inOrder a b).2 := by
  constructor
  · unfold Number.inOrder
    split
    · exact .inl ⟨rfl, rfl⟩
    · exact .inr ⟨rfl, rfl⟩
  · obtain ⟨least, greatest⟩ := Number.place_inOrder a b
    intro greater
    refine Number.order_ne_gt_iff.mpr ?_ (Option.some.inj greater)
    rw [least, greatest]
    exact (min_le_left _ _).trans (le_max_left _ _)

/-- **A range tests whether a number is between its bounds, whichever of them comes first.**  A
range that is accepted has two numeric bounds, one of them the smaller, and compiles; where a field
has one number, it matches exactly if the number is neither below the smaller bound nor above the
greater one; and with the bounds exchanged, in whichever way they are written, it is accepted, too,
and matches the same documents. -/
theorem matchesDocument_range [PatternReader] (named : field ≠ "")
    (path : isDollarKey field = false)
    {first second : Json} (written : WritesRange first second value) (trust : Trust)
    (fields : List String)
    (accepted : (mapFilters [(rangeKey field, value)] trust).diagnostics = []) :
    ∃ a b p, Operand.boundNumber? first = some a ∧ Operand.boundNumber? second = some b ∧
      Predicate.compile (mapFilters [(rangeKey field, value)] trust).clauses fields = .ok p ∧
      (∃ low high, AreBounds a b low high) ∧
      (∀ low high, AreBounds a b low high → ∀ doc x, Document.lookup doc field = [.number x] →
        (p.matchesDocument doc = true ↔
          (Json.number x).comparison (.number low) ≠ some .lt ∧
            (Json.number x).comparison (.number high) ≠ some .gt)) ∧
      ∀ exchanged, WritesRange second first exchanged →
        (mapFilters [(rangeKey field, exchanged)] trust).diagnostics = [] ∧
        ∃ q, Predicate.compile (mapFilters [(rangeKey field, exchanged)] trust).clauses fields =
            .ok q ∧
          ∀ doc, q.matchesDocument doc = p.matchesDocument doc := by
  have mapped {value : Json} {ordered : Number × Number}
      (read : Operand.bounds value = .ok ordered) :
      mapFilters [(rangeKey field, value)] trust =
        ⟨rangeClauses field ordered.1 ordered.2, []⟩ := by
    rw [mapFilters_range named path, read]
  obtain ⟨ordered, read⟩ := (diagnostics_range named path trust).mp accepted
  obtain ⟨a, b, readA, readB, rfl⟩ := (Operand.bounds_eq_ok_iff written).mp read
  refine ⟨a, b, .range field (Number.inOrder a b).1 (Number.inOrder a b).2, readA, readB,
    ?_, ⟨_, _, areBounds_inOrder a b⟩, ?_, ?_⟩
  · rw [mapped read]
    exact compile_rangeClauses path fields
  · intro low high bounds doc x single
    obtain ⟨sameLow, sameHigh⟩ := bounds.places
    rw [Predicate.matchesDocument_range_iff single, ← sameLow, ← sameHigh,
      ← Number.order_ne_lt_iff, ← Number.order_ne_gt_iff]
    simp [Json.comparison]
  · intro exchanged written'
    have read' : Operand.bounds exchanged = .ok (Number.inOrder b a) :=
      (Operand.bounds_eq_ok_iff written').mpr ⟨b, a, readB, readA, rfl⟩
    rw [mapped read']
    obtain ⟨low, high⟩ := Number.place_inOrder a b
    obtain ⟨low', high'⟩ := Number.place_inOrder b a
    refine ⟨rfl, _, compile_rangeClauses path fields, fun doc => ?_⟩
    exact Predicate.matchesDocument_range_congr (by rw [low', low, min_comm])
      (by rw [high', high, max_comm]) doc

/-- The greater bound first in a text, with blanks around both bounds and a fraction in one; and the
same bounds in a list, the other way round. -/
theorem matchesDocument_range_unit_price :
    let value := Json.string " 100 , 1.5"
    let exchanged := Json.array [.string " 1.5", .string " 100 "]
    let fraction : Number := .float ⟨false, 0x3FF8000000000000, by decide⟩
    (mapFilters [(rangeKey "unit_price", value)] .untrusted).diagnostics = [] ∧
      AreBounds (.ofNat 100) fraction fraction (.ofNat 100) ∧
      ∃ p q,
        Predicate.compile (mapFilters [(rangeKey "unit_price", value)] .untrusted).clauses [] =
          .ok p ∧
        Predicate.compile (mapFilters [(rangeKey "unit_price", exchanged)] .untrusted).clauses [] =
          .ok q ∧
        p.matchesDocument [("unit_price", .number (.ofNat 20))] = true ∧
        p.matchesDocument [("unit_price", .number (.ofNat 1))] = false ∧
        ∀ doc, q.matchesDocument doc = p.matchesDocument doc := by
  intro value exchanged fraction
  have written : WritesRange (.string " 100 ") (.string " 1.5") value := .text " 100 " " 1.5"
  have accepted : (mapFilters [(rangeKey "unit_price", value)] .untrusted).diagnostics = [] := by
    decide +kernel
  have bounds : AreBounds (.ofNat 100) fraction fraction (.ofNat 100) := by
    refine ⟨.inr ⟨rfl, rfl⟩, ?_⟩
    decide +kernel
  obtain ⟨a, b, p, readA, readB, compiled, -, between, swapped⟩ :=
    matchesDocument_range (by decide) (by decide) written .untrusted [] accepted
  have readHundred : Operand.boundNumber? (.string " 100 ") = some (.ofNat 100) := by decide +kernel
  have readFraction : Operand.boundNumber? (.string " 1.5") = some fraction := by decide +kernel
  obtain rfl : .ofNat 100 = a := Option.some.inj (readHundred.symm.trans readA)
  obtain rfl : fraction = b := Option.some.inj (readFraction.symm.trans readB)
  obtain ⟨-, q, compiled', same⟩ := swapped exchanged (.list _ _)
  refine ⟨accepted, bounds, p, q, compiled, compiled', ?_, ?_, same⟩
  · rw [between _ _ bounds [("unit_price", .number (.ofNat 20))] (.ofNat 20) rfl]
    decide +kernel
  · rw [Bool.eq_false_iff, Ne,
      between _ _ bounds [("unit_price", .number (.ofNat 1))] (.ofNat 1) rfl]
    decide +kernel

end

end DocQuery
