import DocQuery.Proofs.Filter.Acceptance
import DocQuery.Proofs.Filter.Guard
import DocQuery.Proofs.Text.Split

/-!
# Two spellings of the tests of a field

A client can test a field by entries of their own, with an operator behind the last underscore of
each key (`price_gte`), or by one operator map under the field (`{"price": {"$gte": ..}}`).  The
first way goes through the splitting of keys, the second through the gate for operator maps, and
both end in reading an operand for an operator (`FilterPart.ofOperand`).

The two readings of the same tests give the same parts in the same order, but for the key under
which a refused part is reported.  Folding sees the accepted parts only, so both spellings map to
the same clauses, and what is left out is left out of both for the same reason.

## Main definitions

* `Operator.suffix`, `suffixKey`, `memberKey`: the names of a test in either spelling
* `suffixEntries`, `operatorMap`: tests in either spelling
* `Operand.faults`: the tests that are left out, and why
* `mapFilters_spellings`
-/

namespace DocQuery

/-! ### The spellings -/

/-- The name of an operator behind the underscore of a flat key: the native key without its
dollar. -/
def Operator.suffix (op : Operator) : String := String.ofList op.native.toList.tail

/-- The flat key of a test. -/
def suffixKey (field : String) (op : Operator) : String := field ++ "_" ++ op.suffix

/-- The name of a test inside the operator map of a field, as reports show it. -/
def memberKey (field : String) (op : Operator) : String := field ++ "." ++ op.native

/-- Tests of a field, each as an entry of its own. -/
def suffixEntries (field : String) (tests : List (Operator × Json)) : Document :=
  tests.map fun test => (suffixKey field test.1, test.2)

/-- Tests as the members of an operator map. -/
def operatorMap (tests : List (Operator × Json)) : Document :=
  tests.map fun test => (test.1.native, test.2)

variable {trust : Trust} {field : String} {tests : List (Operator × Json)}

theorem Operator.testOfSuffix?_suffix (op : Operator) :
    FilterKey.testOfSuffix? op.suffix = some (.operator op) := by
  cases op <;> rfl

theorem Operator.underscore_notMem_suffix (op : Operator) : '_' ∉ op.suffix.toList := by
  cases op <;> decide

theorem Operator.ofNative?_native (op : Operator) : ofNative? op.native = some op := by
  cases op <;> rfl

theorem Operator.isDollarKey_native (op : Operator) : isDollarKey op.native = true := by
  cases op <;> rfl

/-- A flat key is split where its suffix begins, even if the field has underscores of its own. -/
theorem parse_suffixKey (named : field ≠ "") (op : Operator) :
    FilterKey.parse (suffixKey field op) = ⟨field, some (.operator op)⟩ :=
  FilterKey.parse_suffixed named op.underscore_notMem_suffix op.testOfSuffix?_suffix

theorem isDollarKey_suffixKey (named : field ≠ "") (op : Operator) :
    isDollarKey (suffixKey field op) = isDollarKey field := by
  rw [suffixKey, String.append_assoc, isDollarKey_append named]

/-! ### What both spellings are read as -/

/-- Entries of their own are read as the operands of their tests. -/
theorem flatMap_ofEntry_suffixEntries [PatternReader] (named : field ≠ "")
    (path : isDollarKey field = false) (tests : List (Operator × Json)) (trust : Trust) :
    (suffixEntries field tests).flatMap (FilterPart.ofEntry trust) =
      tests.map fun test =>
        FilterPart.ofOperand (suffixKey field test.1) field test.1 test.2 := by
  have each : ∀ test : Operator × Json,
      FilterPart.ofEntry trust (suffixKey field test.1, test.2) =
        [FilterPart.ofOperand (suffixKey field test.1) field test.1 test.2] := by
    intro test
    have path : isDollarKey (suffixKey field test.1) = false :=
      (isDollarKey_suffixKey named test.1).trans path
    exact FilterPart.ofEntry_operator path (parse_suffixKey named test.1) test.2
  rw [suffixEntries, List.flatMap_map, List.map_eq_flatMap]
  simp only [each]

/-- The operator map of tests passes the gate for clients. -/
theorem isAdmitted_operatorMap (some : tests ≠ []) :
    IsAdmitted trust (.object (operatorMap tests)) (operatorMap tests) := by
  constructor
  · refine Json.operators?_eq_some_iff.mpr ⟨rfl, ?_, ?_⟩
    · simpa [operatorMap] using some
    · intro member mem
      obtain ⟨test, -, rfl⟩ := List.mem_map.mp mem
      exact test.1.isDollarKey_native
  · intro _
    refine List.find?_eq_none.mpr fun key mem => ?_
    obtain ⟨member, inMap, rfl⟩ := List.mem_map.mp mem
    obtain ⟨test, -, rfl⟩ := List.mem_map.mp inMap
    simpa using test.1.native_mem_clientKeys

/-- The members of an operator map are read as the operands of their tests, too. -/
theorem ofEntry_operatorMap [PatternReader] (path : isDollarKey field = false)
    (bare : FilterKey.parse field = ⟨field, none⟩) (some : tests ≠ []) :
    FilterPart.ofEntry trust (field, .object (operatorMap tests)) =
      tests.map fun test =>
        FilterPart.ofOperand (memberKey field test.1) field test.1 test.2 := by
  rw [FilterPart.ofEntry_bare path bare,
    FilterPart.ofBare_of_isAdmitted (isAdmitted_operatorMap some), operatorMap, List.map_map]
  refine List.map_congr_left fun test _ => ?_
  rw [Function.comp_apply, FilterPart.ofMember, test.1.ofNative?_native]
  rfl

/-! ### What folding and reporting see of it -/

/-- The tests without a native operand, and what is wrong with them. -/
def Operand.faults [PatternReader] (tests : List (Operator × Json)) :
    List (Operator × OperandFault) :=
  tests.filterMap fun test =>
    match Operand.coerce test.1 test.2 with
    | .ok _ => none
    | .error fault => some (test.1, fault)

/-- The key of a test has no part in what it adds. -/
theorem accepted_map_ofOperand [PatternReader] (key key' : Operator → String) :
    FilterPart.accepted (tests.map fun test =>
        FilterPart.ofOperand (key test.1) field test.1 test.2) =
      FilterPart.accepted (tests.map fun test =>
        FilterPart.ofOperand (key' test.1) field test.1 test.2) := by
  rw [FilterPart.accepted, FilterPart.accepted, List.filterMap_map, List.filterMap_map]
  refine List.filterMap_congr fun test _ => ?_
  rw [Function.comp_apply, Function.comp_apply, FilterPart.ofOperand, FilterPart.ofOperand]
  split
  · rfl
  · cases Operand.coerce test.1 test.2 <;> rfl

/-- The key of a test is what a report names it by, and nothing else. -/
theorem refused_map_ofOperand [PatternReader] (key : Operator → String) :
    FilterPart.refused (tests.map fun test =>
        FilterPart.ofOperand (key test.1) field test.1 test.2) =
      (Operand.faults tests).map fun fault => FilterPart.refusal (key fault.1) fault.2 := by
  rw [FilterPart.refused, List.filterMap_map, Operand.faults, List.map_filterMap]
  refine List.filterMap_congr fun test _ => ?_
  rw [Function.comp_apply, FilterPart.ofOperand]
  by_cases isEq : test.1 = .eq
  · rw [if_pos isEq, isEq]
    rfl
  · rw [if_neg isEq]
    cases Operand.coerce test.1 test.2 <;> rfl

/-- **Both spellings of the tests of a field are one language.**  They map to the same clauses, and
the same tests are left out in the same order for the same reasons; only the names of these tests in
the reports are those of the spelling. -/
theorem mapFilters_spellings [PatternReader] (named : field ≠ "") (path : isDollarKey field = false)
    (bare : FilterKey.parse field = ⟨field, none⟩) (some : tests ≠ []) (trust : Trust) :
    let nested := mapFilters [(field, .object (operatorMap tests))] trust
    let flat := mapFilters (suffixEntries field tests) trust
    nested.clauses = flat.clauses ∧
      nested.diagnostics = (Operand.faults tests).map (fun fault =>
        .malformedFilter (memberKey field fault.1) fault.2.reason) ∧
      flat.diagnostics = (Operand.faults tests).map (fun fault =>
        .malformedFilter (suffixKey field fault.1) fault.2.reason) := by
  intro nested flat
  have nestedMapped : nested = _ := mapFilters_eq _ _
  have flatMapped : flat = _ := mapFilters_eq _ _
  rw [List.flatMap_singleton, ofEntry_operatorMap path bare some] at nestedMapped
  rw [flatMap_ofEntry_suffixEntries named path] at flatMapped
  rw [nestedMapped, flatMapped]
  refine ⟨?_, refused_map_ofOperand (memberKey field), refused_map_ofOperand (suffixKey field)⟩
  dsimp only
  rw [accepted_map_ofOperand (memberKey field) (suffixKey field)]

/-- Three tests of a field with an underscore, the second of which has no native operand. -/
theorem mapFilters_spellings_unit_price :
    let nested := mapFilters [("unit_price", .object
      [("$gte", .string "10"), ("$size", .string "many"), ("$eq", .number (.ofNat 12))])] .untrusted
    let flat := mapFilters [("unit_price_gte", .string "10"), ("unit_price_size", .string "many"),
      ("unit_price_eq", .number (.ofNat 12))] .untrusted
    FilterKey.parse "unit_price" = ⟨"unit_price", none⟩ ∧ nested.clauses = flat.clauses ∧
      nested.diagnostics =
        [.malformedFilter "unit_price.$size" "size expects a non-negative integer"] ∧
      flat.diagnostics =
        [.malformedFilter "unit_price_size" "size expects a non-negative integer"] := by
  have bare : FilterKey.parse "unit_price" = ⟨"unit_price", none⟩ := by decide
  have alike := mapFilters_spellings (by decide) (by decide) bare
    (show [(Operator.gte, Json.string "10"), (.size, .string "many"),
      (.eq, .number (.ofNat 12))] ≠ [] by simp) .untrusted
  exact ⟨bare, alike⟩

end DocQuery
