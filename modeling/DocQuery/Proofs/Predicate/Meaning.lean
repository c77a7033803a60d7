import DocQuery.Predicate.Compile
import DocQuery.Proofs.Json.Keys
import DocQuery.Proofs.Outcome

/-!
# What a compiled filter means

A filter is compiled member by member and a document matches it if it matches every member.  This
module states that reading once, so that what is proved about filters can be proved about their
members: `Clause.Compiles` and `Clause.Accepts` for the members of a filter,
`OperatorClause.Compiles` and `OperatorClause.Accepts` for the members of an operator map.

The two levels differ in one point.  A clause means the same in any filter; an operator also reads
the `$options` of the map that it stands in, though `$regex` is the only one that does
(`operatorTest_congr`).

## Main definitions

* `Clause.Compiles`, `Clause.Accepts`: a member of a filter, on its own
* `operatorTest`, `optionsOf`: the test of a member of an operator map
* `OperatorClause.Compiles`, `OperatorClause.Accepts`: a member of an operator map, beside the
  others
* `Clause.Conjunctive`: properties of clauses that `$and` distributes over
-/

namespace DocQuery

variable {fields : List String} {filter : Document} {doc : Document} {p : Predicate}

/-! ### Matching does not depend on the relevance before -/

mutual

theorem Predicate.evaluate_fst : ∀ (p : Predicate) (doc : Document) (s t : Option Binary64),
    (p.evaluate doc s).1 = (p.evaluate doc t).1
  | .allOf parts, doc, s, t => evaluateAll_fst parts doc s t
  | .anyOf parts, doc, s, t => evaluateAny_fst parts doc s t
  | .noneOf _, _, _, _ => rfl
  | .field _ _, _, _, _ => rfl
  | .text matcher, doc, s, t => by
      rw [Predicate.evaluate, Predicate.evaluate]
      cases matcher.score? doc <;> rfl
termination_by structural p => p

theorem evaluateAll_fst : ∀ (ps : List Predicate) (doc : Document) (s t : Option Binary64),
    (evaluateAll ps doc s).1 = (evaluateAll ps doc t).1
  | [], _, _, _ => rfl
  | p :: ps, doc, s, t => by
      have same := Predicate.evaluate_fst p doc s t
      rw [evaluateAll, evaluateAll]
      rcases left : p.evaluate doc s with ⟨_ | _, s'⟩ <;>
        rcases right : p.evaluate doc t with ⟨_ | _, t'⟩ <;> simp [left, right] at same ⊢
      exact evaluateAll_fst ps doc s' t'
termination_by structural ps => ps

theorem evaluateAny_fst : ∀ (ps : List Predicate) (doc : Document) (s t : Option Binary64),
    (evaluateAny ps doc s).1 = (evaluateAny ps doc t).1
  | [], _, _, _ => rfl
  | p :: ps, doc, s, t => by
      have same := Predicate.evaluate_fst p doc s t
      rw [evaluateAny, evaluateAny]
      rcases left : p.evaluate doc s with ⟨_ | _, s'⟩ <;>
        rcases right : p.evaluate doc t with ⟨_ | _, t'⟩ <;> simp [left, right] at same ⊢
      exact evaluateAny_fst ps doc s' t'
termination_by structural ps => ps

end

/-! ### Matching, part by part -/

theorem evaluateAll_eq_all (ps : List Predicate) (doc : Document) (s : Option Binary64) :
    (evaluateAll ps doc s).1 = ps.all (·.matchesDocument doc) := by
  induction ps generalizing s with
  | nil => rfl
  | cons p ps ih =>
      rw [List.all_cons, Predicate.matchesDocument, p.evaluate_fst doc none s, evaluateAll]
      rcases p.evaluate doc s with ⟨_ | _, s'⟩
      · rfl
      · exact ih s'

theorem evaluateAny_eq_any (ps : List Predicate) (doc : Document) (s : Option Binary64) :
    (evaluateAny ps doc s).1 = ps.any (·.matchesDocument doc) := by
  induction ps generalizing s with
  | nil => rfl
  | cons p ps ih =>
      rw [List.any_cons, Predicate.matchesDocument, p.evaluate_fst doc none s, evaluateAny]
      rcases p.evaluate doc s with ⟨_ | _, s'⟩
      · exact ih s'
      · rfl

namespace Predicate

@[simp] theorem matchesDocument_allOf (parts : List Predicate) (doc : Document) :
    (allOf parts).matchesDocument doc = parts.all (·.matchesDocument doc) :=
  evaluateAll_eq_all parts doc none

@[simp] theorem matchesDocument_anyOf (parts : List Predicate) (doc : Document) :
    (anyOf parts).matchesDocument doc = parts.any (·.matchesDocument doc) :=
  evaluateAny_eq_any parts doc none

@[simp] theorem matchesDocument_noneOf (parts : List Predicate) (doc : Document) :
    (noneOf parts).matchesDocument doc = !parts.any (·.matchesDocument doc) := by
  rw [matchesDocument, evaluate, evaluateAny_eq_any]

@[simp] theorem matchesDocument_field (path : String) (test : FieldTest) (doc : Document) :
    (field path test).matchesDocument doc = test.holds (doc.lookup path) := rfl

end Predicate

theorem holdsAll_eq_all (tests : List FieldTest) (values : List Json) :
    holdsAll tests values = tests.all (·.holds values) := by
  induction tests with
  | nil => rfl
  | cons test tests ih => rw [holdsAll, List.all_cons, ih]

@[simp] theorem FieldTest.holds_ofList (tests : List FieldTest) (values : List Json) :
    (FieldTest.ofList tests).holds values = tests.all (·.holds values) := by
  match tests with
  | [] => rfl
  | [test] => simp [ofList]
  | test :: test' :: rest => rw [ofList, FieldTest.holds, holdsAll_eq_all]; simp

/-! ### Filters, member by member -/

namespace Clause

/-- A member of a filter compiles. -/
def Compiles [PatternReader] (fields : List String) (member : String × Json) : Prop :=
  ∃ p, compileClause fields member.1 member.2 = .ok p

/-- A member of a filter compiles, and the document matches it. -/
def Accepts [PatternReader] (fields : List String) (doc : Document) (member : String × Json) :
    Prop :=
  ∃ p, compileClause fields member.1 member.2 = .ok p ∧ p.matchesDocument doc = true

end Clause

theorem compileClauses_ok_iff [PatternReader] {members : List (String × Json)}
    {parts : List Predicate} :
    compileClauses fields members = .ok parts ↔
      List.Forall₂ (fun member part => compileClause fields member.1 member.2 = .ok part)
        members parts := by
  induction members generalizing parts with
  | nil => cases parts <;> simp [compileClauses]
  | cons member rest ih =>
      obtain ⟨key, value⟩ := member
      rw [compileClauses, Except.bind_cons_eq_ok_iff, List.forall₂_cons_left_iff]
      simp only [ih]

namespace Predicate

theorem compile_ok_iff [PatternReader] : compile filter fields = .ok p ↔
    ∃ parts, compileClauses fields filter = .ok parts ∧ .allOf parts = p := by
  rw [compile, Except.map_eq_ok_iff]

/-- A filter compiles exactly if every member does. -/
theorem exists_compile_iff [PatternReader] :
    (∃ p, compile filter fields = .ok p) ↔ ∀ member ∈ filter, Clause.Compiles fields member := by
  simp only [Clause.Compiles, ← List.exists_forall₂_iff, compile_ok_iff, ← compileClauses_ok_iff]
  constructor
  · rintro ⟨_, parts, h, _⟩
    exact ⟨parts, h⟩
  · rintro ⟨parts, h⟩
    exact ⟨_, parts, h, rfl⟩

/-- A document matches a filter exactly if it matches every member. -/
theorem matchesDocument_iff [PatternReader] (compiled : compile filter fields = .ok p) :
    p.matchesDocument doc = true ↔ ∀ member ∈ filter, Clause.Accepts fields doc member := by
  obtain ⟨parts, h, rfl⟩ := compile_ok_iff.mp compiled
  rw [matchesDocument_allOf]
  exact (compileClauses_ok_iff.mp h).all_iff fun member y z => Except.ok_unique

end Predicate

theorem Clause.Accepts.compiles [PatternReader] {member : String × Json}
    (h : Clause.Accepts fields doc member) : Clause.Compiles fields member :=
  h.imp fun _ => And.left

/-! ### Filters that `$and` combines -/

theorem compileItems_ok_iff [PatternReader] {key : String} {items : List Json}
    {parts : List Predicate} :
    compileItems fields key items = .ok parts ↔
      List.Forall₂ (fun item part => compileItem fields key item = .ok part) items parts := by
  induction items generalizing parts with
  | nil => cases parts <;> simp [compileItems]
  | cons item rest ih =>
      rw [compileItems, Except.bind_cons_eq_ok_iff, List.forall₂_cons_left_iff]
      simp only [ih]

theorem compileItem_ok_iff [PatternReader] {key : String} {item : Json} :
    compileItem fields key item = .ok p ↔
      ∃ members, item = .object members ∧ Predicate.compile members fields = .ok p := by
  cases item <;> simp [compileItem, Predicate.compile]

namespace Clause

/-- `$and` distributes over a property of clauses. -/
def Conjunctive (P : String × Json → Prop) : Prop :=
  ∀ items, items ≠ [] → (P ("$and", .array items) ↔
    ∀ item ∈ items, ∃ members, item = .object members ∧ ∀ member ∈ members, P member)

theorem compileClause_and [PatternReader] {items : List Json} (nonempty : items ≠ []) :
    compileClause fields "$and" (.array items) = .ok p ↔
      ∃ parts, compileItems fields "$and" items = .ok parts ∧ .allOf parts = p := by
  simp [compileClause, Operator.logicalKeys, nonempty, Except.bind_eq_ok_iff]

/-- A `$and` that compiles is a list with members. -/
theorem exists_items_of_compiles_and [PatternReader] {value : Json}
    (compiles : Compiles fields ("$and", value)) :
    ∃ items, value = .array items ∧ items ≠ [] := by
  obtain ⟨p, compiled⟩ := compiles
  cases value <;> simp [compileClause, Operator.logicalKeys] at compiled
  case array items =>
    refine ⟨items, rfl, ?_⟩
    rintro rfl
    simp at compiled

theorem conjunctive_compiles [PatternReader] : Conjunctive (Compiles fields) := by
  intro items nonempty
  have each : ∀ item, (∃ part, compileItem fields "$and" item = .ok part) ↔
      ∃ members, item = .object members ∧ ∀ member ∈ members, Compiles fields member := by
    intro item
    simp only [compileItem_ok_iff, ← Predicate.exists_compile_iff]
    constructor
    · rintro ⟨part, members, rfl, h⟩
      exact ⟨members, rfl, part, h⟩
    · rintro ⟨members, rfl, part, h⟩
      exact ⟨part, members, rfl, h⟩
  simp only [← each, ← List.exists_forall₂_iff, ← compileItems_ok_iff]
  constructor
  · rintro ⟨_, h⟩
    obtain ⟨parts, h, -⟩ := (compileClause_and nonempty).mp h
    exact ⟨parts, h⟩
  · rintro ⟨parts, h⟩
    exact ⟨_, (compileClause_and nonempty).mpr ⟨parts, h, rfl⟩⟩

theorem conjunctive_accepts [PatternReader] : Conjunctive (Accepts fields doc) := by
  intro items nonempty
  have each : ∀ item, (∃ part, compileItem fields "$and" item = .ok part ∧
        part.matchesDocument doc = true) ↔
      ∃ members, item = .object members ∧ ∀ member ∈ members, Accepts fields doc member := by
    intro item
    simp only [compileItem_ok_iff]
    constructor
    · rintro ⟨part, ⟨members, rfl, h⟩, matched⟩
      exact ⟨members, rfl, (Predicate.matchesDocument_iff h).mp matched⟩
    · rintro ⟨members, rfl, accepted⟩
      obtain ⟨part, h⟩ := Predicate.exists_compile_iff.mpr fun member mem =>
        (accepted member mem).compiles
      exact ⟨part, ⟨members, rfl, h⟩, (Predicate.matchesDocument_iff h).mpr accepted⟩
  simp only [← each]
  have functional : ∀ item x y, compileItem fields "$and" item = .ok x →
      compileItem fields "$and" item = .ok y → x = y := fun item x y => Except.ok_unique
  constructor
  · rintro ⟨_, compiled, matched⟩
    obtain ⟨parts, h, rfl⟩ := (compileClause_and nonempty).mp compiled
    rw [Predicate.matchesDocument_allOf] at matched
    exact ((compileItems_ok_iff.mp h).all_iff functional).mp matched
  · intro accepted
    obtain ⟨parts, h⟩ := List.exists_forall₂_iff.mpr fun item mem =>
      (accepted item mem).imp fun _ => And.left
    refine ⟨_, (compileClause_and nonempty).mpr ⟨parts, compileItems_ok_iff.mpr h, rfl⟩, ?_⟩
    rw [Predicate.matchesDocument_allOf]
    exact (h.all_iff functional).mpr accepted

end Clause

/-! ### Operator maps, operator by operator -/

theorem Json.operators?_eq_some_iff {clause : Json} {ops : Document} :
    clause.operators? = some ops ↔
      clause = .object ops ∧ ops ≠ [] ∧ ∀ member ∈ ops, isDollarKey member.1 = true := by
  cases clause with
  | object members =>
      rw [operators?, Option.ite_none_right_eq_some, object?, Option.some.injEq, object.injEq,
        isOperatorMap, Bool.and_eq_true, List.all_eq_true]
      constructor
      · rintro ⟨⟨nonempty, dollar⟩, rfl⟩
        exact ⟨rfl, by simpa using nonempty, dollar⟩
      · rintro ⟨rfl, nonempty, dollar⟩
        exact ⟨⟨by simpa using nonempty, dollar⟩, rfl⟩
  | _ => simp [operators?, isOperatorMap]

/-- The test of a member of an operator map; `ops` is the map. -/
def operatorTest [PatternReader] (path : String) (ops : Document) (member : String × Json) :
    Except StoreError FieldTest :=
  match compiledOperator? member.1 with
  | some .elemMatch => compileElement path member.2
  | some op => FieldTest.ofOperator path ops op member.2
  | none => .error (.invalidQuery (.unknownOperator member.1 path))

theorem compiledOperator?_eq_some {key : String} {op : Operator}
    (h : compiledOperator? key = some op) : op.native = key := by
  simpa using (Option.filter_eq_some_iff.mp h).2

/-- The options that an operator map gives to its pattern. -/
def optionsOf (ops : Document) : Option String := (ops.get? "$options").bind Json.string?

/-- A test depends on the other members of its map only through the options of a pattern. -/
theorem operatorTest_congr [PatternReader] {path : String} {ops ops' : Document}
    {member : String × Json} (sameOptions : member.1 = "$regex" → optionsOf ops = optionsOf ops') :
    operatorTest path ops member = operatorTest path ops' member := by
  rw [operatorTest, operatorTest]
  cases known : compiledOperator? member.1 with
  | none => rfl
  | some op =>
      cases op with
      | regex =>
          have key : member.1 = "$regex" := (compiledOperator?_eq_some known).symm
          have sameOptions := sameOptions key
          rw [optionsOf, optionsOf] at sameOptions
          simp only [FieldTest.ofOperator, sameOptions]
      | _ => rfl

theorem compileOperators_cons [PatternReader] {path : String} {ops : Document}
    {member : String × Json} {rest : List (String × Json)} (test : member.1 ≠ "$options") :
    compileOperators path ops (member :: rest) = (do
      let test ← operatorTest path ops member
      let tests ← compileOperators path ops rest
      .ok (test :: tests)) := by
  rw [compileOperators, if_neg test, operatorTest]
  rcases compiledOperator? member.1 with _ | _ | _ <;> rfl

theorem compileOperators_ok_iff [PatternReader] {path : String} {ops : Document}
    {members : List (String × Json)} {tests : List FieldTest} :
    compileOperators path ops members = .ok tests ↔
      List.Forall₂ (fun member test => operatorTest path ops member = .ok test)
        (members.filter (·.1 ≠ "$options")) tests := by
  induction members generalizing tests with
  | nil => cases tests <;> simp [compileOperators]
  | cons member rest ih =>
      by_cases isOptions : member.1 = "$options"
      · simpa [compileOperators, isOptions] using ih
      · rw [List.filter_cons_of_pos (by simpa using isOptions)]
        rw [compileOperators_cons isOptions, Except.bind_cons_eq_ok_iff, List.forall₂_cons_left_iff]
        simp only [ih]

namespace OperatorClause

/-- A member of an operator map compiles. -/
def Compiles [PatternReader] (path : String) (ops : Document) (member : String × Json) : Prop :=
  member.1 ≠ "$options" → ∃ test, operatorTest path ops member = .ok test

/-- A member of an operator map compiles to a test that the values pass. -/
def Accepts [PatternReader] (path : String) (ops : Document) (values : List Json)
    (member : String × Json) : Prop :=
  member.1 ≠ "$options" → ∃ test, operatorTest path ops member = .ok test ∧ test.holds values = true

variable {path : String} {ops ops' : Document} {values : List Json} {member : String × Json}

theorem compiles_congr [PatternReader]
    (sameOptions : member.1 = "$regex" → optionsOf ops = optionsOf ops') :
    Compiles path ops member ↔ Compiles path ops' member := by
  rw [Compiles, Compiles, operatorTest_congr sameOptions]

theorem accepts_congr [PatternReader]
    (sameOptions : member.1 = "$regex" → optionsOf ops = optionsOf ops') :
    Accepts path ops values member ↔ Accepts path ops' values member := by
  rw [Accepts, Accepts, operatorTest_congr sameOptions]

theorem exists_compile_iff [PatternReader] :
    (∃ tests, compileOperators path ops ops = .ok tests) ↔
      ∀ member ∈ ops, Compiles path ops member := by
  simp only [compileOperators_ok_iff, List.exists_forall₂_iff, List.mem_filter, decide_eq_true_eq,
    and_imp, Compiles]

theorem holds_iff [PatternReader] {tests : List FieldTest}
    (compiled : compileOperators path ops ops = .ok tests) :
    tests.all (·.holds values) = true ↔ ∀ member ∈ ops, Accepts path ops values member := by
  have functional : ∀ member x y, operatorTest path ops member = .ok x →
      operatorTest path ops member = .ok y → x = y := fun member x y => Except.ok_unique
  rw [(compileOperators_ok_iff.mp compiled).all_iff functional]
  simp only [List.mem_filter, decide_eq_true_eq, and_imp, Accepts]

end OperatorClause

/-! ### Clauses of paths -/

theorem compileClause_path [PatternReader] {key : String} (path : isDollarKey key = false)
    (value : Json) :
    compileClause fields key value =
      match value.operators? with
      | some ops => (compileOperators key ops ops).map fun tests => .field key (.ofList tests)
      | none => .ok (.field key (.equal value)) := by
  have notLogical : key ∉ Operator.logicalKeys := by
    intro logical
    simp only [Operator.logicalKeys, List.mem_cons, List.not_mem_nil, or_false] at logical
    rcases logical with rfl | rfl | rfl <;> exact absurd path (by decide)
  have notText : key ≠ "$text" := by
    rintro rfl
    exact absurd path (by decide)
  cases value with
  | object members =>
      by_cases operators : (Json.object members).isOperatorMap = true
      · simp only [compileClause, List.contains_iff_mem, notLogical, notText, path, operators,
          Json.operators?, Json.object?, if_true, if_false, Bool.false_eq_true]
        cases compileOperators key members members <;> rfl
      · simp [compileClause, notLogical, notText, path, operators, Json.operators?]
  | _ => simp [compileClause, notLogical, notText, path, Json.operators?, Json.isOperatorMap]

namespace Clause

variable {key : String} {value : Json} {ops : Document}

theorem compiles_operators [PatternReader] (path : isDollarKey key = false)
    (operators : value.operators? = some ops) :
    Compiles fields (key, value) ↔ ∀ member ∈ ops, OperatorClause.Compiles key ops member := by
  simp only [Compiles, compileClause_path path, operators, Except.map_eq_ok_iff,
    ← OperatorClause.exists_compile_iff]
  constructor
  · rintro ⟨_, tests, h, _⟩
    exact ⟨tests, h⟩
  · rintro ⟨tests, h⟩
    exact ⟨_, tests, h, rfl⟩

theorem accepts_operators [PatternReader] (path : isDollarKey key = false)
    (operators : value.operators? = some ops) :
    Accepts fields doc (key, value) ↔
      ∀ member ∈ ops, OperatorClause.Accepts key ops (doc.lookup key) member := by
  simp only [Accepts, compileClause_path path, operators, Except.map_eq_ok_iff]
  constructor
  · rintro ⟨_, ⟨tests, h, rfl⟩, matched⟩
    rw [Predicate.matchesDocument_field, FieldTest.holds_ofList] at matched
    exact (OperatorClause.holds_iff h).mp matched
  · intro accepted
    obtain ⟨tests, h⟩ := OperatorClause.exists_compile_iff.mpr fun member mem unlike =>
      (accepted member mem unlike).imp fun _ => And.left
    refine ⟨_, ⟨tests, h, rfl⟩, ?_⟩
    rw [Predicate.matchesDocument_field, FieldTest.holds_ofList]
    exact (OperatorClause.holds_iff h).mpr accepted

end Clause

end DocQuery
