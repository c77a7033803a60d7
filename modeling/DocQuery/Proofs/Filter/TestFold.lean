import DocQuery.Proofs.Filter.Override
import DocQuery.Proofs.Filter.Tests
import DocQuery.Proofs.Predicate.Congruence

/-!
# Folding, test by test

Folding puts the parts of a client's filter into one clause for each field.  The clause passes
through three forms.  Equal values leave a literal; two different ones become a list of which all
have to match; any other test turns the literal into an operator map, which then holds a first
equality under `$eq` and further ones in the list.

`FoldOf` says of all three what they have in common: the clause means the tests that were asked for,
its equalities are among them, and of its operators only that list can be new.

Whether a test is kept depends on what was asked for before it (`Joins`).  The fold loses a test in
three cases:

* an operator that joins the literal `{}` takes it for a clause without tests, while `{}` itself may
  join an operator;
* a list that is asked for after two different values replaces theirs, and an empty list, which
  matches nothing, gives way to a second value, while a value may join any other list;
* an operator map that is the value of an equality becomes a literal when another test joins it,
  though on its own it is read by its operators.

## Main definitions

* `Clause.TestWise`: properties of clauses that are decided test by test
* `FoldOf`: what folding makes of the tests asked for
* `Joins`, `Foldable`, `FoldsWell`: tests that the fold keeps, in their order
* `FoldOf.addTo`, `FoldOf.foldl_addTo`: one part and all parts for a field
-/

namespace DocQuery

/-! ### The tests that a clause holds -/

/-- The tests that a clause holds: the members of an operator map, or the equality that a literal
is. -/
def Json.tests (clause : Json) : Document := clause.operators?.getD [("$eq", clause)]

/-- The tests that some clauses hold for a field. -/
def testsAt (clauses : Document) (field : String) : Document :=
  match clauses.get? field with
  | none => []
  | some clause => clause.tests

section Tests

variable {clauses ops : Document} {field : String} {clause : Json}

theorem Json.tests_of_operators? (isMap : clause.operators? = some ops) : clause.tests = ops := by
  rw [tests, isMap, Option.getD_some]

theorem Json.tests_of_literal (literal : clause.operators? = none) :
    clause.tests = [("$eq", clause)] := by
  rw [tests, literal, Option.getD_none]

theorem testsAt_insert_self : testsAt (clauses.insert field clause) field = clause.tests := by
  rw [testsAt, Document.get?_insert_self]

end Tests

/-! ### Properties of clauses that are decided test by test -/

/-- A property of tests that takes options as no test, a list of which all have to match as
equalities, and equal values as the same. -/
structure ReadsEqualities (Q : String × Json → Prop) : Prop where
  options : ∀ value, Q ("$options", value)
  all : ∀ {items}, items ≠ [] → (Q ("$all", .array items) ↔ ∀ value ∈ items, Q ("$eq", value))
  equal : ∀ {v w : Json}, v.isWellKeyed = true → w.isWellKeyed = true → v.equal w = true →
    (Q ("$eq", v) ↔ Q ("$eq", w))

namespace Clause

/-- A property of clauses that is decided test by test, a literal being an equality. -/
structure TestWise (P : String × Json → Prop) (Q : String → Document → String × Json → Prop) : Prop
    extends OperatorWise P Q where
  literal : ∀ {key value ops}, isDollarKey key = false → value.operators? = none →
    (P (key, value) ↔ Q key ops ("$eq", value))
  equalities : ∀ key ops, ReadsEqualities (Q key ops)

variable {P : String × Json → Prop} {Q : String → Document → String × Json → Prop}

theorem TestWise.iff_tests (decided : TestWise P Q) {key : String} (path : isDollarKey key = false)
    (clause : Json) : P (key, clause) ↔ ∀ test ∈ clause.tests, Q key clause.tests test := by
  cases isMap : clause.operators? with
  | none =>
      rw [Json.tests_of_literal isMap, List.forall_mem_singleton]
      exact decided.literal path isMap
  | some ops =>
      rw [Json.tests_of_operators? isMap]
      exact decided.operators path isMap

end Clause

section Meaning

variable {path : String} {ops : Document} {items values : List Json} {value : Json}

theorem operatorTest_eq [PatternReader] :
    operatorTest path ops ("$eq", value) = .ok (.equal value) := by
  rw [operatorTest, show compiledOperator? "$eq" = some .eq by decide]
  rfl

theorem operatorTest_all [PatternReader] :
    operatorTest path ops ("$all", .array items) = .ok (.hasAll items) := by
  rw [operatorTest, show compiledOperator? "$all" = some .all by decide]
  rfl

theorem OperatorClause.accepts_eq [PatternReader] :
    Accepts path ops values ("$eq", value) ↔ equalsSome values value = true := by
  have notOptions : ("$eq" : String) ≠ "$options" := by decide
  simp [Accepts, operatorTest_eq, notOptions, FieldTest.holds]

theorem OperatorClause.accepts_all [PatternReader] (some : items ≠ []) :
    Accepts path ops values ("$all", .array items) ↔
      ∀ value ∈ items, Accepts path ops values ("$eq", value) := by
  have notOptions : ("$all" : String) ≠ "$options" := by decide
  simp only [accepts_eq]
  simp [Accepts, operatorTest_all, notOptions, FieldTest.holds, some]

theorem Clause.testWise_compiles [PatternReader] (fields : List String) :
    TestWise (Compiles fields) OperatorClause.Compiles where
  toOperatorWise := operatorWise_compiles fields
  literal path literal :=
    iff_of_true (compiles_literal path literal) fun _ => ⟨_, operatorTest_eq⟩
  equalities _ _ :=
    { options := fun _ test => absurd rfl test
      all := fun _ => iff_of_true (fun _ => ⟨_, operatorTest_all⟩)
        fun _ _ _ => ⟨_, operatorTest_eq⟩
      equal := fun _ _ _ => iff_of_true (fun _ => ⟨_, operatorTest_eq⟩)
        fun _ => ⟨_, operatorTest_eq⟩ }

theorem Clause.testWise_accepts [PatternReader] (fields : List String) (doc : Document) :
    TestWise (Accepts fields doc)
      fun key ops test => OperatorClause.Accepts key ops (doc.lookup key) test where
  toOperatorWise := operatorWise_accepts fields doc
  literal path literal := by
    rw [OperatorClause.accepts_eq]
    simp [Accepts, compileClause_path path, literal, FieldTest.holds]
  equalities key ops :=
    { options := fun _ test => absurd rfl test
      all := OperatorClause.accepts_all
      equal := fun hv hw same => by
        rw [OperatorClause.accepts_eq, OperatorClause.accepts_eq,
          Json.equalsSome_congr hv hw same] }

end Meaning

/-! ### Tests in their order -/

/-- Whether a value is a list with members. -/
def Json.isFilledList : Json → Bool
  | .array (_ :: _) => true
  | _ => false

theorem Json.exists_of_isFilledList {list : Json} (filled : list.isFilledList = true) :
    ∃ items, items ≠ [] ∧ list = .array items := by
  cases list with
  | array items =>
      refine ⟨items, ?_, rfl⟩
      rintro rfl
      cases filled
  | _ => cases filled

/-- Whether a test compares with the empty object. -/
def isEmptyEquality (test : String × Json) : Bool := test.1 == "$eq" && test.2 matches .object []

/-- A test that joins the tests asked for before it without loss. -/
structure Joins (before : Document) (test : String × Json) : Prop where
  literal : test.1 = "$eq" → test.2.isOperatorMap = false
  /-- An operator does not come after comparisons with `{}` alone. -/
  visible : test.1 ≠ "$eq" → before ≠ [] → ∃ earlier ∈ before, isEmptyEquality earlier = false
  /-- A list of which all have to match does not come after two different values. -/
  list : test.1 = "$all" → ∀ first ∈ before, ∀ second ∈ before, first.1 = "$eq" →
    second.1 = "$eq" → first.2.equal second.2 = true
  /-- A second value does not come after a list without members. -/
  joined : test.1 = "$eq" → ∀ list ∈ before, list.1 = "$all" → list.2.isFilledList = false →
    ∀ first ∈ before, first.1 = "$eq" → first.2.equal test.2 = true

instance (before : Document) (test : String × Json) : Decidable (Joins before test) :=
  decidable_of_iff
    ((test.1 = "$eq" → test.2.isOperatorMap = false) ∧
      (test.1 ≠ "$eq" → before ≠ [] → ∃ earlier ∈ before, isEmptyEquality earlier = false) ∧
      (test.1 = "$all" → ∀ first ∈ before, ∀ second ∈ before, first.1 = "$eq" →
        second.1 = "$eq" → first.2.equal second.2 = true) ∧
      (test.1 = "$eq" → ∀ list ∈ before, list.1 = "$all" → list.2.isFilledList = false →
        ∀ first ∈ before, first.1 = "$eq" → first.2.equal test.2 = true))
    ⟨fun ⟨literal, visible, list, joined⟩ => ⟨literal, visible, list, joined⟩,
      fun ⟨literal, visible, list, joined⟩ => ⟨literal, visible, list, joined⟩⟩

/-- Tests each of which joins those before it, the first ones of which are given. -/
def FoldableAfter (before : Document) : Document → Prop
  | [] => True
  | test :: rest => Joins before test ∧ FoldableAfter (before ++ [test]) rest

/-- Tests that the fold keeps: each joins those before it. -/
def Foldable (tests : Document) : Prop := FoldableAfter [] tests

instance decidableFoldableAfter : (before tests : Document) → Decidable (FoldableAfter before tests)
  | _, [] => .isTrue trivial
  | before, test :: rest =>
    have := decidableFoldableAfter (before ++ [test]) rest
    inferInstanceAs (Decidable (Joins before test ∧ FoldableAfter (before ++ [test]) rest))

instance (tests : Document) : Decidable (Foldable tests) :=
  inferInstanceAs (Decidable (FoldableAfter [] tests))

theorem foldableAfter_append {before tests more : Document} :
    FoldableAfter before (tests ++ more) ↔
      FoldableAfter before tests ∧ FoldableAfter (before ++ tests) more := by
  induction tests generalizing before with
  | nil => simp [FoldableAfter]
  | cons test rest ih => simp [FoldableAfter, ih, and_assoc]

/-- Foldable tests of well-keyed entries that ask for each operator once. -/
structure FoldsWell (tests : Document) : Prop where
  foldable : Foldable tests
  wellKeyed : ∀ value, ("$eq", value) ∈ tests → value.isWellKeyed = true
  distinct : (operatorsAsked tests).Nodup

theorem FoldsWell.of_append {tests more : Document} (well : FoldsWell (tests ++ more)) :
    FoldsWell tests where
  foldable := (foldableAfter_append.mp well.foldable).1
  wellKeyed value mem := well.wellKeyed value (List.mem_append_left _ mem)
  distinct := well.distinct.sublist (((List.sublist_append_left _ _).map Prod.fst).filter _)

/-- Each of some tests that fold well joins those before it. -/
theorem FoldsWell.joins {before after : Document} {test : String × Json}
    (well : FoldsWell (before ++ test :: after)) : Joins before test :=
  (foldableAfter_append.mp well.foldable).2.1

/-! ### One more test -/

/-- What folding makes of the tests asked for: it means what they mean, its equalities are among
them, and of its operators only the list that different values become may be new.  No operator asked
for is missing, and values are only where there is such a list. -/
structure FoldOf (Q : String × Json → Prop) (asked held : Document) : Prop where
  means : (∀ test ∈ held, Q test) ↔ ∀ test ∈ asked, Q test
  equality : ∀ value, ("$eq", value) ∈ held → ("$eq", value) ∈ asked
  operator : ∀ key ∈ held.keys, key ∈ asked.keys ∨ key = "$all" ∧
    ∃ v w, ("$eq", v) ∈ asked ∧ ("$eq", w) ∈ asked ∧ v.equal w = false
  list : ∀ list, held.get? "$all" = some list → ("$all", list) ∈ asked ∨ list.isFilledList = true
  keptOperator : ∀ key ∈ asked.keys, key ≠ "$eq" → key ∈ held.keys
  keptValue : "$all" ∉ held.keys → ∀ value, ("$eq", value) ∈ asked →
    ∃ first, ("$eq", first) ∈ held ∧ (first = value ∨ first.equal value = true)
  options : held.get? "$options" = Document.get? asked.reverse "$options"

namespace FoldOf

variable {Q : String × Json → Prop} {asked held : Document} {key : String} {value first : Json}

theorem nil : FoldOf Q [] [] where
  means := Iff.rfl
  equality _ mem := mem
  operator _ mem := absurd mem List.not_mem_nil
  list _ found := by cases found
  keptOperator _ mem := absurd mem List.not_mem_nil
  keptValue _ _ mem := absurd mem List.not_mem_nil
  options := rfl

/-- No operator is lost when a test is asked for under a key that is held. -/
theorem keptOperator_append (fold : FoldOf Q asked held) {more : Document}
    (stays : ∀ key ∈ held.keys, key ∈ more.keys) (own : key ≠ "$eq" → key ∈ more.keys) :
    ∀ k ∈ Document.keys (asked ++ [(key, value)]), k ≠ "$eq" → k ∈ more.keys := by
  intro k mem notEq
  rcases Document.mem_keys_append.mp mem with old | new
  · exact stays k (fold.keptOperator k old notEq)
  · obtain rfl : k = key := List.mem_singleton.mp new
    exact own notEq

/-- A test under a key that is not held yet joins the others. -/
theorem insert (fold : FoldOf Q asked held) (reads : ReadsEqualities Q)
    (fresh : key = "$options" ∨ key ∉ held.keys) :
    FoldOf Q (asked ++ [(key, value)]) (held.insert key value) where
  means := by
    rw [List.forall_mem_append, List.forall_mem_singleton, ← fold.means]
    rcases fresh with rfl | fresh
    · -- present options may be replaced, but they are no test
      refine ⟨fun each => ⟨fun test mem => ?_, reads.options value⟩, fun each test mem => ?_⟩
      · by_cases isOptions : test.1 = "$options"
        · obtain ⟨_, v⟩ := test
          obtain rfl := isOptions
          exact reads.options v
        · exact each test (Document.mem_insert_of_ne mem isOptions)
      · rcases Document.mem_of_mem_insert mem with rfl | mem
        · exact reads.options value
        · exact each.1 test mem
    · rw [Document.insert_of_notMem fresh, List.forall_mem_append, List.forall_mem_singleton]
  equality v mem := by
    rcases Document.mem_of_mem_insert mem with same | mem
    · exact List.mem_append_right _ (List.mem_singleton.mpr same)
    · exact List.mem_append_left _ (fold.equality v mem)
  operator k mem := by
    rcases Document.mem_keys_insert.mp mem with rfl | present
    · exact .inl (Document.mem_keys_of_mem (List.mem_append_right _ (List.mem_singleton.mpr rfl)))
    · rcases fold.operator k present with old | ⟨rfl, v, w, inV, inW, other⟩
      · exact .inl (Document.mem_keys_append.mpr (.inl old))
      · exact .inr ⟨rfl, v, w, List.mem_append_left _ inV, List.mem_append_left _ inW, other⟩
  list list found := by
    by_cases isAll : "$all" = key
    · subst isAll
      rw [Document.get?_insert_self] at found
      obtain rfl := Option.some.inj found
      exact .inl (List.mem_append_right _ (List.mem_singleton.mpr rfl))
    · rw [Document.get?_insert_of_ne _ _ isAll] at found
      exact (fold.list list found).imp_left (List.mem_append_left _)
  keptOperator := fold.keptOperator_append (fun k mem => Document.mem_keys_insert.mpr (.inr mem))
    fun _ => Document.mem_keys_insert.mpr (.inl rfl)
  keptValue none v mem := by
    rcases List.mem_append.mp mem with old | new
    · have stillNone : "$all" ∉ held.keys := fun mem =>
        none (Document.mem_keys_insert.mpr (.inr mem))
      obtain ⟨first, present, same⟩ := fold.keptValue stillNone v old
      have notEq : ("$eq" : String) ≠ key := by
        rintro rfl
        rcases fresh with isOptions | fresh
        · exact absurd isOptions (by decide)
        · exact fresh (Document.mem_keys_of_mem present)
      exact ⟨first, Document.mem_insert_of_ne present notEq, same⟩
    · obtain ⟨rfl, rfl⟩ := Prod.mk.inj (List.mem_singleton.mp new)
      exact ⟨v, Document.mem_of_get? (Document.get?_insert_self _ _ _), .inl rfl⟩
  options := by
    rw [List.reverse_append, List.reverse_singleton, List.singleton_append, Document.get?_cons]
    split
    · next isOptions => rw [isOptions, Document.get?_insert_self]
    · next other => rw [Document.get?_insert_of_ne _ _ (Ne.symm other), fold.options]

theorem options_append_eq (fold : FoldOf Q asked held) (value : Json) :
    held.get? "$options" = Document.get? (asked ++ [("$eq", value)]).reverse "$options" := by
  rw [List.reverse_append, List.reverse_singleton, List.singleton_append, Document.get?_cons,
    if_neg (by decide), fold.options]

/-- A value that is held already is not asked for again. -/
theorem again (fold : FoldOf Q asked held) (reads : ReadsEqualities Q)
    (present : ("$eq", first) ∈ held) (hv : first.isWellKeyed = true)
    (hw : value.isWellKeyed = true) (same : first.equal value = true) :
    FoldOf Q (asked ++ [("$eq", value)]) held where
  means := by
    rw [List.forall_mem_append, List.forall_mem_singleton, ← fold.means]
    exact ⟨fun each => ⟨each, (reads.equal hv hw same).mp (each _ present)⟩, And.left⟩
  equality v mem := List.mem_append_left _ (fold.equality v mem)
  operator k mem := by
    rcases fold.operator k mem with old | ⟨rfl, v, w, inV, inW, other⟩
    · exact .inl (Document.mem_keys_append.mpr (.inl old))
    · exact .inr ⟨rfl, v, w, List.mem_append_left _ inV, List.mem_append_left _ inW, other⟩
  list list found := (fold.list list found).imp_left (List.mem_append_left _)
  keptOperator := fold.keptOperator_append (fun _ mem => mem) fun notEq => absurd rfl notEq
  keptValue none v mem := by
    rcases List.mem_append.mp mem with old | new
    · exact fold.keptValue none v old
    · obtain ⟨-, rfl⟩ := Prod.mk.inj (List.mem_singleton.mp new)
      exact ⟨first, present, .inr same⟩
  options := fold.options_append_eq value

/-- A second value goes into the list, which it may be the first to enter. -/
theorem gather (fold : FoldOf Q asked held) (reads : ReadsEqualities Q) {items : List Json}
    (present : ("$eq", first) ∈ asked) (other : first.equal value = false)
    (list : "$all" ∉ held.keys ∧ items = [] ∨
      held.get? "$all" = some (.array items) ∧ items ≠ []) :
    FoldOf Q (asked ++ [("$eq", value)]) (held.insert "$all" (.array (items ++ [value]))) where
  means := by
    have more : Q ("$all", .array (items ++ [value])) ↔
        (∀ v ∈ items, Q ("$eq", v)) ∧ Q ("$eq", value) := by
      rw [reads.all (by simp), List.forall_mem_append, List.forall_mem_singleton]
    rw [List.forall_mem_append, List.forall_mem_singleton, ← fold.means]
    rcases list with ⟨fresh, rfl⟩ | ⟨found, some⟩
    · rw [Document.insert_of_notMem fresh, List.forall_mem_append, List.forall_mem_singleton, more]
      simp
    · obtain ⟨before, after, parts, written⟩ := Document.insert_of_get? found
      rw [written, parts]
      simp only [List.forall_mem_append, List.forall_mem_cons, more, reads.all some]
      tauto
  equality v mem := by
    rcases Document.mem_of_mem_insert mem with same | mem
    · exact absurd (Prod.mk.inj same).1 (by decide)
    · exact List.mem_append_left _ (fold.equality v mem)
  operator k mem := by
    have different : ∃ v w, ("$eq", v) ∈ asked ++ [("$eq", value)] ∧
        ("$eq", w) ∈ asked ++ [("$eq", value)] ∧ v.equal w = false :=
      ⟨first, value, List.mem_append_left _ present, by simp, other⟩
    rcases Document.mem_keys_insert.mp mem with rfl | old
    · exact .inr ⟨rfl, different⟩
    · rcases fold.operator k old with old | ⟨rfl, -⟩
      · exact .inl (Document.mem_keys_append.mpr (.inl old))
      · exact .inr ⟨rfl, different⟩
  list list found := by
    rw [Document.get?_insert_self] at found
    obtain rfl := Option.some.inj found
    exact .inr (by cases items <;> rfl)
  keptOperator := fold.keptOperator_append (fun k mem => Document.mem_keys_insert.mpr (.inr mem))
    fun notEq => absurd rfl notEq
  keptValue none := absurd (Document.mem_keys_insert.mpr (.inl rfl)) none
  options := by
    rw [Document.get?_insert_of_ne _ _ (by decide)]
    exact fold.options_append_eq value

/-- Two values of which the first was a literal become a list. -/
theorem pair (fold : FoldOf Q asked [("$eq", first)]) (reads : ReadsEqualities Q)
    (other : first.equal value = false) :
    FoldOf Q (asked ++ [("$eq", value)]) [("$all", .array [first, value])] where
  means := by
    rw [List.forall_mem_append, List.forall_mem_singleton, ← fold.means, List.forall_mem_singleton,
      List.forall_mem_singleton, reads.all (by simp)]
    simp
  equality v mem := absurd (Prod.mk.inj (List.mem_singleton.mp mem)).1 (by decide)
  operator k mem := by
    obtain rfl : k = "$all" := List.mem_singleton.mp mem
    have present := fold.equality first List.mem_cons_self
    exact .inr ⟨rfl, first, value, List.mem_append_left _ present, by simp, other⟩
  list list found := by
    obtain rfl := Option.some.inj found
    exact .inr rfl
  keptOperator k mem notEq := by
    -- nothing but equalities was asked for
    rcases Document.mem_keys_append.mp mem with old | new
    · exact absurd (List.mem_singleton.mp (fold.keptOperator k old notEq)) notEq
    · exact absurd (List.mem_singleton.mp new) notEq
  keptValue none := absurd List.mem_cons_self none
  options := fold.options_append_eq value

/-- An operator map takes another equality. -/
theorem addEqualOperator (fold : FoldOf Q asked held) (reads : ReadsEqualities Q)
    (wellKeyed : ∀ v, ("$eq", v) ∈ asked → v.isWellKeyed = true)
    (own : value.isWellKeyed = true) (joins : Joins asked ("$eq", value)) :
    FoldOf Q (asked ++ [("$eq", value)]) (Clauses.addEqualOperator held value) := by
  unfold Clauses.addEqualOperator
  split
  · next absent => exact fold.insert reads (.inr (Document.get?_eq_none_iff.mp absent))
  · next first found =>
      have present := Document.mem_of_get? found
      have inAsked := fold.equality first present
      split
      · next same => exact fold.again reads present (wellKeyed first inAsked) own same
      · next differ =>
          have other : first.equal value = false := Bool.eq_false_iff.mpr differ
          -- a list without members was asked for, and then no second value is
          have isList : ∀ list, held.get? "$all" = some list →
              ∃ items, items ≠ [] ∧ list = .array items := by
            intro list found
            refine Json.exists_of_isFilledList ?_
            rcases fold.list list found with old | filled
            · rw [← Bool.not_eq_false]
              intro unfilled
              exact differ (joins.joined rfl _ old rfl unfilled _ inAsked rfl)
            · exact filled
          split
          · next absent =>
              have fresh := Document.get?_eq_none_iff.mp absent
              exact fold.gather reads inAsked other (.inl ⟨fresh, rfl⟩)
          · next items list =>
              obtain ⟨_, some, same⟩ := isList _ list
              exact fold.gather reads inAsked other (.inr ⟨list, Json.array.inj same ▸ some⟩)
          · next list notItems found =>
              obtain ⟨items, -, same⟩ := isList _ found
              exact (notItems items same).elim

end FoldOf

/-! ### One more part -/

theorem Json.operators?_eq_none_iff {clause : Json} :
    clause.operators? = none ↔ clause.isOperatorMap = false := by
  cases clause with
  | object members =>
      rw [operators?]
      cases isMap : (object members).isOperatorMap <;> simp [object?]
  | _ => simp [operators?, isOperatorMap]

section Parts

variable {Q : String × Json → Prop} {asked clauses : Document} {field : String} {part : FilterPart}

theorem testsAt_of_get? {clause : Json} (found : clauses.get? field = some clause) :
    testsAt clauses field = clause.tests := by
  rw [testsAt, found]

theorem operators?_addEqualOperator {ops : Document} (value : Json)
    (isMap : (Json.object ops).operators? = some ops) :
    (Json.object (Clauses.addEqualOperator ops value)).operators? =
      some (Clauses.addEqualOperator ops value) := by
  have dollar := (Json.operators?_eq_some_iff.mp isMap).2.2
  unfold Clauses.addEqualOperator
  split
  · exact Clauses.operators?_insert dollar (by decide)
  · split
    · exact isMap
    · split
      · exact Clauses.operators?_insert dollar (by decide)
      · exact Clauses.operators?_insert dollar (by decide)
      · exact isMap

/-- A literal goes into the clause of its field. -/
theorem FoldOf.addEqual {value : Json} (fold : FoldOf Q asked (testsAt clauses field))
    (reads : ReadsEqualities Q) (well : FoldsWell (asked ++ [("$eq", value)])) :
    FoldOf Q (asked ++ [("$eq", value)])
      (testsAt (Clauses.addEqual clauses field value) field) := by
  have inTests : ("$eq", value) ∈ asked ++ [("$eq", value)] := by simp
  have own := well.wellKeyed value inTests
  have wellKeyed : ∀ v, ("$eq", v) ∈ asked → v.isWellKeyed = true :=
    fun v mem => well.wellKeyed v (List.mem_append_left _ mem)
  unfold Clauses.addEqual
  split
  · next absent =>
      have literal := Json.operators?_eq_none_iff.mpr (well.joins.literal rfl)
      rw [testsAt, absent] at fold
      rw [testsAt_insert_self, Json.tests_of_literal literal]
      exact fold.insert reads (.inr List.not_mem_nil)
  · next present found =>
      rw [testsAt_of_get? found] at fold
      cases isMap : present.operators? with
      | some ops =>
          rw [Json.tests_of_operators? isMap] at fold
          rw [(Json.operators?_eq_some_iff.mp isMap).1] at isMap
          have isMapStill := operators?_addEqualOperator value isMap
          dsimp only
          rw [testsAt_insert_self, Json.tests_of_operators? isMapStill]
          exact fold.addEqualOperator reads wellKeyed own well.joins
      | none =>
          rw [Json.tests_of_literal isMap] at fold
          have inAsked := fold.equality present List.mem_cons_self
          dsimp only
          split
          · next same =>
              rw [testsAt_of_get? found, Json.tests_of_literal isMap]
              exact fold.again reads List.mem_cons_self (wellKeyed present inAsked) own same
          · next differ =>
              have isMap : (Json.object [("$all", .array [present, value])]).operators? =
                  some [("$all", .array [present, value])] :=
                Json.operators?_object (List.cons_ne_nil _ _) (by simp; decide)
              rw [testsAt_insert_self, Json.tests_of_operators? isMap]
              exact fold.pair reads (Bool.eq_false_iff.mpr differ)

/-- The operator map that an operator joins holds the tests of the clause, unless this is `{}`. -/
theorem operatorsAt_eq_testsAt (visible : clauses.get? field ≠ some (.object [])) :
    Clauses.operatorsAt clauses field = testsAt clauses field := by
  unfold Clauses.operatorsAt testsAt Clauses.operatorsOf
  cases found : clauses.get? field with
  | none => rfl
  | some clause =>
      dsimp only
      split
      · exact absurd found visible
      · rfl

/-- A part that is no equality joins the tests of its field by its own. -/
theorem testsAt_addOperand {op : Operator} {operand : Operand} (notEq : op ≠ .eq)
    (visible : clauses.get? field ≠ some (.object [])) :
    testsAt (Clauses.addOperand clauses field op operand) field =
      withOperand (testsAt clauses field) op operand := by
  have dollar : ∀ test ∈ testsAt clauses field, isDollarKey test.1 = true := by
    rw [← operatorsAt_eq_testsAt visible]
    exact fun test mem => Clauses.isDollarKey_of_mem_operatorsAt mem
  rw [Clauses.addOperand_eq notEq, testsAt_insert_self, operatorsAt_eq_testsAt visible]
  refine Json.tests_of_operators? ?_
  cases operand with
  | single value => exact Clauses.operators?_insert dollar (by cases op <;> decide)
  | regex pattern options =>
      cases options with
      | none => exact Clauses.operators?_insert dollar (by decide)
      | some options =>
          refine Clauses.operators?_insert (fun test mem => ?_) (by decide)
          rcases Document.mem_of_mem_insert mem with rfl | mem
          · show isDollarKey "$regex" = true
            decide
          · exact dollar test mem

theorem FoldOf.withOperand [PatternReader] {op : Operator} {operand : Operand} {held : Document}
    (fold : FoldOf Q asked held) (reads : ReadsEqualities Q) (native : operand.IsNative op)
    (fresh : op.native ∉ held.keys) :
    FoldOf Q (asked ++ withOperand [] op operand) (withOperand held op operand) := by
  cases operand with
  | single value => exact fold.insert reads (.inr fresh)
  | regex pattern options =>
      obtain ⟨rfl, -⟩ := native
      have withPattern : FoldOf Q (asked ++ [("$regex", .string pattern)])
          (held.insert "$regex" (.string pattern)) := fold.insert reads (.inr fresh)
      cases options with
      | none => exact withPattern
      | some options =>
          have both : FoldOf Q
              (asked ++ [("$regex", .string pattern)] ++ [("$options", .string options)])
              ((held.insert "$regex" (.string pattern)).insert "$options" (.string options)) :=
            withPattern.insert reads (.inl rfl)
          rwa [List.append_assoc] at both

/-- An operator that is asked for and was not before is not held yet. -/
theorem FoldOf.notMem_keys {held : Document} {key : String} {more : Document}
    (fold : FoldOf Q asked held) (well : FoldsWell (asked ++ more))
    (asks : key ∈ operatorsAsked more) : key ∉ held.keys := by
  obtain ⟨inMore, notEq, notOptions⟩ := mem_operatorsAsked.mp asks
  intro present
  rcases fold.operator key present with old | ⟨rfl, v, w, inV, inW, differ⟩
  · have distinct := well.distinct
    rw [operatorsAsked_append] at distinct
    exact List.disjoint_of_nodup_append distinct
      (mem_operatorsAsked.mpr ⟨old, notEq, notOptions⟩) asks
  · obtain ⟨test, inMore, isAll⟩ := List.mem_map.mp inMore
    obtain ⟨front, back, rfl⟩ := List.append_of_mem inMore
    rw [← List.append_assoc] at well
    have same := well.joins.list isAll _ (List.mem_append_left _ inV) _
      (List.mem_append_left _ inW) rfl rfl
    rw [differ] at same
    cases same

/-- An operator does not join the literal `{}`: that is held only if nothing else was asked for. -/
theorem FoldOf.ne_emptyObject {test : String × Json}
    (fold : FoldOf Q asked (testsAt clauses field)) (joins : Joins asked test)
    (notEq : test.1 ≠ "$eq") : clauses.get? field ≠ some (.object []) := by
  intro found
  have held : testsAt clauses field = [("$eq", .object [])] := by
    rw [testsAt_of_get? found]
    rfl
  rw [held] at fold
  have asks := List.ne_nil_of_mem (fold.equality _ List.mem_cons_self)
  obtain ⟨⟨key, value⟩, mem, other⟩ := joins.visible notEq asks
  have isEq : key = "$eq" := by
    by_contra notEq
    have key := List.mem_singleton.mp
      (fold.keptOperator key (Document.mem_keys_of_mem mem) notEq)
    exact notEq key
  subst isEq
  obtain ⟨first, inHeld, same⟩ := fold.keptValue (by decide) value mem
  obtain ⟨-, rfl⟩ := Prod.mk.inj (List.mem_singleton.mp inHeld)
  have isEmpty : value = .object [] := by
    rcases same with rfl | same
    · rfl
    · obtain ⟨others, rfl, length, -⟩ := Json.equal_object.mp same
      rw [List.length_eq_zero_iff.mp length.symm]
  rw [isEmpty] at other
  cases other

/-- The tests of an operand start with its operator. -/
theorem exists_withOperand_eq_cons [PatternReader] {op : Operator} {operand : Operand}
    (native : operand.IsNative op) :
    ∃ value more, withOperand [] op operand = (op.native, value) :: more := by
  cases operand with
  | single value => exact ⟨value, [], rfl⟩
  | regex pattern options =>
      obtain ⟨rfl, -⟩ := native
      cases options with
      | none => exact ⟨.string pattern, [], rfl⟩
      | some options => exact ⟨.string pattern, [("$options", .string options)], rfl⟩

theorem native_mem_operatorsAsked [PatternReader] {op : Operator} {operand : Operand}
    (notEq : op ≠ .eq)
    (native : operand.IsNative op) : op.native ∈ operatorsAsked (withOperand [] op operand) := by
  refine mem_operatorsAsked.mpr ⟨?_, Operator.native_ne_eq notEq, by cases op <;> decide⟩
  obtain ⟨value, more, tests⟩ := exists_withOperand_eq_cons native
  rw [tests]
  exact List.mem_cons_self

/-- **One part** joins what folding has made of the parts before it. -/
theorem FoldOf.addTo [PatternReader] (fold : FoldOf Q asked (testsAt clauses part.field))
    (reads : ReadsEqualities Q) (ofClient : part.IsOfClient)
    (well : FoldsWell (asked ++ part.tests)) :
    FoldOf Q (asked ++ part.tests) (testsAt (part.addTo clauses) part.field) := by
  obtain ⟨field, addition⟩ := part
  cases addition with
  | equality value => exact fold.addEqual reads well
  | operand op operand =>
      obtain ⟨notEq, native⟩ := ofClient
      have asks := native_mem_operatorsAsked notEq native
      obtain ⟨value, more, tests⟩ := exists_withOperand_eq_cons native
      have joins : Joins asked (op.native, value) := by
        rw [FilterPart.tests, tests] at well
        exact well.joins
      have visible := fold.ne_emptyObject joins (Operator.native_ne_eq notEq)
      rw [FilterPart.addTo, testsAt_addOperand notEq visible]
      exact fold.withOperand reads native (fold.notMem_keys well asks)
  | member key value =>
      obtain rfl : key = "$options" := ofClient
      have visible := fold.ne_emptyObject well.joins (show "$options" ≠ "$eq" by decide)
      rw [FilterPart.addTo, Clauses.addOperator_of_ne (by decide), testsAt_insert_self,
        operatorsAt_eq_testsAt visible]
      have isMap : (Json.object ((testsAt clauses field).insert "$options" value)).operators? =
          some ((testsAt clauses field).insert "$options" value) := by
        rw [← operatorsAt_eq_testsAt visible]
        exact Clauses.operators?_insert (fun test mem => Clauses.isDollarKey_of_mem_operatorsAt mem)
          (by decide)
      rw [Json.tests_of_operators? isMap]
      exact fold.insert reads (.inl rfl)
  | logical value => exact ofClient.elim

/-- **All parts for a field** are asked for by the clause that folding makes of them. -/
theorem FoldOf.foldl_addTo [PatternReader] {parts : List FilterPart}
    (fold : FoldOf Q asked (testsAt clauses field))
    (reads : ReadsEqualities Q) (own : ∀ part ∈ parts, part.field = field)
    (ofClient : ∀ part ∈ parts, part.IsOfClient)
    (well : FoldsWell (asked ++ parts.flatMap (·.tests))) :
    FoldOf Q (asked ++ parts.flatMap (·.tests))
      (testsAt (parts.foldl (fun clauses part => part.addTo clauses) clauses) field) := by
  induction parts generalizing asked clauses with
  | nil =>
      rw [List.flatMap_nil, List.append_nil]
      exact fold
  | cons part rest ih =>
      obtain ⟨rfl, ownRest⟩ := List.forall_mem_cons.mp own
      obtain ⟨isPart, areParts⟩ := List.forall_mem_cons.mp ofClient
      rw [List.flatMap_cons, ← List.append_assoc] at well ⊢
      have first := fold.addTo reads isPart well.of_append
      exact ih first ownRest areParts well

end Parts

end DocQuery
