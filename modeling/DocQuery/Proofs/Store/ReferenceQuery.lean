import DocQuery.Proofs.Filter.MergeMeaning
import DocQuery.Proofs.Store.Reference

/-!
# The query for the records that references point to

All references of a clause are looked up by one query.  Its filter is the clause's filter merged
with a test on the foreign field, and by the rules of the merge that test takes the place of a
`$in` that the clause's filter has on the same field.  Whatever else the filter asks for stays in
force: `PopulateClause.standingFilter` is what is left of it, and it is the same for every batch.

## Main definitions

* `PopulateClause.standingFilter`: what stays in force of the clause's filter
* `PopulateClause.forall_mem_query_filter`: what the query asks for
* `PopulateClause.exists_compile_query_iff`, `PopulateClause.matchesDocument_query_iff`: the query,
  compiled
-/

namespace DocQuery

namespace PopulateClause

variable {clause : PopulateClause} {references : List Json} {doc : Document}

/-! ### What stays in force of the filter -/

/-- A clause of a filter without a test for references on its field. -/
def withoutReferenceTest (field : String) (entry : String × Json) : Option (String × Json) :=
  match entry.2.operators? with
  | some ops =>
    if entry.1 = field then
      let left := ops.filter fun member => member.1 ≠ "$in"
      if left.isEmpty then none else some (field, .object left)
    else some entry
  | none => some entry

/-- What stays in force of a clause's filter when references are looked up: all of it but a `$in` on
the foreign field. -/
def standingFilter (clause : PopulateClause) : Document :=
  clause.filter.filterMap (withoutReferenceTest clause.foreignField)

/-- Without a `$in` on the foreign field the whole filter stays in force. -/
theorem standingFilter_eq_self
    (free : ∀ ops, (clause.foreignField, Json.object ops) ∈ clause.filter → "$in" ∉ Document.keys ops) :
    clause.standingFilter = clause.filter := by
  have same : ∀ entry ∈ clause.filter, withoutReferenceTest clause.foreignField entry = some entry := by
    rintro ⟨key, value⟩ mem
    unfold withoutReferenceTest
    cases map : value.operators? with
    | none => rfl
    | some ops =>
        dsimp only
        by_cases same : key = clause.foreignField
        · obtain ⟨rfl, nonempty, -⟩ := Json.operators?_eq_some_iff.mp map
          have kept : ops.filter (fun member => member.1 ≠ "$in") = ops := by
            refine List.filter_eq_self.mpr fun member inside => ?_
            have other : member.1 ≠ "$in" := fun isIn =>
              free ops (same ▸ mem) (isIn ▸ Document.mem_keys_of_mem inside)
            simpa using other
          rw [if_pos same, kept, List.isEmpty_eq_false_iff.mpr nonempty, same]
          rfl
        · rw [if_neg same]
  rw [standingFilter, List.filterMap_congr same, List.filterMap_some]

theorem standingFilter_of_notMem (free : clause.foreignField ∉ clause.filter.keys) :
    clause.standingFilter = clause.filter :=
  standingFilter_eq_self fun _ mem => absurd (Document.mem_keys_of_mem mem) free

/-! ### How a clause of the filter meets the test -/

section

variable {entry : String × Json} {value : Json} {P : String × Json → Prop}
  {Q : String → Document → String × Json → Prop}

theorem get?_referenceTest (field : String) :
    Document.get? [clause.referenceTest references] field =
      if clause.foreignField = field then some (clause.referenceTest references).2 else none := by
  rw [referenceTest, Document.get?_cons, Document.get?_nil]

/-- A clause of another field does not meet the test. -/
theorem meeting_of_other (other : entry.1 ≠ clause.foreignField) :
    meeting [clause.referenceTest references] entry = .apart := by
  unfold meeting
  rw [get?_referenceTest, if_neg (Ne.symm other)]
  split <;> rfl

/-- A literal on the foreign field is in conflict with the test. -/
theorem meeting_of_literal (name : isDollarKey clause.foreignField = false)
    (same : entry.1 = clause.foreignField) (literal : entry.2.operators? = none) :
    meeting [clause.referenceTest references] entry =
      .conflict (clause.referenceTest references).2 := by
  have differs : ¬entry.2.equal (clause.referenceTest references).2 = true := by
    intro equal
    obtain ⟨items, isTest, -⟩ := eq_of_equal_referenceTest equal
    rw [isTest, operators?_referenceTest] at literal
    cases literal
  unfold meeting
  rw [get?_referenceTest, if_pos same.symm, same, name]
  simp only [differs, literal, Bool.false_eq_true, if_false]

/-- An operator map on the foreign field is merged with the test, unless it is the test. -/
theorem meeting_of_operators (name : isDollarKey clause.foreignField = false)
    (same : entry.1 = clause.foreignField) {ours : Document}
    (map : entry.2.operators? = some ours) :
    meeting [clause.referenceTest references] entry =
      if entry.2.equal (clause.referenceTest references).2 then .agree
      else .operators ours [("$in", .array references)] := by
  unfold meeting
  rw [get?_referenceTest, if_pos same.symm, same, name]
  simp only [map, operators?_referenceTest, Bool.false_eq_true, if_false]

/-- What the references leave of a clause, unless it is the very test. -/
theorem leftOf_referenceTest (name : isDollarKey clause.foreignField = false)
    (differs : meeting [clause.referenceTest references] entry ≠ .agree) :
    leftOf Document.contains [clause.referenceTest references] entry =
      withoutReferenceTest clause.foreignField entry := by
  by_cases same : entry.1 = clause.foreignField
  · cases map : entry.2.operators? with
    | none => rw [leftOf, meeting_of_literal name same map, withoutReferenceTest, map]
    | some ours =>
        have met := @meeting_of_operators clause references entry name same ours map
        by_cases equal : entry.2.equal (clause.referenceTest references).2 = true
        · rw [if_pos equal] at met
          exact absurd met differs
        · have yields : ∀ key, Document.contains [("$in", .array references)] key =
              decide (key = "$in") := by
            intro key
            rw [Document.contains, Document.get?_cons, Document.get?_nil]
            by_cases isIn : key = "$in" <;> simp [isIn, eq_comm]
          rw [leftOf, met, if_neg equal, withoutReferenceTest, map]
          simp only [yields, same, if_true, ne_eq, decide_not]
  · rw [leftOf, meeting_of_other same, withoutReferenceTest]
    cases entry.2.operators? with
    | none => rfl
    | some ops => exact (if_neg same).symm

/-- What the references leave of a clause asks for what stays in force of it, given the test. -/
theorem left_iff_standing (name : isDollarKey clause.foreignField = false)
    (agree : ∀ value, entry = (clause.foreignField, value) →
      value.equal (clause.referenceTest references).2 = true → P entry) :
    (∀ left, leftOf Document.contains [clause.referenceTest references] entry = some left → P left) ↔
      ∀ left, withoutReferenceTest clause.foreignField entry = some left → P left := by
  by_cases met : meeting [clause.referenceTest references] entry = .agree
  · -- the clause is the test itself: nothing stays, and nothing more is asked for
    obtain ⟨theirs, present, equal⟩ := meeting_agree met
    rw [get?_referenceTest, Option.ite_none_right_eq_some] at present
    obtain ⟨same, isTest⟩ := present
    obtain ⟨key, value⟩ := entry
    obtain rfl : clause.foreignField = key := same
    rw [← Option.some.inj isTest] at equal
    have holds := agree value rfl equal
    obtain ⟨items, rfl, -⟩ := eq_of_equal_referenceTest equal
    have nothing : withoutReferenceTest clause.foreignField
        (clause.foreignField, (clause.referenceTest items).2) = none := by
      simp [withoutReferenceTest, operators?_referenceTest]
    rw [nothing, leftOf, met]
    constructor
    · intro _ left impossible
      cases impossible
    · intro _ left same
      exact Option.some.inj same ▸ holds
  · rw [leftOf_referenceTest name met]

theorem patternsApart_referenceTest :
    patternsApart clause.filter [clause.referenceTest references] = true := by
  refine List.all_eq_true.mpr fun entry _ => ?_
  rw [get?_referenceTest]
  by_cases same : clause.foreignField = entry.1
  · rw [if_pos same, Option.bind_some, operators?_referenceTest]
    have free : mentionsPattern [("$in", Json.array references)] = false := by
      simp [mentionsPattern, Document.contains, Document.get?]
    cases entry.2.operators? <;> simp [free]
  · rw [if_neg same]
    cases entry.2.operators? <;> simp

/-! ### What the query asks for -/

/-- What stays in force of a clause's filter has a property, clause by clause. -/
structure Stands (clause : PopulateClause) (P : String × Json → Prop) : Prop where
  conjuncts : ∀ item ∈ conjunctsOf (clause.filter.get? "$and"), IsFilterOf P item
  clauses : ∀ entry ∈ clause.filter, entry.1 ≠ "$and" →
    ∀ left, withoutReferenceTest clause.foreignField entry = some left → P left

/-- Of a filter that compiles, what stays in force is a filter: its `$and` is a list with members. -/
theorem stands_iff [PatternReader] {fields : List String} {p : Predicate}
    (conjunctive : Clause.Conjunctive P)
    (wellKeyed : (Json.object clause.filter).isWellKeyed = true)
    (compiled : Predicate.compile clause.filter fields = .ok p) :
    clause.Stands P ↔ ∀ left ∈ clause.standingFilter, P left := by
  have distinct := (Json.isWellKeyed_object.mp wellKeyed).1
  have conjunction : ∀ value, clause.filter.get? "$and" = some value →
      ∃ items, value = .array items ∧ items ≠ [] := fun value found =>
    Clause.exists_items_of_compiles_and
      (Predicate.exists_compile_iff.mp ⟨p, compiled⟩ _ (Document.mem_of_get? found))
  have andStands : ∀ items, withoutReferenceTest clause.foreignField ("$and", .array items) =
      some ("$and", .array items) := fun _ => rfl
  simp only [standingFilter, List.mem_filterMap]
  constructor
  · rintro ⟨conjuncts, clauses⟩ left ⟨entry, mem, stays⟩
    by_cases isAnd : entry.1 = "$and"
    · obtain ⟨key, value⟩ := entry
      obtain rfl : key = "$and" := isAnd
      have found := Document.get?_of_mem distinct mem
      obtain ⟨items, rfl, nonempty⟩ := conjunction value found
      rw [andStands, Option.some.injEq] at stays
      rw [found] at conjuncts
      exact stays ▸ (conjunctive items nonempty).mpr conjuncts
    · exact clauses entry mem isAnd left stays
  · intro each
    refine ⟨?_, fun entry mem _ left stays => each left ⟨entry, mem, stays⟩⟩
    cases found : clause.filter.get? "$and" with
    | none => exact fun item mem => absurd mem List.not_mem_nil
    | some value =>
        obtain ⟨items, rfl, nonempty⟩ := conjunction value found
        exact (conjunctive items nonempty).mp
          (each _ ⟨_, Document.mem_of_get? found, andStands items⟩)

/-- **What the query asks for**: the test on the foreign field, and what stays in force of the
clause's filter. -/
theorem forall_mem_query_filter (name : isDollarKey clause.foreignField = false)
    (conjunctive : Clause.Conjunctive P) (decided : Clause.OperatorWise P Q)
    (wellKeyed : (Json.object clause.filter).isWellKeyed = true)
    (scalars : ∀ r ∈ references, r.isReference = true)
    (agree : ∀ value, value.equal (clause.referenceTest references).2 = true →
      (P (clause.foreignField, value) ↔ P (clause.referenceTest references))) :
    (∀ member ∈ (clause.query references).filter, P member) ↔
      P (clause.referenceTest references) ∧ clause.Stands P := by
  obtain ⟨distinct, inside⟩ := Json.isWellKeyed_object.mp wellKeyed
  have isTest : ∀ {key : String} {theirs : Json},
      Document.get? [clause.referenceTest references] key = some theirs →
        clause.foreignField = key ∧ (clause.referenceTest references).2 = theirs := by
    intro key theirs found
    rw [get?_referenceTest, Option.ite_none_right_eq_some, Option.some.injEq] at found
    exact found
  have ownTest : ∀ {entry : String × Json}, entry ∈ clause.filter →
      P (clause.referenceTest references) → ∀ value, entry = (clause.foreignField, value) →
      value.equal (clause.referenceTest references).2 = true → P entry := by
    rintro _ mem tested value rfl equal
    exact (agree value equal).mpr tested
  have agrees : ∀ entry ∈ clause.filter, ∀ theirs,
      Document.get? [clause.referenceTest references] entry.1 = some theirs →
      isDollarKey entry.1 = false → entry.2.equal theirs = true →
      (P entry ↔ P (entry.1, theirs)) := by
    rintro ⟨key, value⟩ mem theirs found _ equal
    obtain ⟨rfl, rfl⟩ := isTest found
    exact agree value equal
  have required := fun entry (mem : entry ∈ clause.filter) =>
    requires_iff_left_and_client decided patternsApart_referenceTest wellKeyed
      (isWellKeyed_referenceTest scalars) (agrees entry mem) mem
  rw [query_filter, forall_mem_mergeFilters conjunctive distinct distinctKeys_referenceTest]
  simp only [List.forall_mem_singleton]
  constructor
  · rintro ⟨conjuncts, -, inserted, each⟩
    have tested : P (clause.referenceTest references) := by
      by_cases standing : clause.foreignField ∈ clause.filter.keys
      · -- the test has met a clause on the same field
        obtain ⟨entry, mem, same⟩ := List.mem_map.mp standing
        have notAnd : entry.1 ≠ "$and" := by
          intro isAnd
          rw [← same, isAnd] at name
          exact absurd name (by decide)
        have both := ((required entry mem).mp (each entry mem notAnd)).2 (same ▸ name)
        rw [same] at both
        refine both (clause.referenceTest references).2 ?_
        rw [get?_referenceTest, if_pos rfl]
      · exact inserted name standing
    refine ⟨tested, conjuncts, fun entry mem notAnd => ?_⟩
    exact (left_iff_standing name (ownTest mem tested)).mp
      ((required entry mem).mp (each entry mem notAnd)).1
  · rintro ⟨tested, conjuncts, standing⟩
    refine ⟨conjuncts, fun _ => tested, fun _ _ => tested, fun entry mem notAnd => ?_⟩
    refine (required entry mem).mpr ⟨?_, fun _ theirs found => ?_⟩
    · exact (left_iff_standing name (ownTest mem tested)).mpr (standing entry mem notAnd)
    · obtain ⟨same, rfl⟩ := isTest found
      exact same ▸ tested

end

/-! ### The query, compiled -/

section

variable {p : Predicate} {fields : List String}

/-- As a logical key the test cannot compile, and the merge keeps it as it is. -/
theorem isDollarKey_of_compile [PatternReader] (distinct : clause.filter.DistinctKeys)
    (compiled : Predicate.compile (clause.query references).filter fields = .ok p) :
    isDollarKey clause.foreignField = false := by
  rw [Bool.eq_false_iff]
  intro dollar
  have compiles := Predicate.exists_compile_iff.mp ⟨p, compiled⟩
  obtain ⟨-, logical, -⟩ := (forall_mem_mergeFilters Clause.conjunctive_compiles distinct
    distinctKeys_referenceTest).mp compiles
  exact not_compiles_referenceTest dollar (logical _ List.mem_cons_self dollar)

/-- The query compiles exactly if the foreign field is no logical key and what stays in force of the
filter compiles, whatever the references are. -/
theorem exists_compile_query_iff [PatternReader]
    (wellKeyed : (Json.object clause.filter).isWellKeyed = true)
    (scalars : ∀ r ∈ references, r.isReference = true) :
    (∃ p, Predicate.compile (clause.query references).filter fields = .ok p) ↔
      isDollarKey clause.foreignField = false ∧ clause.Stands (Clause.Compiles fields) := by
  have asks := fun name => @forall_mem_query_filter clause references _ _ name
    Clause.conjunctive_compiles (Clause.operatorWise_compiles fields) wellKeyed scalars
    fun value equal => by
      obtain ⟨items, rfl, -⟩ := eq_of_equal_referenceTest equal
      have both : ∀ items, Clause.Compiles fields (clause.referenceTest items) :=
        fun _ => compiles_referenceTest name
      exact ⟨fun _ => both references, fun _ => both items⟩
  constructor
  · rintro ⟨p, compiled⟩
    have name := isDollarKey_of_compile (Json.isWellKeyed_object.mp wellKeyed).1 compiled
    exact ⟨name, ((asks name).mp (Predicate.exists_compile_iff.mp ⟨p, compiled⟩)).2⟩
  · rintro ⟨name, stands⟩
    exact Predicate.exists_compile_iff.mpr ((asks name).mpr ⟨compiles_referenceTest name, stands⟩)

/-- Where the filter compiles and says nothing about the foreign field, the query compiles. -/
theorem exists_compile_query_of_notMem [PatternReader]
    (name : isDollarKey clause.foreignField = false)
    (wellKeyed : (Json.object clause.filter).isWellKeyed = true)
    (compiled : Predicate.compile clause.filter fields = .ok p)
    (free : clause.foreignField ∉ clause.filter.keys)
    (scalars : ∀ r ∈ references, r.isReference = true) :
    ∃ q, Predicate.compile (clause.query references).filter fields = .ok q := by
  refine (exists_compile_query_iff wellKeyed scalars).mpr ⟨name, ?_⟩
  rw [stands_iff Clause.conjunctive_compiles wellKeyed compiled, standingFilter_of_notMem free]
  exact Predicate.exists_compile_iff.mp ⟨p, compiled⟩

/-- A document that matches the query passes the test on the foreign field, whatever the filter says
about that field. -/
theorem equalsSome_of_matchesDocument [PatternReader] (distinct : clause.filter.DistinctKeys)
    (scalars : ∀ r ∈ references, r.isReference = true)
    (compiled : Predicate.compile (clause.query references).filter fields = .ok p)
    (matched : p.matchesDocument doc = true) :
    references.any (equalsSome (doc.lookup clause.foreignField)) = true := by
  have name := isDollarKey_of_compile distinct compiled
  have accepted := (Predicate.matchesDocument_iff compiled).mp matched
  obtain ⟨-, -, inserted, each⟩ := (forall_mem_mergeFilters Clause.conjunctive_accepts distinct
    distinctKeys_referenceTest).mp accepted
  by_cases standing : clause.foreignField ∈ clause.filter.keys
  · obtain ⟨⟨key, value⟩, mem, same⟩ := List.mem_map.mp standing
    obtain rfl : key = clause.foreignField := same
    have notAnd : clause.foreignField ≠ "$and" := by
      intro isAnd
      rw [isAnd] at name
      exact absurd name (by decide)
    have required := each _ mem notAnd
    cases map : value.operators? with
    | none =>
        rw [Requires, meeting_of_literal name rfl map] at required
        exact (accepts_referenceTest name).mp required.2
    | some ours =>
        rw [Requires, meeting_of_operators name rfl map] at required
        by_cases equal : value.equal (clause.referenceTest references).2 = true
        · rw [if_pos equal] at required
          exact (accepts_referenceTest name).mp
            ((accepts_iff_of_equal_referenceTest name scalars equal).mp required)
        · -- the client's operators win, and the test is one of them
          rw [if_neg equal] at required
          have merged := operators?_mergeOperators map (operators?_referenceTest clause references)
          exact equalsSome_of_accepts name merged
            (Document.mem_of_get? (Document.get?_insert_self _ _ _)) required
  · exact (accepts_referenceTest name).mp (inserted _ List.mem_cons_self name standing)

/-- A document matches the query exactly if it passes the test on the foreign field and what stays
in force of the filter. -/
theorem matchesDocument_query_iff [PatternReader]
    (wellKeyed : (Json.object clause.filter).isWellKeyed = true)
    (scalars : ∀ r ∈ references, r.isReference = true)
    (compiled : Predicate.compile (clause.query references).filter fields = .ok p) :
    p.matchesDocument doc = true ↔
      references.any (equalsSome (doc.lookup clause.foreignField)) = true ∧
        clause.Stands (Clause.Accepts fields doc) := by
  have name := ((exists_compile_query_iff wellKeyed scalars).mp ⟨p, compiled⟩).1
  rw [Predicate.matchesDocument_iff compiled, forall_mem_query_filter name
    Clause.conjunctive_accepts (Clause.operatorWise_accepts fields doc) wellKeyed scalars
    fun value equal => accepts_iff_of_equal_referenceTest name scalars equal,
    accepts_referenceTest name]

end

end PopulateClause

end DocQuery