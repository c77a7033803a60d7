import DocQuery.Proofs.Document.Removal
import DocQuery.Proofs.Filter.Compilation
import DocQuery.Proofs.Json.Equality

/-!
# Element tests and dotted paths

A filter on the elements of an array asks that one element meets all its clauses.  Whatever such an
element holds is also reached by the dotted path that goes on from the array into its elements, so
each clause of the filter also holds of that path, as long as it asks for something that is there: a
test of this kind that some values pass is passed by any more values.

The converse direction fails, since different elements may meet the clauses; and a test that asks
for something not to be there, a negation or an equality with null, may fail for what the other
elements hold.

## Main definitions

* `Document.lookup_subset_of_element`: what is reached inside an element is reached from the array
* `FieldTest.Persists`: more values do not make a test fail
* `Operator.asksForPresence`, `Json.asksForPresence`: the operators and clauses of such tests
* `Clause.accepts_of_subset`: a clause at a path that reaches more
* `accepts_dotted_of_element`
-/

namespace DocQuery

variable {doc members ops : Document} {items values more : List Json} {path other key : String}
  {operand clause : Json} {test : FieldTest}

/-! ### What dotted paths reach -/

/-- The segments of a path that goes on behind another one. -/
theorem Path.segments_dotted (above below : String) :
    segments (above ++ "." ++ below) = segments above ++ segments below := by
  have joined : (above ++ "." ++ below).toList = above.toList ++ '.' :: below.toList := by simp
  rw [segments, segments, segments, Text.splitOnChar, Text.splitOnChar, Text.splitOnChar, joined,
    Text.pieces_eq_splitOn, Text.pieces_eq_splitOn, Text.pieces_eq_splitOn,
    List.splitOn_append_cons_self, List.map_append]

theorem isDollarKey_dotted (isPath : isDollarKey path = false) (below : String) :
    isDollarKey (path ++ "." ++ below) = false := by
  have joined : (path ++ "." ++ below).toList = path.toList ++ '.' :: below.toList := by simp
  rw [isDollarKey, Text.startsWith] at isPath ⊢
  rw [joined]
  cases chars : path.toList with
  | nil => rfl
  | cons c rest => rwa [chars] at isPath

namespace Document

theorem spread_append (values : List Json) (first second : List String) :
    spread values (first ++ second) = spread (spread values first) second := by
  induction first generalizing values with
  | nil => rfl
  | cons s rest ih => exact ih _

theorem spread_subset (subset : values ⊆ more) (segments : List String) :
    spread values segments ⊆ spread more segments := by
  rw [spread_eq_flatMap values, spread_eq_flatMap more]
  intro reached found
  obtain ⟨v, mem, below⟩ := List.mem_flatMap.mp found
  exact List.mem_flatMap.mpr ⟨v, subset mem, below⟩

/-- A dotted path goes on from the values at the path in front. -/
theorem lookup_dotted (doc : Document) (above below : String) :
    doc.lookup (above ++ "." ++ below) = spread (doc.lookup above) (Path.segments below) := by
  rw [lookup_eq_reached, lookup_eq_reached, Path.segments_dotted, Path.segments_eq_cons above]
  exact spread_append _ _ _

/-- What is reached inside an element of an array is reached from the array. -/
theorem lookup_subset_spread (mem : .object members ∈ items) (path : String) :
    members.lookup path ⊆ spread [.array items] (Path.segments path) := by
  rw [lookup_eq_reached, Path.segments_eq_cons path, reached, spread]
  refine spread_subset (fun v found => ?_) _
  have here : members.get? (Path.root path) = some v := Option.mem_toList.mp found
  simp only [List.flatMap_singleton, childrenAt, List.mem_append]
  exact .inr (List.mem_filterMap.mpr ⟨.object members, mem, here⟩)

/-- What is reached inside an element of an array at a path is reached by the dotted path. -/
theorem lookup_subset_of_element {above : String} (array : .array items ∈ doc.lookup above)
    (element : .object members ∈ items) (below : String) :
    members.lookup below ⊆ doc.lookup (above ++ "." ++ below) := by
  rw [lookup_dotted]
  exact List.Subset.trans (lookup_subset_spread element below)
    (spread_subset (List.cons_subset.mpr ⟨array, List.nil_subset _⟩) _)

end Document

/-! ### Tests that more values cannot fail -/

namespace FieldTest

/-- Whatever passes the test passes it with more values, too. -/
def Persists (test : FieldTest) : Prop :=
  ∀ ⦃values more : List Json⦄, values ⊆ more → test.holds values = true → test.holds more = true

theorem any_of_subset {p : Json → Bool} (subset : values ⊆ more) (some : values.any p = true) :
    more.any p = true := by
  obtain ⟨v, mem, holds⟩ := List.any_eq_true.mp some
  exact List.any_eq_true.mpr ⟨v, subset mem, holds⟩

theorem candidates_subset (subset : values ⊆ more) : candidates values ⊆ candidates more := by
  intro c found
  obtain ⟨v, mem, inside⟩ := List.mem_flatMap.mp found
  exact List.mem_flatMap.mpr ⟨v, subset mem, inside⟩

/-- Only null is equal to what is not there. -/
theorem equalsSome_of_subset (notNull : (!(operand matches .null)) = true)
    (subset : values ⊆ more) (equals : equalsSome values operand = true) :
    equalsSome more operand = true := by
  have found (values : List Json) : equalsSome values operand =
      (candidates values).any (·.matchesOperand operand) := by
    cases operand with
    | null => cases notNull
    | _ => rfl
  rw [found] at equals ⊢
  exact any_of_subset (candidates_subset subset) equals

end FieldTest

namespace Operator

/-- Whether an operator asks, with its operand, for something to be there: it is no negation, and
nothing that it compares with is null. -/
def asksForPresence : Operator → Json → Bool
  | .eq, operand => !(operand matches .null)
  | .isIn, operand | .all, operand => (operand.array?.getD []).all fun item => !(item matches .null)
  | .exists, operand => operand.isTruthy
  | .ne, _ | .notIn, _ => false
  | _, _ => true

end Operator

namespace FieldTest

/-- **What asks for something to be there persists.** -/
theorem persists_of_ofOperator [PatternReader] {op : Operator}
    (asks : op.asksForPresence operand = true)
    (compiled : ofOperator path ops op operand = .ok test) : test.Persists := by
  intro values more subset holds
  have candidates := candidates_subset subset
  cases op with
  | eq =>
      obtain rfl := Except.ok.inj compiled
      exact equalsSome_of_subset asks subset holds
  | gt | gte | lt | lte =>
      obtain rfl := Except.ok.inj compiled
      exact any_of_subset candidates holds
  | isIn =>
      obtain ⟨items, list, rfl⟩ := Except.map_eq_ok_iff.mp compiled
      cases operand <;> cases list
      obtain ⟨item, mem, equals⟩ := List.any_eq_true.mp holds
      have notNull := List.all_eq_true.mp asks item mem
      exact List.any_eq_true.mpr ⟨item, mem, equalsSome_of_subset notNull subset equals⟩
  | all =>
      obtain ⟨items, list, rfl⟩ := Except.map_eq_ok_iff.mp compiled
      cases operand <;> cases list
      rw [FieldTest.holds, Bool.and_eq_true] at holds ⊢
      refine ⟨holds.1, List.all_eq_true.mpr fun item mem => ?_⟩
      have notNull := List.all_eq_true.mp asks item mem
      exact equalsSome_of_subset notNull subset (List.all_eq_true.mp holds.2 item mem)
  | «exists» =>
      obtain rfl := Except.ok.inj compiled
      have truthy : operand.isTruthy = true := asks
      rw [FieldTest.holds, truthy] at holds ⊢
      cases values with
      | nil => cases holds
      | cons v rest =>
          obtain ⟨w, others, rfl⟩ := List.exists_cons_of_ne_nil
            (List.ne_nil_of_mem (subset List.mem_cons_self))
          rfl
  | regex =>
      cases operand with
      | string pattern =>
          obtain ⟨p, -, rfl⟩ := Except.map_eq_ok_iff.mp compiled
          exact any_of_subset candidates holds
      | _ => cases compiled
  | size =>
      rw [ofOperator] at compiled
      split at compiled
      · obtain rfl := Except.ok.inj compiled
        exact any_of_subset subset holds
      · cases compiled
  | ne | notIn => cases asks
  | elemMatch => cases compiled

/-- A test of the elements persists, whatever it asks of them. -/
theorem persists_of_compileElement [PatternReader]
    (compiled : compileElement path operand = .ok test) :
    test.Persists := by
  cases operand with
  | object members =>
      rw [compileElement] at compiled
      split at compiled
      all_goals
        obtain ⟨_, -, rfl⟩ := Except.map_eq_ok_iff.mp compiled
        exact fun _ _ subset holds => any_of_subset subset holds
  | _ => cases compiled

end FieldTest

/-! ### Clauses at another path -/

/-- The path of a test is named in its refusals only. -/
theorem FieldTest.ofOperator_path [PatternReader] {op : Operator} (other : String)
    (compiled : ofOperator path ops op operand = .ok test) :
    ofOperator other ops op operand = .ok test := by
  cases op with
  | isIn | notIn | all =>
      cases operand with
      | array items => exact compiled
      | _ => cases compiled
  | regex =>
      cases operand with
      | string pattern => exact compiled
      | _ => cases compiled
  | size =>
      rw [ofOperator] at compiled ⊢
      split at compiled
      · exact compiled
      · cases compiled
  | elemMatch => cases compiled
  | _ => exact compiled

theorem operatorTest_path [PatternReader] {member : String × Json}
    (element : ∀ test, compileElement path member.2 = .ok test →
      compileElement other member.2 = .ok test)
    (compiled : operatorTest path ops member = .ok test) :
    operatorTest other ops member = .ok test := by
  rw [operatorTest] at compiled ⊢
  split at compiled
  · exact element test compiled
  · exact FieldTest.ofOperator_path other compiled
  · cases compiled

/-- The path of an element test is named in its refusals only, and so is that of the element tests
inside it. -/
theorem compileElement_path [PatternReader] (operand : Json) :
    ∀ {path other : String} {test : FieldTest},
    compileElement path operand = .ok test → compileElement other operand = .ok test := by
  induction operand using Json.inductionOn with
  | object members ih =>
      intro path other test compiled
      rw [compileElement] at compiled ⊢
      split at compiled
      · next isMap =>
        obtain ⟨tests, each, rfl⟩ := Except.map_eq_ok_iff.mp compiled
        have inside : ∀ member ∈ members.filter (·.1 ≠ "$options"), ∀ test,
            compileElement path member.2 = .ok test → compileElement other member.2 = .ok test :=
          fun member mem test => ih member (List.mem_of_mem_filter mem)
        have both := (List.forall₂_and_left _ _).mpr ⟨inside, compileOperators_ok_iff.mp each⟩
        have again : compileOperators other members members = .ok tests :=
          compileOperators_ok_iff.mpr (both.imp fun _ _ h => operatorTest_path h.1 h.2)
        rw [if_pos isMap, again]
        rfl
      · next noMap => rw [if_neg noMap, compiled]
  | _ =>
      intro path other test compiled
      cases compiled

/-- Whether a clause asks for something to be there: it is a map of operators that do, or an equality
with anything but null. -/
def Json.asksForPresence (clause : Json) : Bool :=
  match clause.operators? with
  | some ops => ops.all fun member => member.1 == "$options" ||
      (compiledOperator? member.1).any fun op => op.asksForPresence member.2
  | none => !(clause matches .null)

/-- **A clause that asks for something to be there** holds at every path that reaches more. -/
theorem Clause.accepts_of_subset [PatternReader] {fields fields' : List String} {clause : Json}
    (isPath : isDollarKey key = false) (isPath' : isDollarKey other = false)
    (asks : clause.asksForPresence = true) (subset : members.lookup key ⊆ doc.lookup other)
    (accepts : Accepts fields members (key, clause)) : Accepts fields' doc (other, clause) := by
  unfold Json.asksForPresence at asks
  cases operators : clause.operators? with
  | none =>
      rw [operators] at asks
      obtain ⟨p, compiled, matched⟩ := accepts
      rw [compileClause_path isPath, operators] at compiled
      obtain rfl := Except.ok.inj compiled
      refine ⟨.field other (.equal clause), ?_, ?_⟩
      · rw [compileClause_path isPath', operators]
      · exact FieldTest.equalsSome_of_subset asks subset matched
  | some ops =>
      rw [operators] at asks
      rw [accepts_operators isPath operators] at accepts
      rw [accepts_operators isPath' operators]
      intro member mem isTest
      obtain ⟨test, compiled, holds⟩ := accepts member mem isTest
      have again : operatorTest other ops member = .ok test :=
        operatorTest_path (fun _ => compileElement_path _) compiled
      refine ⟨test, again, ?_⟩
      have asks := List.all_eq_true.mp asks member mem
      rw [beq_eq_false_iff_ne.mpr isTest, Bool.false_or, Option.any_eq_true] at asks
      obtain ⟨op, known, asks⟩ := asks
      obtain ⟨key, operand⟩ := member
      obtain rfl : op.native = key := compiledOperator?_eq_some known
      by_cases isElement : op = .elemMatch
      · subst isElement
        exact FieldTest.persists_of_compileElement (operatorTest_elemMatch ▸ compiled) subset holds
      · rw [operatorTest_native isElement] at compiled
        exact FieldTest.persists_of_ofOperator asks compiled subset holds

/-! ### Filters on elements -/

variable {fields : List String} {filter : Document}

/-- A record that matches a filter on elements has an array with an element that meets all the
clauses of the filter. -/
theorem exists_element_of_accepts [PatternReader] (isPath : isDollarKey path = false)
    (paths : ∀ member ∈ filter, isDollarKey member.1 = false)
    (accepts : Clause.Accepts fields doc (path, .object [("$elemMatch", .object filter)])) :
    ∃ items members, .array items ∈ doc.lookup path ∧ .object members ∈ items ∧
      ∀ member ∈ filter, Clause.Accepts [] members member := by
  have dollar : isDollarKey "$elemMatch" = true := by decide
  have operators : (Json.object [("$elemMatch", .object filter)]).operators? =
      some [("$elemMatch", .object filter)] :=
    Json.operators?_eq_some_iff.mpr ⟨rfl, List.cons_ne_nil _ _, by simpa using dollar⟩
  have noMap : ¬(Json.object filter).isOperatorMap = true := by
    cases filter with
    | nil => decide
    | cons member rest => simp [Json.isOperatorMap, paths member List.mem_cons_self]
  obtain ⟨test, compiled, holds⟩ := (Clause.accepts_operators isPath operators).mp accepts _
    List.mem_cons_self (by simp)
  rw [operatorTest_elemMatch, compileElement, if_neg noMap] at compiled
  obtain ⟨parts, clauses, rfl⟩ := Except.map_eq_ok_iff.mp compiled
  -- some value that is reached is an array, and some element of it a record that matches
  obtain ⟨v, reached, inside⟩ := List.any_eq_true.mp holds
  obtain ⟨items, array, inside⟩ := (Option.any_eq_true _ _).mp inside
  obtain ⟨item, element, inside⟩ := List.any_eq_true.mp inside
  obtain ⟨members, record, matched⟩ := (Option.any_eq_true _ _).mp inside
  obtain rfl : v = .array items := by
    cases v <;> cases array
    rfl
  obtain rfl : item = .object members := by
    cases item <;> cases record
    rfl
  have compiles : Predicate.compile filter [] = .ok (.allOf parts) :=
    Predicate.compile_ok_iff.mpr ⟨parts, clauses, rfl⟩
  exact ⟨items, members, reached, element, (Predicate.matchesDocument_iff compiles).mp matched⟩

/-- A filter of one clause is the clause. -/
theorem Clause.accepts_iff_singleton [PatternReader] {member : String × Json} :
    Accepts fields doc member ↔
      ∃ p, Predicate.compile [member] fields = .ok p ∧ p.matchesDocument doc = true := by
  constructor
  · intro accepts
    obtain ⟨p, compiled⟩ := Predicate.exists_compile_iff.mpr
      fun other (mem : other ∈ [member]) => List.mem_singleton.mp mem ▸ accepts.compiles
    exact ⟨p, compiled, (Predicate.matchesDocument_iff compiled).mpr
      fun other mem => List.mem_singleton.mp mem ▸ accepts⟩
  · rintro ⟨p, compiled, matched⟩
    exact (Predicate.matchesDocument_iff compiled).mp matched member List.mem_cons_self

/-- **A filter on elements entails its clauses at dotted paths**, if each of them asks for something
to be there: a record that matches the filter on the elements at a path matches, for each clause of
the filter, the same clause at the path that goes on from there. -/
theorem accepts_dotted_of_element [PatternReader] (isPath : isDollarKey path = false)
    (paths : ∀ member ∈ filter, isDollarKey member.1 = false)
    (asks : ∀ member ∈ filter, member.2.asksForPresence = true) {p : Predicate}
    (compiled : Predicate.compile [(path, .object [("$elemMatch", .object filter)])] fields = .ok p)
    (matched : p.matchesDocument doc = true) :
    ∀ member ∈ filter, ∃ p',
      Predicate.compile [(path ++ "." ++ member.1, member.2)] fields = .ok p' ∧
        p'.matchesDocument doc = true := by
  obtain ⟨items, members, array, element, accepts⟩ := exists_element_of_accepts isPath paths
    (Clause.accepts_iff_singleton.mpr ⟨p, compiled, matched⟩)
  intro member mem
  refine Clause.accepts_iff_singleton.mp ?_
  exact Clause.accepts_of_subset (paths member mem) (isDollarKey_dotted isPath member.1)
    (asks member mem) (Document.lookup_subset_of_element array element member.1)
    (accepts member mem)

/-- An element among several, with operators of each kind, a numeral in a path and a further element
test inside. -/
theorem accepts_dotted_of_element_order :
    let filter : Document := [
      ("sku", .object [("$in", .array [.string "a", .string "b"])]),
      ("marks", .object [("$size", .ofNat 2), ("$all", .array [.ofNat 1]), ("$exists", .bool true)]),
      ("parts.0.name", .object [("$regex", .string "^Bo")]),
      ("parts", .object [("$elemMatch", .object [("count", .object [("$gt", .ofNat 3)])])]),
      ("open", .bool true)]
    let entry : Document := [("order.items", .object [("$elemMatch", .object filter)])]
    let part : Document := [("name", .string "Bolt"), ("count", .ofNat 5)]
    let doc : Document := [("order", .object [("items", .array [
      .object [("sku", .string "c"), ("open", .bool false)],
      .object [("sku", .string "b"), ("marks", .array [.ofNat 1, .ofNat 2]),
        ("parts", .array [.object part]), ("open", .bool true)]])])]
    isDollarKey "order.items" = false ∧
      (∀ member ∈ filter, isDollarKey member.1 = false) ∧
      (∀ member ∈ filter, member.2.asksForPresence = true) ∧
      (∃ p, Predicate.compile entry [] = .ok p ∧ p.matchesDocument doc = true) ∧
      ∀ member ∈ filter, ∃ p', Predicate.compile [("order.items" ++ "." ++ member.1, member.2)] [] =
        .ok p' ∧ p'.matchesDocument doc = true := by
  intro filter entry part doc
  have isPath : isDollarKey "order.items" = false := by decide +kernel
  have paths : ∀ member ∈ filter, isDollarKey member.1 = false := by decide +kernel
  have asks : ∀ member ∈ filter, member.2.asksForPresence = true := by decide +kernel
  obtain ⟨p, compiled⟩ := Except.exists_eq_ok_of_isOk
    (by decide +kernel : (Predicate.compile entry []).isOk = true)
  have verdict : (Predicate.compile entry []).toOption.map (·.matchesDocument doc) = some true := by
    decide +kernel
  have matched : p.matchesDocument doc = true := by
    rw [compiled] at verdict
    exact Option.some.inj verdict
  exact ⟨isPath, paths, asks, ⟨p, compiled, matched⟩,
    accepts_dotted_of_element isPath paths asks compiled matched⟩

/-- A negation and an equality with null may hold of one element and fail for the other. -/
example :
    let verdict (filter : Document) : Bool :=
      match Predicate.compile filter [] with
      | .ok p => p.matchesDocument [("items", .array [.object [], .object [("n", .ofNat 1)]])]
      | .error _ => false
    verdict [("items", .object [("$elemMatch", .object [("n", .object [("$ne", .ofNat 1)])])])] ∧
      verdict [("items", .object [("$elemMatch", .object [("n", .null)])])] ∧
      !verdict [("items.n", .object [("$ne", .ofNat 1)])] ∧ !verdict [("items.n", .null)] := by
  decide +kernel

end DocQuery
