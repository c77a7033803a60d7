import DocQuery.Proofs.Json.Equality
import DocQuery.Proofs.Predicate.Meaning

/-!
# Equal clauses mean the same

Two clauses that `Json.equal` does not tell apart may write the members of their objects in
different orders.  Where both compile, every document that satisfies one satisfies the other
(`Clause.accepts_congr`).  The induction is on the value of one clause, and it has to carry three
readings of a value at once, because a value can stand as a clause, as an item of a logical key
and as the operand of an element test.

## Main definitions

* `Json.Interchangeable`: two values that mean the same wherever both compile
* `Json.interchangeable_of_equal`
-/

namespace DocQuery

namespace Json

variable {x y : Json} {xs ys : List (String × Json)}

/-! ### Leaves -/

theorem equal_congr_right (hx : x.isWellKeyed = true) (hy : y.isWellKeyed = true)
    (h : x.equal y = true) (v : Json) : v.equal x = v.equal y :=
  Bool.eq_iff_iff.mpr
    ⟨fun left => equal_trans left h, fun left => equal_trans left (equal_symm hx hy h)⟩

theorem matchesOperand_congr (hx : x.isWellKeyed = true) (hy : y.isWellKeyed = true)
    (h : x.equal y = true) (v : Json) : v.matchesOperand x = v.matchesOperand y := by
  have same := equal_congr_right hx hy h v
  obtain rfl | ⟨n, m, rfl, rfl, equal⟩ | ⟨xs, ys, rfl, rfl⟩ | ⟨xs, ys, rfl, rfl⟩ := equal_cases h
  · rfl
  · cases v with
    | number k => rw [matchesOperand, matchesOperand, Number.order_congr_right equal]
    | _ => exact same
  · cases v <;> exact same
  · cases v <;> exact same

theorem equalsSome_of_ne_null (notNull : x ≠ .null) (values : List Json) :
    equalsSome values x = (candidates values).any (·.matchesOperand x) := by
  cases x <;> first | contradiction | rfl

theorem equalsSome_congr (hx : x.isWellKeyed = true) (hy : y.isWellKeyed = true)
    (h : x.equal y = true) (values : List Json) : equalsSome values x = equalsSome values y := by
  by_cases null : x = .null
  · rw [null] at h
    rw [null, equal_null.mp h]
  · have null' : y ≠ .null := by
      rintro rfl
      exact null (equal_null.mp (equal_symm hx hy h)).symm
    simp only [equalsSome_of_ne_null null, equalsSome_of_ne_null null', matchesOperand_congr hx hy h]

theorem comparison_congr (h : x.equal y = true) (v : Json) : v.comparison x = v.comparison y := by
  obtain rfl | ⟨n, m, rfl, rfl, equal⟩ | ⟨xs, ys, rfl, rfl⟩ | ⟨xs, ys, rfl, rfl⟩ := equal_cases h
  · rfl
  · cases v with
    | number k => rw [comparison, comparison, Number.order_congr_right equal]
    | _ => rfl
  · cases v <;> rfl
  · cases v <;> rfl

theorem isTruthy_congr (h : x.equal y = true) : x.isTruthy = y.isTruthy := by
  obtain rfl | ⟨n, m, rfl, rfl, equal⟩ | ⟨xs, ys, rfl, rfl⟩ | ⟨xs, ys, rfl, rfl⟩ := equal_cases h
  · rfl
  · rw [isTruthy, isTruthy, Number.isZero_congr equal]
  · rfl
  · rfl

theorem natural?_congr (h : x.equal y = true) : x.natural? = y.natural? := by
  obtain rfl | ⟨n, m, rfl, rfl, equal⟩ | ⟨xs, ys, rfl, rfl⟩ | ⟨xs, ys, rfl, rfl⟩ := equal_cases h
  · rfl
  · exact Number.natural?_congr equal
  · rfl
  · rfl

theorem string?_congr (h : x.equal y = true) : x.string? = y.string? := by
  obtain rfl | ⟨n, m, rfl, rfl, -⟩ | ⟨xs, ys, rfl, rfl⟩ | ⟨xs, ys, rfl, rfl⟩ := equal_cases h <;> rfl

theorem bool?_congr (h : x.equal y = true) : x.bool? = y.bool? := by
  obtain rfl | ⟨n, m, rfl, rfl, -⟩ | ⟨xs, ys, rfl, rfl⟩ | ⟨xs, ys, rfl, rfl⟩ := equal_cases h <;> rfl

/-! ### Equal objects -/

/-- What holds of each member of an object holds of each member of an equal one, if it holds of
equal members alike. -/
theorem forall_members_congr {P Q : String × Json → Prop} (hx : (object xs).isWellKeyed = true)
    (hy : (object ys).isWellKeyed = true) (h : (object xs).equal (object ys) = true)
    (same : ∀ key v w, (key, v) ∈ xs → (key, w) ∈ ys → v.equal w = true → (P (key, v) ↔ Q (key, w))) :
    (∀ member ∈ xs, P member) ↔ ∀ member ∈ ys, Q member := by
  obtain ⟨sameLength, found⟩ := equal_object_object.mp h
  have distinct := (isWellKeyed_object.mp hx).1
  have distinct' := (isWellKeyed_object.mp hy).1
  constructor
  · intro all member mem
    obtain ⟨v, inX, equal⟩ := exists_partner distinct distinct' sameLength found mem
    exact (same _ v _ inX mem equal).mp (all _ inX)
  · intro all member mem
    obtain ⟨w, inY, equal⟩ := found member mem
    have inY := Document.mem_of_get? inY
    exact (same _ _ w mem inY equal).mpr (all _ inY)

/-- A key of equal objects reaches equal values, which no reading that respects equality tells
apart. -/
theorem bind_get?_congr {α : Type} {read : Json → Option α} (hx : (object xs).isWellKeyed = true)
    (hy : (object ys).isWellKeyed = true) (h : (object xs).equal (object ys) = true)
    (respects : ∀ v w : Json, v.equal w = true → read v = read w) (key : String) :
    (Document.get? xs key).bind read = (Document.get? ys key).bind read := by
  obtain ⟨sameLength, found⟩ := equal_object_object.mp h
  have distinct := (isWellKeyed_object.mp hx).1
  have distinct' := (isWellKeyed_object.mp hy).1
  cases left : Document.get? xs key with
  | some v =>
      obtain ⟨w, right, equal⟩ := found _ (Document.mem_of_get? left)
      rw [right, Option.bind_some, Option.bind_some, respects v w equal]
  | none =>
      cases right : Document.get? ys key with
      | none => rfl
      | some w =>
          obtain ⟨v, inX, -⟩ := exists_partner distinct distinct' sameLength found
            (Document.mem_of_get? right)
          rw [Document.get?_of_mem distinct inX] at left
          cases left

theorem isOperatorMap_congr (hx : x.isWellKeyed = true) (hy : y.isWellKeyed = true)
    (h : x.equal y = true) : x.isOperatorMap = y.isOperatorMap := by
  cases x with
  | object xs =>
      obtain ⟨ys, rfl, sameLength, -⟩ := equal_object.mp h
      have empty : xs.isEmpty = ys.isEmpty := by
        rw [Bool.eq_iff_iff, List.isEmpty_iff_length_eq_zero, List.isEmpty_iff_length_eq_zero,
          sameLength]
      have dollar := forall_members_congr (P := fun member => isDollarKey member.1 = true)
        (Q := fun member => isDollarKey member.1 = true) hx hy h fun _ _ _ _ _ _ => Iff.rfl
      rw [isOperatorMap, isOperatorMap, empty, Bool.eq_iff_iff]
      simp only [Bool.and_eq_true, List.all_eq_true, dollar]
  | _ => cases y <;> first | rfl | simp [equal] at h

end Json

/-! ### Tests with equal operands -/

section Tests

variable {x y : Json} {path : String}

theorem any_equalsSome_congr {xs ys : List Json} (hx : ∀ x ∈ xs, x.isWellKeyed = true)
    (hy : ∀ y ∈ ys, y.isWellKeyed = true) (h : List.Forall₂ (fun x y => x.equal y = true) xs ys)
    (values : List Json) : xs.map (equalsSome values) = ys.map (equalsSome values) := by
  induction h with
  | nil => rfl
  | cons head _ ih =>
      rw [List.map_cons, List.map_cons,
        Json.equalsSome_congr (hx _ List.mem_cons_self) (hy _ List.mem_cons_self) head,
        ih (fun x mem => hx x (List.mem_cons_of_mem _ mem))
          fun y mem => hy y (List.mem_cons_of_mem _ mem)]

/-- An operator gives tests that hold alike for equal operands. -/
theorem FieldTest.ofOperator_congr [PatternReader] (hx : x.isWellKeyed = true)
    (hy : y.isWellKeyed = true)
    (h : x.equal y = true) {ops : Document} {op : Operator} {t u : FieldTest}
    (left : FieldTest.ofOperator path ops op x = .ok t)
    (right : FieldTest.ofOperator path ops op y = .ok u) (values : List Json) :
    t.holds values = u.holds values := by
  have operands : ∀ {items others}, operandList path op.native x = .ok items →
      operandList path op.native y = .ok others →
      items.map (equalsSome values) = others.map (equalsSome values) ∧
        items.length = others.length := by
    intro items others first second
    cases x <;> simp only [operandList, Except.ok.injEq, reduceCtorEq] at first
    subst first
    obtain ⟨ys, rfl, same⟩ := Json.equal_array.mp h
    simp only [operandList, Except.ok.injEq] at second
    subst second
    rw [Json.isWellKeyed_array] at hx hy
    exact ⟨any_equalsSome_congr hx hy same values, same.length_eq⟩
  cases op with
  | eq | ne | gt | gte | lt | lte =>
      simp only [ofOperator, Except.ok.injEq] at left right
      subst left right
      simp only [holds, Json.equalsSome_congr hx hy h, Json.comparison_congr h]
  | isIn | notIn =>
      simp only [ofOperator, Except.map_eq_ok_iff] at left right
      obtain ⟨items, first, rfl⟩ := left
      obtain ⟨others, second, rfl⟩ := right
      have same := congrArg (List.any · id) (operands first second).1
      simpa [holds, List.any_map] using same
  | all =>
      simp only [ofOperator, Except.map_eq_ok_iff] at left right
      obtain ⟨items, first, rfl⟩ := left
      obtain ⟨others, second, rfl⟩ := right
      have same := congrArg (List.all · id) (operands first second).1
      have empty : items.isEmpty = others.isEmpty := by
        rw [Bool.eq_iff_iff, List.isEmpty_iff_length_eq_zero, List.isEmpty_iff_length_eq_zero,
          (operands first second).2]
      simp only [List.all_map, Function.id_comp] at same
      rw [holds, holds, empty, same]
  | «exists» =>
      simp only [ofOperator, Except.ok.injEq] at left right
      subst left right
      rw [Json.isTruthy_congr h]
  | regex =>
      cases x <;> simp only [ofOperator, reduceCtorEq] at left
      rw [← Json.equal_string.mp h] at right
      rw [← Except.ok_unique left right]
  | size =>
      simp only [ofOperator, ← Json.natural?_congr h] at left right
      rw [← Except.ok_unique left right]
  | elemMatch => simp [ofOperator] at left

end Tests

/-! ### Equal values as clauses, items and operands -/

/-- Two values that mean the same wherever both of them compile. -/
structure Json.Interchangeable [PatternReader] (x y : Json) : Prop where
  clause : ∀ {fields key p q}, compileClause fields key x = .ok p →
    compileClause fields key y = .ok q → ∀ doc, p.matchesDocument doc = q.matchesDocument doc
  item : ∀ {fields key p q}, compileItem fields key x = .ok p →
    compileItem fields key y = .ok q → ∀ doc, p.matchesDocument doc = q.matchesDocument doc
  element : ∀ {path t u}, compileElement path x = .ok t → compileElement path y = .ok u →
    ∀ values, t.holds values = u.holds values

/-- How a logical key combines the filters that it is given. -/
def combine (key : String) (parts : List Predicate) : Predicate :=
  if key = "$and" then .allOf parts else if key = "$or" then .anyOf parts else .noneOf parts

/-- A clause with a dollar key compiles in two ways: a logical key with a list of filters, and a
text search. -/
theorem compileClause_dollar [PatternReader] {fields : List String} {key : String}
    (dollar : isDollarKey key = true)
    {value : Json} {p : Predicate} (compiled : compileClause fields key value = .ok p) :
    (∃ items parts, value = .array items ∧ compileItems fields key items = .ok parts ∧
      p = combine key parts) ∨
    ∃ members query, value = .object members ∧ key = "$text" ∧
      TextQuery.ofClause (.object members) = .ok query ∧ p = .text (.ofQuery query fields) := by
  cases value with
  | array items =>
      rw [compileClause] at compiled
      split at compiled
      · split at compiled
        · cases compiled
        · obtain ⟨parts, h, rfl⟩ := by simpa [Except.bind_eq_ok_iff] using compiled
          exact .inl ⟨items, parts, rfl, h, rfl⟩
      · split at compiled <;> cases compiled
  | object members =>
      rw [compileClause] at compiled
      split at compiled
      · cases compiled
      · split at compiled
        · next isText =>
            obtain ⟨query, h, rfl⟩ := Except.map_eq_ok_iff.mp compiled
            exact .inr ⟨members, query, rfl, isText, h, rfl⟩
        · cases compiled
  | _ =>
      simp only [compileClause, dollar, if_true] at compiled
      split at compiled
      · cases compiled
      · split at compiled <;> cases compiled

theorem TextQuery.ofClause_congr {x y : Json} (hx : x.isWellKeyed = true) (hy : y.isWellKeyed = true)
    (h : x.equal y = true) : TextQuery.ofClause x = TextQuery.ofClause y := by
  cases x with
  | object xs =>
      obtain ⟨ys, rfl, -⟩ := Json.equal_object.mp h
      have strings := Json.bind_get?_congr hx hy h fun _ _ => Json.string?_congr
      have flags := Json.bind_get?_congr hx hy h fun _ _ => Json.bool?_congr
      simp only [ofClause, Json.object?, strings, flags]
  | _ => cases y <;> first | rfl | simp [Json.equal] at h

section Congruence

variable {fields : List String} {key : String}

/-- Lists of filters with equal items combine to the same, given that for their items. -/
theorem compileItems_congr [PatternReader] {items others : List Json}
    (h : List.Forall₂ (fun x y => x.equal y = true) items others)
    (hy : ∀ y ∈ others, y.isWellKeyed = true)
    (same : ∀ x ∈ items, ∀ y, y.isWellKeyed = true → x.equal y = true → x.Interchangeable y)
    {ps qs : List Predicate} (left : compileItems fields key items = .ok ps)
    (right : compileItems fields key others = .ok qs) (doc : Document) :
    ps.map (·.matchesDocument doc) = qs.map (·.matchesDocument doc) := by
  rw [compileItems_ok_iff] at left right
  induction h generalizing ps qs with
  | nil =>
      cases left
      cases right
      rfl
  | cons head _ ih =>
      obtain ⟨p, ps, compiledX, lefts, rfl⟩ := List.forall₂_cons_left_iff.mp left
      obtain ⟨q, qs, compiledY, rights, rfl⟩ := List.forall₂_cons_left_iff.mp right
      have first := (same _ List.mem_cons_self _ (hy _ List.mem_cons_self) head).item compiledX
        compiledY doc
      have others := ih (fun y mem => hy y (List.mem_cons_of_mem _ mem))
        (fun x mem => same x (List.mem_cons_of_mem _ mem)) lefts rights
      rw [List.map_cons, List.map_cons, first, others]

theorem combine_congr {ps qs : List Predicate} {doc : Document}
    (same : ps.map (·.matchesDocument doc) = qs.map (·.matchesDocument doc)) :
    (combine key ps).matchesDocument doc = (combine key qs).matchesDocument doc := by
  have all := congrArg (List.all · id) same
  have any := congrArg (List.any · id) same
  simp only [List.all_map, List.any_map, Function.id_comp] at all any
  rw [combine, combine]
  split
  · rw [Predicate.matchesDocument_allOf, Predicate.matchesDocument_allOf, all]
  · split
    · rw [Predicate.matchesDocument_anyOf, Predicate.matchesDocument_anyOf, any]
    · rw [Predicate.matchesDocument_noneOf, Predicate.matchesDocument_noneOf, any]

theorem Json.Interchangeable.refl [PatternReader] (x : Json) : x.Interchangeable x where
  clause left right _ := by rw [Except.ok_unique left right]
  item left right _ := by rw [Except.ok_unique left right]
  element left right _ := by rw [Except.ok_unique left right]

/-- Clauses with equal literals match the same documents. -/
theorem compileClause_literal_congr [PatternReader] {x y : Json} (hx : x.isWellKeyed = true)
    (hy : y.isWellKeyed = true) (h : x.equal y = true) (path : isDollarKey key = false)
    (literal : x.isOperatorMap = false) {p q : Predicate}
    (left : compileClause fields key x = .ok p) (right : compileClause fields key y = .ok q)
    (doc : Document) : p.matchesDocument doc = q.matchesDocument doc := by
  have literal' : y.isOperatorMap = false := Json.isOperatorMap_congr hx hy h ▸ literal
  rw [compileClause_path path, Json.operators?, literal] at left
  rw [compileClause_path path, Json.operators?, literal'] at right
  cases left
  cases right
  exact Json.equalsSome_congr hx hy h _

section Members

variable [PatternReader] {xs ys : List (String × Json)} (hx : (Json.object xs).isWellKeyed = true)
  (hy : (Json.object ys).isWellKeyed = true) (h : (Json.object xs).equal (.object ys) = true)
  (same : ∀ member ∈ xs, ∀ w, w.isWellKeyed = true → member.2.equal w = true →
    member.2.Interchangeable w)

include hx hy h same

/-- Filters with equal members match the same documents, given that for their members. -/
theorem compile_members_congr {p q : Predicate} (left : Predicate.compile xs fields = .ok p)
    (right : Predicate.compile ys fields = .ok q) (doc : Document) :
    p.matchesDocument doc = q.matchesDocument doc := by
  rw [Bool.eq_iff_iff, Predicate.matchesDocument_iff left, Predicate.matchesDocument_iff right]
  refine Json.forall_members_congr hx hy h fun key v w inX inY equal => ?_
  obtain ⟨pv, compiledV⟩ := Predicate.exists_compile_iff.mp ⟨p, left⟩ _ inX
  obtain ⟨pw, compiledW⟩ := Predicate.exists_compile_iff.mp ⟨q, right⟩ _ inY
  have wellKeyed := (Json.isWellKeyed_object.mp hy).2 _ inY
  have matching := (same _ inX w wellKeyed equal).clause compiledV compiledW doc
  rw [Clause.Accepts, Clause.Accepts]
  simp only [compiledV, compiledW, Except.ok.injEq, exists_eq_left', matching]

/-- Operator maps with equal members hold of the same values, given that for their members. -/
theorem compileOperators_members_congr {path : String} {ts us : List FieldTest}
    (left : compileOperators path xs xs = .ok ts) (right : compileOperators path ys ys = .ok us) (values : List Json) :
    (FieldTest.ofList ts).holds values = (FieldTest.ofList us).holds values := by
  rw [FieldTest.holds_ofList, FieldTest.holds_ofList, Bool.eq_iff_iff,
    OperatorClause.holds_iff left, OperatorClause.holds_iff right]
  refine Json.forall_members_congr hx hy h fun op v w inX inY equal => ?_
  have sameOptions : optionsOf xs = optionsOf ys :=
    Json.bind_get?_congr hx hy h (fun _ _ => Json.string?_congr) "$options"
  have readAlike : OperatorClause.Accepts path xs values (op, v) ↔
      OperatorClause.Accepts path ys values (op, v) :=
    OperatorClause.accepts_congr fun _ => sameOptions
  rw [readAlike]
  by_cases isOptions : op = "$options"
  · simp [OperatorClause.Accepts, isOptions]
  · obtain ⟨t, compiledV⟩ := OperatorClause.exists_compile_iff.mp ⟨ts, left⟩ _ inX isOptions
    obtain ⟨u, compiledW⟩ := OperatorClause.exists_compile_iff.mp ⟨us, right⟩ _ inY isOptions
    rw [operatorTest_congr fun _ => sameOptions] at compiledV
    have wellKeyedV := (Json.isWellKeyed_object.mp hx).2 _ inX
    have wellKeyedW := (Json.isWellKeyed_object.mp hy).2 _ inY
    have holds : t.holds values = u.holds values := by
      rw [operatorTest] at compiledV compiledW
      cases known : compiledOperator? op with
      | none => simp [known] at compiledV
      | some op =>
          simp only [known] at compiledV compiledW
          -- an element test is compiled from filters, any other operator from a value
          cases op with
          | elemMatch => exact (same _ inX w wellKeyedW equal).element compiledV compiledW values
          | _ =>
              exact FieldTest.ofOperator_congr wellKeyedV wellKeyedW equal compiledV compiledW values
    simp only [OperatorClause.Accepts, compiledV, compiledW, Except.ok.injEq, exists_eq_left', holds]

/-- Clauses with equal objects match the same documents, given that for their members. -/
theorem compileClause_object_congr {p q : Predicate}
    (left : compileClause fields key (.object xs) = .ok p)
    (right : compileClause fields key (.object ys) = .ok q) (doc : Document) :
    p.matchesDocument doc = q.matchesDocument doc := by
  cases dollar : isDollarKey key with
  | true =>
      obtain ⟨_, _, ⟨⟩, _⟩ | ⟨_, _, ⟨⟩, _, queryX, rfl⟩ := compileClause_dollar dollar left
      obtain ⟨_, _, ⟨⟩, _⟩ | ⟨_, _, ⟨⟩, _, queryY, rfl⟩ := compileClause_dollar dollar right
      rw [TextQuery.ofClause_congr hx hy h] at queryX
      rw [Except.ok_unique queryX queryY]
  | false =>
      have sameKind := Json.isOperatorMap_congr hx hy h
      cases kind : (Json.object xs).isOperatorMap with
      | false => exact compileClause_literal_congr hx hy h dollar kind left right doc
      | true =>
          rw [compileClause_path dollar, Json.operators?, kind] at left
          rw [compileClause_path dollar, Json.operators?, ← sameKind, kind] at right
          obtain ⟨ts, compiledX, rfl⟩ := Except.map_eq_ok_iff.mp left
          obtain ⟨us, compiledY, rfl⟩ := Except.map_eq_ok_iff.mp right
          exact compileOperators_members_congr hx hy h same compiledX compiledY _

/-- Element tests with equal objects hold of the same values, given that for their members. -/
theorem compileElement_object_congr {path : String} {t u : FieldTest}
    (left : compileElement path (.object xs) = .ok t)
    (right : compileElement path (.object ys) = .ok u) (values : List Json) :
    t.holds values = u.holds values := by
  have sameKind := Json.isOperatorMap_congr hx hy h
  cases kind : (Json.object xs).isOperatorMap with
  | true =>
      rw [compileElement, if_pos kind] at left
      rw [compileElement, if_pos (sameKind ▸ kind)] at right
      obtain ⟨ts, compiledX, rfl⟩ := Except.map_eq_ok_iff.mp left
      obtain ⟨us, compiledY, rfl⟩ := Except.map_eq_ok_iff.mp right
      simp only [FieldTest.holds, compileOperators_members_congr hx hy h same compiledX compiledY]
  | false =>
      rw [compileElement, if_neg (by rw [kind]; decide)] at left
      rw [compileElement, if_neg (by rw [← sameKind, kind]; decide)] at right
      obtain ⟨ps, compiledX, rfl⟩ := Except.map_eq_ok_iff.mp left
      obtain ⟨qs, compiledY, rfl⟩ := Except.map_eq_ok_iff.mp right
      have matching := compile_members_congr hx hy h same
        (Predicate.compile_ok_iff.mpr ⟨ps, compiledX, rfl⟩)
        (Predicate.compile_ok_iff.mpr ⟨qs, compiledY, rfl⟩)
      simp only [Predicate.matchesDocument] at matching
      simp only [FieldTest.holds, matching]

end Members

/-- **Equal values are interchangeable.** -/
theorem Json.interchangeable_of_equal [PatternReader] {x y : Json} (hx : x.isWellKeyed = true)
    (hy : y.isWellKeyed = true) (h : x.equal y = true) : x.Interchangeable y := by
  -- a scalar or an array compiles neither as an item of a logical key nor as an element test
  induction x using inductionOn generalizing y with
  | null => exact equal_null.mp h ▸ .refl _
  | bool b => exact equal_bool.mp h ▸ .refl _
  | string s => exact equal_string.mp h ▸ .refl _
  | number n =>
      refine ⟨fun {fields key p q} left right => ?_, fun left => ?_, fun left => ?_⟩
      · cases dollar : isDollarKey key with
        | false => exact compileClause_literal_congr hx hy h dollar rfl left right
        | true =>
            obtain ⟨_, _, shape, _⟩ | ⟨_, _, shape, _⟩ := compileClause_dollar dollar left <;>
              cases shape
      · simp [compileItem] at left
      · simp [compileElement] at left
  | array items ih =>
      obtain ⟨others, rfl, same⟩ := equal_array.mp h
      have ih : ∀ x ∈ items, ∀ y : Json, y.isWellKeyed = true → x.equal y = true →
          x.Interchangeable y := fun x mem y wellKeyed equal =>
        ih x mem (isWellKeyed_array.mp hx x mem) wellKeyed equal
      refine ⟨fun {fields key p q} left right doc => ?_, fun left => ?_, fun left => ?_⟩
      · cases dollar : isDollarKey key with
        | false => exact compileClause_literal_congr hx hy h dollar rfl left right doc
        | true =>
            obtain ⟨_, ps, ⟨⟩, partsX, rfl⟩ | ⟨_, _, ⟨⟩, _⟩ := compileClause_dollar dollar left
            obtain ⟨_, qs, ⟨⟩, partsY, rfl⟩ | ⟨_, _, ⟨⟩, _⟩ := compileClause_dollar dollar right
            exact combine_congr
              (compileItems_congr same (isWellKeyed_array.mp hy) ih partsX partsY doc)
      · simp [compileItem] at left
      · simp [compileElement] at left
  | object xs ih =>
      obtain ⟨ys, rfl, -⟩ := equal_object.mp h
      have ih : ∀ member ∈ xs, ∀ w : Json, w.isWellKeyed = true → member.2.equal w = true →
          member.2.Interchangeable w := fun member mem w wellKeyed equal =>
        ih member mem ((isWellKeyed_object.mp hx).2 member mem) wellKeyed equal
      exact ⟨compileClause_object_congr hx hy h ih, compile_members_congr hx hy h ih,
        compileElement_object_congr hx hy h ih⟩

end Congruence

/-- **Equal clauses accept the same documents**, if both compile. -/
theorem Clause.accepts_congr [PatternReader] {fields : List String} {key : String} {x y : Json}
    {doc : Document} (hx : x.isWellKeyed = true) (hy : y.isWellKeyed = true) (h : x.equal y = true)
    (left : Clause.Compiles fields (key, x)) (right : Clause.Compiles fields (key, y)) :
    Clause.Accepts fields doc (key, x) ↔ Clause.Accepts fields doc (key, y) := by
  obtain ⟨p, compiledX⟩ := left
  obtain ⟨q, compiledY⟩ := right
  have same := (Json.interchangeable_of_equal hx hy h).clause compiledX compiledY doc
  rw [Clause.Accepts, Clause.Accepts]
  simp only [compiledX, compiledY, Except.ok.injEq, exists_eq_left', same]

end DocQuery
