import DocQuery.Proofs.Sql.Blanks
import DocQuery.Proofs.Sql.Conditions

/-!
# Conditions of blanked operands

The condition of an operand is alike to that of the blanked operand: its text comes from a template
in which the operand is a literal and everything else is the expression of the field.

## Main definitions

* `Sql.alike_equalTo`, `Sql.alike_comparedTo`, `Sql.alike_matchesPattern`: tests of one operand
* `Sql.related_operatorCondition`: every operator, whether it takes the operand or not
-/

namespace DocQuery.Sql

variable {expr : String} (closed : Closed expr)

include closed

/-! ### Templates -/

theorem alike_equalTo (operand : Json) :
    (equalTo expr operand).Alike (equalTo expr operand.blanked) := by
  have literal (a b a' b' : String) : Expr.Alike
      (.fragment [.plain s!"({expr} = ", .literal a,
        .plain s!"::jsonb OR (jsonb_typeof({expr}) = 'array' AND {expr} @> ", .literal b,
        .plain "::jsonb))"])
      (.fragment [.plain s!"({expr} = ", .literal a',
        .plain s!"::jsonb OR (jsonb_typeof({expr}) = 'array' AND {expr} @> ", .literal b',
        .plain "::jsonb))"]) := by
    have equals : Leads Place.isSettled " = " Place.isReady := .settled (by decide)
    have kind : Leads Place.isSettled "::jsonb OR (jsonb_typeof(" Place.isReady :=
      .settled (by decide)
    have isArray : Leads Place.isSettled ") = 'array' AND " Place.isReady := .settled (by decide)
    have contains : Leads Place.isSettled " @> " Place.isReady := .settled (by decide)
    have closing : Leads Place.isSettled "::jsonb))" Place.isSettled := .settled (by decide)
    have member := (((kind.append closed).append isArray).append closed).append contains
    exact .fragment (.plain_cons ((Leads.opening.append closed).append equals)
      (.literal_cons (.plain_cons member (.literal_cons (.plain closing)))))
  cases operand with
  | null =>
      have missing : Leads Place.isSettled " IS NULL OR " Place.isReady := .settled (by decide)
      have isNull : Leads Place.isSettled " = 'null'::jsonb)" Place.isSettled :=
        .settled (by decide)
      exact .plain ((((Leads.opening.append closed).append missing).append closed).append isNull)
  | _ => exact literal _ _ _ _

theorem alike_comparedTo {symbol : String} (closedSymbol : Closed symbol)
    (operand other : Json) :
    (comparedTo expr symbol operand).Alike (comparedTo expr symbol other) := by
  have sameKind : Leads Place.isSettled ") = jsonb_typeof(" Place.isReady := .settled (by decide)
  have conjunction : Leads Place.isSettled "::jsonb) AND " Place.isReady := .settled (by decide)
  have closing : Leads Place.isSettled "::jsonb)" Place.isSettled := .settled (by decide)
  have tested := ((conjunction.append closed).append Leads.blank).append closedSymbol
  exact .fragment (.plain_cons ((Leads.typeOf.append closed).append sameKind)
    (.literal_cons (.plain_cons (tested.append Leads.blank) (.literal_cons (.plain closing)))))

omit closed in
theorem closed_textAt (closed : Closed expr) : Closed (textAt expr) := by
  have path : Leads Place.isSettled " #>> '\x7b\x7d'" Place.isSettled := .settled (by decide)
  exact closed.append path

theorem alike_matchesPattern (ignoreCase : Bool) (pattern other : String) :
    (matchesPattern expr ignoreCase pattern).Alike (matchesPattern expr ignoreCase other) := by
  have isString : Leads Place.isSettled ") = 'string' AND (" Place.isReady := .settled (by decide)
  have parenthesis : Leads Place.isSettled ") " Place.isReady := .settled (by decide)
  have symbol : Closed (if ignoreCase then "~*" else "~") := by
    cases ignoreCase <;> exact .ready (by decide)
  have text := ((Leads.typeOf.append closed).append isString).append (closed_textAt closed)
  exact .fragment (.plain_cons (((text.append parenthesis).append symbol).append Leads.blank)
    (.literal_cons (.plain Leads.closing)))

theorem alike_someElement {condition other : Expr} (alike : condition.Alike other) :
    (someElement expr condition).Alike (someElement expr other) := by
  have opening : Leads Place.isReady
      "EXISTS (SELECT 1 FROM jsonb_array_elements(CASE WHEN jsonb_typeof(" Place.isReady :=
    .ready (by decide)
  have blank : Leads Place.isSettled ") " Place.isReady := .settled (by decide)
  have isArray : Leads Place.isReady "= 'array' THEN " Place.isReady := .ready (by decide)
  have otherwise : Leads Place.isSettled " ELSE '[]'::jsonb END) AS elem(value) WHERE "
      Place.isReady := .settled (by decide)
  have text := ((opening.append closed).append blank).append
    ((isArray.append closed).append otherwise)
  exact .fragment (.plain_cons text (alike.render.append (.plain Leads.closing)))

/-! ### Operators -/

theorem forall₂_equalTo (items : List Json) : List.Forall₂ Expr.Alike
    (items.map (equalTo expr)) ((blankedItems items).map (equalTo expr)) := by
  induction items with
  | nil => exact .nil
  | cons item rest ih => exact .cons (alike_equalTo closed item) ih

omit closed in
theorem isEmpty_blankedItems (items : List Json) :
    (blankedItems items).isEmpty = items.isEmpty := by
  cases items <;> rfl

theorem alike_equalToAny (items : List Json) :
    (equalToAny expr items).Alike (equalToAny expr (blankedItems items)) := by
  rw [equalToAny, equalToAny, isEmpty_blankedItems]
  split
  · exact .plain (.ready (by decide))
  · exact .join _ (forall₂_equalTo closed items)

theorem alike_equalToAll (items : List Json) :
    (equalToAll expr items).Alike (equalToAll expr (blankedItems items)) := by
  rw [equalToAll, equalToAll, isEmpty_blankedItems]
  split
  · exact .plain (.ready (by decide))
  · exact .join _ (forall₂_equalTo closed items)

theorem closed_isNull : Closed s!"{expr} IS NULL" := by
  have missing : Leads Place.isSettled " IS NULL" Place.isSettled := .settled (by decide)
  exact closed.append missing

omit closed in
theorem matchesNone_of_mem {matched : Expr} {operands : List Json} (null : .null ∈ operands) :
    matchesNone expr matched operands = .negated matched := by
  rw [matchesNone, if_pos (List.any_eq_true.mpr ⟨.null, null, rfl⟩)]

omit closed in
theorem matchesNone_of_notMem {matched : Expr} {operands : List Json} (noNull : .null ∉ operands) :
    matchesNone expr matched operands =
      .join .any [.plain s!"{expr} IS NULL", .negated matched] := by
  rw [matchesNone, if_neg]
  rw [List.any_eq_true]
  rintro ⟨operand, mem, isNull⟩
  cases operand with
  | null => exact noNull mem
  | _ => cases isNull

omit closed in
theorem null_mem_blankedItems {items : List Json} : .null ∈ blankedItems items ↔ .null ∈ items := by
  rw [blankedItems_eq_map, List.mem_map]
  constructor
  · rintro ⟨item, mem, isNull⟩
    cases item with
    | null => exact mem
    | _ => cases isNull
  · exact fun mem => ⟨.null, mem, rfl⟩

theorem alike_matchesNone {matched other : Expr} (alike : matched.Alike other) (items : List Json) :
    (matchesNone expr matched items).Alike (matchesNone expr other (blankedItems items)) := by
  by_cases null : .null ∈ items
  · rw [matchesNone_of_mem null, matchesNone_of_mem (null_mem_blankedItems.mpr null)]
    exact .negated alike
  · rw [matchesNone_of_notMem null, matchesNone_of_notMem (mt null_mem_blankedItems.mp null)]
    exact .join _ (.cons (.plain (closed_isNull closed)) (.cons (.negated alike) .nil))

omit closed in
/-- An operand is an array exactly if the blanked one is. -/
theorem related_elements (op : Operator) (operand : Json) :
    Except.Related (fun items others => others = blankedItems items)
      (elements op operand) (elements op operand.blanked) := by
  cases operand with
  | array items => exact .ok rfl
  | _ => exact .error _

/-- **Blanking an operand changes neither whether its operator takes it nor the shape of the
condition.** -/
theorem related_operatorCondition {ops ops' : Document}
    (sameOptions : optionsOf ops = optionsOf ops') (op : Operator) (operand : Json) :
    Except.Related (Option.Rel Expr.Alike) (operatorCondition expr ops op operand)
      (operatorCondition expr ops' op operand.blanked) := by
  have symbol {s : String} (ends : (scan .between s.toList).1.isSettled = true) :
      Closed s := .ready ends
  cases op with
  | eq => exact .ok (.some (alike_equalTo closed operand))
  | ne => exact .ok (.some (alike_matchesNone closed (alike_equalTo closed operand) [operand]))
  | gt => exact .ok (.some (alike_comparedTo closed (symbol (by decide)) _ _))
  | gte => exact .ok (.some (alike_comparedTo closed (symbol (by decide)) _ _))
  | lt => exact .ok (.some (alike_comparedTo closed (symbol (by decide)) _ _))
  | lte => exact .ok (.some (alike_comparedTo closed (symbol (by decide)) _ _))
  | isIn =>
      refine (related_elements _ operand).map ?_
      rintro items _ rfl
      exact .some (alike_equalToAny closed items)
  | notIn =>
      refine (related_elements _ operand).map ?_
      rintro items _ rfl
      rw [isEmpty_blankedItems]
      split
      · exact .none
      · exact .some (alike_matchesNone closed (alike_equalToAny closed items) items)
  | all =>
      refine (related_elements _ operand).map ?_
      rintro items _ rfl
      exact .some (alike_equalToAll closed items)
  | «exists» =>
      have sameTruth : operand.blanked.isTruthy = operand.isTruthy := by cases operand <;> rfl
      have present : Closed s!"{expr} IS NOT NULL" := by
        have isPresent : Leads Place.isSettled " IS NOT NULL" Place.isSettled :=
          .settled (by decide)
        exact closed.append isPresent
      simp only [operatorCondition, sameTruth]
      split
      · exact .ok (.some (.plain present))
      · exact .ok (.some (.plain (closed_isNull closed)))
  | regex =>
      cases operand with
      | string pattern =>
          rw [optionsOf, optionsOf] at sameOptions
          simp only [operatorCondition, Json.blanked, sameOptions]
          exact .ok (.some (alike_matchesPattern closed _ _ _))
      | _ => exact .error _
  | size =>
      have sameCount : operand.blanked.natural? = operand.natural? := by cases operand <;> rfl
      simp only [operatorCondition, sameCount]
      split
      · next n _ =>
          have isArray :
              Leads Place.isSettled ") = 'array' AND jsonb_array_length(" Place.isReady :=
            .settled (by decide)
          have equals : Leads Place.isSettled ") = " Place.isReady := .settled (by decide)
          have counted := ((Leads.typeOf.append closed).append isArray).append closed
          exact .ok (.some (.plain
            (((counted.append equals).append (closed_toString n)).append Leads.closing)))
      · exact .error _
  | elemMatch => exact .error _

end DocQuery.Sql
