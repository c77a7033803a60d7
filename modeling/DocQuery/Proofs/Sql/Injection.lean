import DocQuery.Proofs.Sql.Acceptance
import DocQuery.Proofs.Sql.TextSearch

/-!
# Strings of clients do not change the shape of a statement

Two queries that are the same but for the strings of their data are both refused, with one message,
or both have statements, and then the statements have one shape.  Each of the two is compared with
the query whose data strings are empty.

The induction is on values.  As for the predicates in memory a value has four readings, and for each
of them the outcome is related to the outcome for the blanked value: the same refusal, or alike
conditions.

## Main definitions

* `Json.Blankable`: in each reading, blanking a value gives an alike condition
* `Sql.related_compileFilter`, `Sql.related_select`
* `shape_select_congr`
-/

namespace DocQuery

open Except (Related)

/-- A value for which, in each reading, blanking leaves a refusal as it is and a condition alike. -/
structure Json.Blankable (value : Json) : Prop where
  clause : ∀ {fields top key}, Related Sql.Expr.Alike (Sql.compileMember fields top key value)
    (Sql.compileMember fields top key (blankedClause key value))
  alternative : ∀ {fields key}, Related Sql.Expr.Alike (Sql.compileAlternative fields key value)
    (Sql.compileAlternative fields key (blankedAlternative value))
  fieldTest : ∀ {key expr}, isDollarKey key = false → Sql.Closed expr →
    Related Sql.Expr.Alike (Sql.compileFieldTest expr value)
      (Sql.compileFieldTest expr (blankedClause key value))
  element : ∀ {expr}, Sql.Closed expr →
    Related (Option.Rel Sql.Expr.Alike) (Sql.compileElementTest expr value)
      (Sql.compileElementTest expr (blankedElement value))

namespace Sql

variable {fields : List String} {top : Bool} {key expr : String} {value : Json}
  {members ops : List (String × Json)} {items : List Json}

/-! ### Operator maps and element tests -/

section Members

variable (blankable : ∀ member ∈ members, member.2.Blankable)

theorem related_operatorPart (closed : Closed expr) {ops ops' : Document}
    (sameOptions : optionsOf ops = optionsOf ops') {operand : Json}
    (blankable : operand.Blankable) :
    Related (Option.Rel Expr.Alike) (operatorPart expr ops (key, operand))
      (operatorPart expr ops'
        (key, if key = "$elemMatch" then blankedElement operand else operand.blanked)) := by
  cases known : compiledOperator? key with
  | none =>
      simp only [operatorPart, known]
      exact .error _
  | some op =>
      obtain rfl : op.native = key := compiledOperator?_eq_some known
      by_cases isElement : op = .elemMatch
      · subst isElement
        rw [show Operator.elemMatch.native = "$elemMatch" from rfl, if_pos rfl,
          operatorPart_elemMatch, operatorPart_elemMatch]
        exact blankable.element closed
      · have noElement : op.native ≠ "$elemMatch" := by
          cases op <;> first | exact absurd rfl isElement | decide
        rw [if_neg noElement, operatorPart_native isElement, operatorPart_native isElement]
        exact related_operatorCondition closed sameOptions op operand

include blankable

theorem related_compileOperatorMap (closed : Closed expr)
    {ops ops' : Document} (sameOptions : optionsOf ops = optionsOf ops') :
    Related (List.Forall₂ Expr.Alike) (compileOperatorMap expr ops members)
      (compileOperatorMap expr ops' (blankedOperators members)) := by
  induction members with
  | nil => exact .ok .nil
  | cons member rest ih =>
      rw [List.forall_mem_cons] at blankable
      have others := ih blankable.2
      by_cases isOptions : member.1 = "$options"
      · rw [blankedOperators, compileOperatorMap, compileOperatorMap, if_pos isOptions,
          if_pos isOptions]
        exact others
      · have test : (member.1, if member.1 = "$elemMatch" then blankedElement member.2
            else member.2.blanked).1 ≠ "$options" := isOptions
        rw [blankedOperators, if_neg isOptions, compileOperatorMap_cons isOptions,
          compileOperatorMap_cons test]
        refine (related_operatorPart closed sameOptions blankable.1).bind fun part part' alike => ?_
        refine others.bind fun conditions conditions' each => .ok ?_
        refine List.rel_append ?_ each
        cases alike with
        | none => exact .nil
        | some alike => exact .cons alike .nil

theorem related_compileFieldTest (closed : Closed expr) (path : isDollarKey key = false) :
    Related Expr.Alike (compileFieldTest expr (.object members))
      (compileFieldTest expr (blankedClause key (.object members))) := by
  have notText : key ≠ "$text" := by rintro rfl; exact absurd path (by decide)
  rw [blankedClause, if_neg notText]
  cases isMap : (Json.object members).isOperatorMap with
  | true =>
      rw [if_pos rfl, compileFieldTest, compileFieldTest, isOperatorMap_blankedOperators, isMap,
        if_pos rfl, if_pos rfl]
      exact (related_compileOperatorMap blankable closed optionsOf_blankedOperators.symm).map
        fun _ _ each => .join _ each
  | false =>
      rw [if_neg Bool.false_ne_true, compileFieldTest, compileFieldTest,
        isOperatorMap_blankedMembers, isMap, if_neg Bool.false_ne_true, if_neg Bool.false_ne_true]
      exact .ok (alike_equalTo closed (.object members))

theorem related_compileElementClauses :
    Related (List.Forall₂ Expr.Alike) (compileElementClauses members)
      (compileElementClauses (blankedFilter members)) := by
  induction members with
  | nil => exact .ok .nil
  | cons member rest ih =>
      rw [List.forall_mem_cons] at blankable
      rw [blankedFilter, compileElementClauses, compileElementClauses]
      split
      · exact .error _
      · next path =>
          have path : isDollarKey member.1 = false := by simpa using path
          have root : Closed "value" := .ready (by decide)
          refine (related_pathExpr root).bind ?_
          rintro expr _ ⟨rfl, closed⟩
          refine (blankable.1.fieldTest path closed).bind fun condition condition' alike => ?_
          exact (ih blankable.2).bind fun conditions conditions' each => .ok (.cons alike each)

theorem related_compileElementTest (closed : Closed expr) :
    Related (Option.Rel Expr.Alike) (compileElementTest expr (.object members))
      (compileElementTest expr (blankedElement (.object members))) := by
  rw [blankedElement]
  cases isMap : (Json.object members).isOperatorMap with
  | true =>
      have root : Closed "value" := .ready (by decide)
      rw [if_pos rfl, compileElementTest, compileElementTest, isOperatorMap_blankedOperators, isMap,
        if_pos rfl, if_pos rfl]
      exact (related_compileOperatorMap blankable root optionsOf_blankedOperators.symm).bind
        fun _ _ each => .ok (.some (alike_someElement closed (.join _ each)))
  | false =>
      rw [if_neg Bool.false_ne_true, compileElementTest, compileElementTest,
        isOperatorMap_blankedFilter, isMap, if_neg Bool.false_ne_true, if_neg Bool.false_ne_true]
      exact (related_compileElementClauses blankable).bind
        fun _ _ each => .ok (.some (alike_someElement closed (.join _ each)))

/-! ### Clauses -/

theorem related_compileMembers :
    Related (List.Forall₂ Expr.Alike) (compileMembers fields top members)
      (compileMembers fields top (blankedFilter members)) := by
  induction members with
  | nil => exact .ok .nil
  | cons member rest ih =>
      rw [List.forall_mem_cons] at blankable
      rw [blankedFilter, compileMembers, compileMembers]
      exact blankable.1.clause.bind fun condition condition' alike =>
        (ih blankable.2).bind fun conditions conditions' each => .ok (.cons alike each)

end Members

/-- A clause that combines no filters, given the test of a field. -/
theorem related_compilePlain
    (fieldTest : ∀ {expr}, isDollarKey key = false → Closed expr →
      Related Expr.Alike (compileFieldTest expr value)
        (compileFieldTest expr (blankedClause key value))) :
    Related Expr.Alike (compilePlain fields top key value)
      (compilePlain fields top key (blankedClause key value)) := by
  unfold compilePlain
  split
  · exact .error _
  · split
    · next isText =>
        split
        · have query : Related (fun query other => other = { query with search := "" })
              (TextQuery.ofClause value) (TextQuery.ofClause (blankedClause key value)) := by
            rw [isText, ofClause_blankedClause]
            cases TextQuery.ofClause value with
            | error e => exact .error e
            | ok query => exact .ok rfl
          refine query.bind ?_
          rintro query _ rfl
          exact related_textCondition rfl
        · exact .error _
    · split
      · exact .error _
      · next path =>
          have path : isDollarKey key = false := by simpa using path
          refine (related_pathExpr closed_docColumn).bind ?_
          rintro expr _ ⟨rfl, closed⟩
          exact fieldTest path closed

theorem related_compileAlternatives (blankable : ∀ item ∈ items, item.Blankable) :
    Related (List.Forall₂ Expr.Alike) (compileAlternatives fields key items)
      (compileAlternatives fields key (blankedAlternatives items)) := by
  induction items with
  | nil => exact .ok .nil
  | cons item rest ih =>
      rw [List.forall_mem_cons] at blankable
      rw [blankedAlternatives, compileAlternatives, compileAlternatives]
      exact blankable.1.alternative.bind fun condition condition' alike =>
        (ih blankable.2).bind fun conditions conditions' each => .ok (.cons alike each)

theorem related_compileFieldTest_array (path : isDollarKey key = false) (closed : Closed expr) :
    Related Expr.Alike (compileFieldTest expr (.array items))
      (compileFieldTest expr (blankedClause key (.array items))) := by
  have noLogical : ¬Operator.logicalKeys.contains key = true := fun logical =>
    Bool.false_ne_true (path.symm.trans (isDollarKey_of_isLogical logical))
  rw [blankedClause, if_neg noLogical]
  exact .ok (alike_equalTo closed (.array items))

theorem related_compileMember_array (blankable : ∀ item ∈ items, item.Blankable) :
    Related Expr.Alike (compileMember fields top key (.array items))
      (compileMember fields top key (blankedClause key (.array items))) := by
  have plain : Related Expr.Alike (compilePlain fields top key (.array items))
      (compilePlain fields top key (blankedClause key (.array items))) :=
    related_compilePlain related_compileFieldTest_array
  rw [blankedClause] at plain ⊢
  rw [compileMember, compileMember]
  cases logical : Operator.logicalKeys.contains key with
  | false =>
      simp only [logical, Bool.false_eq_true, if_false] at plain ⊢
      exact plain
  | true =>
      have sameEmpty : (blankedAlternatives items).isEmpty = items.isEmpty := by cases items <;> rfl
      simp only [if_true, sameEmpty]
      split
      · exact .error _
      · refine (related_compileAlternatives blankable).bind fun _ _ each => .ok ?_
        split
        · exact .negated (.join _ each)
        · exact .join _ each

end Sql

/-- **Every value is blankable.** -/
theorem Json.blankable (value : Json) : value.Blankable := by
  induction value using inductionOn with
  | object members ih =>
      have fieldTest {key expr : String} (path : isDollarKey key = false)
          (closed : Sql.Closed expr) :=
        Sql.related_compileFieldTest ih closed path
      refine ⟨?_, ?_, fieldTest, fun closed => Sql.related_compileElementTest ih closed⟩
      · exact Sql.related_compilePlain fieldTest
      · exact (Sql.related_compileMembers ih).map fun _ _ each => .join _ each
  | array items ih =>
      exact ⟨Sql.related_compileMember_array ih, .error _, Sql.related_compileFieldTest_array,
        fun _ => .error _⟩
  | _ =>
      have fieldTest {value : Json} {expr : String}
          (closed : Sql.Closed expr) :
          @Related StoreError _ _ Sql.Expr.Alike (.ok (Sql.equalTo expr value))
            (.ok (Sql.equalTo expr value.blanked)) :=
        .ok (Sql.alike_equalTo closed value)
      exact ⟨Sql.related_compilePlain fun _ => fieldTest, .error _, fun _ => fieldTest,
        fun _ => .error _⟩

/-! ### Statements -/

namespace Sql

variable {c : Collection} {q q' : FindQuery} {fields : List String} {filter : Document}

/-- **Blanking a filter** leaves its refusal as it is, or its condition alike. -/
theorem related_compileFilter : Related Expr.Alike (compileFilter fields filter)
    (compileFilter fields (blankedFilter filter)) :=
  (related_compileMembers fun member _ => member.2.blankable).map fun _ _ each => .join _ each

theorem related_scoreExpr :
    Related SameShape (scoreExpr c filter) (scoreExpr c (blankedFilter filter)) := by
  rw [scoreExpr, scoreExpr, get?_blankedFilter]
  cases filter.get? "$text" with
  | none => exact .ok (.plain (.ready (by decide)))
  | some clause =>
      dsimp only [Option.map_some]
      rw [ofClause_blankedClause]
      cases TextQuery.ofClause clause with
      | error e => exact .error e
      | ok query => exact related_relevanceExpr rfl

theorem closed_orderTerms {keys : List SortKey} {terms : List String}
    (read : orderTerms keys = .ok terms) : ∀ term ∈ terms, Closed term := by
  induction keys generalizing terms with
  | nil =>
      rw [← Except.ok.inj read]
      simp
  | cons key rest ih =>
      obtain ⟨term, others, first, more, rfl⟩ := Except.bind_cons_eq_ok_iff.mp read
      refine List.forall_mem_cons.mpr ⟨?_, ih more⟩
      cases key with
      | textScore =>
          rw [← Except.ok.inj first]
          exact .ready (by decide)
      | field path direction =>
          obtain ⟨expr, path, rfl⟩ := Except.map_eq_ok_iff.mp first
          refine (closed_pathExpr closed_docColumn path).append ?_
          cases direction <;> exact .settled (by decide)

theorem leads_tail {terms : List String} (each : ∀ term ∈ terms, Closed term) :
    Leads Place.isSettled (tail terms q) Place.isSettled := by
  have nothing : Leads Place.isSettled "" Place.isSettled := fun _ _ fromA fromB =>
    ⟨rfl, fromA, fromB⟩
  have number {word : String} (leads : Leads Place.isSettled word Place.isReady) (n : Nat) :
      Leads Place.isSettled (word ++ toString n) Place.isSettled := leads.append (closed_toString n)
  have clauses {s t : String} (first : Leads Place.isSettled s Place.isSettled)
      (second : Leads Place.isSettled t Place.isSettled) :
      Leads Place.isSettled (s ++ t) Place.isSettled := first.append second
  rw [tail]
  refine clauses (clauses ?_ ?_) ?_
  · split
    · exact nothing
    · next some =>
        have order : Leads Place.isSettled " ORDER BY " Place.isReady := .settled (by decide)
        exact order.append (closed_join (by simpa using some) each)
  · split
    · exact number (.settled (by decide)) _
    · exact nothing
  · split
    · exact number (.settled (by decide)) _
    · exact nothing

/-- **A statement and the statement of the blanked query have one shape**, or both are refused with
one message. -/
theorem related_select : Related SameShape (select c q) (select c q.blanked) := by
  have terms : Related (fun terms others => others = terms ∧ ∀ term ∈ terms, Closed term)
      (orderTerms q.sort) (orderTerms q.sort) :=
    .self fun terms read => ⟨rfl, closed_orderTerms read⟩
  have opening : Leads Place.isReady "SELECT doc AS \"doc\", " Place.isReady := .ready (by decide)
  have column : Leads Place.isSettled " AS \"score\" FROM " Place.isReady := .settled (by decide)
  have table : Leads Place.isReady (quotedName c.name) Place.isReady := agree_quotedName c.name
  have rows : Leads Place.isReady " WHERE " Place.isReady := .ready (by decide)
  refine related_scoreExpr.bind fun score score' sameScore => ?_
  refine related_compileFilter.bind fun condition condition' alike => ?_
  refine terms.bind ?_
  rintro terms _ ⟨rfl, each⟩
  have selected := PiecesAgree.plain_cons opening sameScore
  have restricted := PiecesAgree.plain_cons ((column.append table).append rows) alike.render
  exact .ok ((selected.append restricted).append (.plain (leads_tail each)))

end Sql

/-- **The strings of a client do not change the shape of a statement.**  Of two queries that are the
same but for the strings of their data both are refused, with one message, or both have a statement,
and the two statements have one shape; and no statement ends inside a literal, a name or a comment,
so that it has a shape. -/
theorem shape_select_congr {c : Collection} {q q' : FindQuery} (same : q.SameButStrings q') :
    ((Sql.select c q).map fun pieces => Sql.shape (Sql.write pieces)) =
        ((Sql.select c q').map fun pieces => Sql.shape (Sql.write pieces)) ∧
      ∀ pieces, Sql.select c q = .ok pieces → (Sql.shape (Sql.write pieces)).isSome = true := by
  have blanked (q : FindQuery) : ((Sql.select c q).map fun pieces => Sql.shape (Sql.write pieces)) =
      (Sql.select c q.blanked).map fun pieces => Sql.shape (Sql.write pieces) :=
    Sql.related_select.map_eq fun _ _ same => same.shape_write.1
  have sameBlanked : Sql.select c q.blanked = Sql.select c q'.blanked := by
    simp only [Sql.select, Sql.tail, FindQuery.blanked, same.filter, same.sort, same.skip,
      same.limit]
  constructor
  · rw [blanked q, sameBlanked, blanked q']
  · intro pieces written
    have related := @Sql.related_select c q
    rw [written] at related
    generalize Sql.select c q.blanked = other at related
    cases related with
    | ok same => exact same.shape_write.2

/-- A quote, a backslash, a comment and a keyword in the data: inside a pattern, an element test, a
negated alternative and a text search. -/
theorem shape_select_congr_quotes :
    let query (name sku mark search : String) : FindQuery := { FindQuery.matching [
      ("$text", .object [("$search", .string search), ("$language", .string "en")]),
      ("$nor", .array [.object [("name", .object [("$regex", .string name),
        ("$options", .string "i")])]]),
      ("items", .object [("$elemMatch", .object [("sku", .string sku),
        ("marks", .object [("$in", .array [.null, .object [("mark", .string mark)]])])])])] with
      sort := [.textScore, .field "name" .descending], limit := some 5 }
    let plain := query "a" "b" "c" "d"
    let quoted := query "' OR 1 = 1 --" "\\' WHERE '" "E'\\''" "/* $$ \""
    plain.SameButStrings quoted ∧
      (Sql.select (Collection.named "orders") plain).isOk = true ∧
      ((Sql.select (Collection.named "orders") plain).map fun pieces =>
          Sql.shape (Sql.write pieces)) =
        (Sql.select (Collection.named "orders") quoted).map fun pieces =>
          Sql.shape (Sql.write pieces) := by
  intro query plain quoted
  have same : plain.SameButStrings quoted := ⟨rfl, rfl, rfl, rfl⟩
  exact ⟨same, by decide +kernel, (shape_select_congr same).1⟩

end DocQuery
