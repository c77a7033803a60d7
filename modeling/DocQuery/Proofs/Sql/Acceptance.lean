import DocQuery.Proofs.Filter.Compilation
import DocQuery.Proofs.Predicate.Congruence
import DocQuery.Sql.Statement

/-!
# What the database accepts, memory accepts

Two compilers read a native filter: one writes an SQL condition, the other a predicate for the store
in memory.  The first is the stricter one, except for patterns: it hands a pattern to the database
as it is, while the predicate has to read it.  So a filter that can be counted in the database
compiles in memory, provided that the pattern of every `$regex` can be read with its options.

The induction is on values, and a value has four readings: as a clause, as an item of a logical key,
as the test of a field and as the operand of an element test.

## Main definitions

* `readsPatterns`: the patterns of a filter can be read with their options
* `Json.Portable`: in each reading, what SQL accepts compiles
* `exists_compile_of_selectCount`
-/

namespace DocQuery

/-! ### Patterns of a filter -/

/-- The pattern of a `$regex` can be read with the options of its map. -/
def patternReads [PatternReader] (ops : Document) (operand : Json) : Bool :=
  operand.string?.all fun pattern => (compilePattern pattern ((optionsOf ops).getD "")).isOk

mutual

/-- Whether the patterns in the clauses of a filter can be read. -/
def readsPatterns [PatternReader] : List (String × Json) → Bool
  | [] => true
  | (key, value) :: rest => clauseReadsPatterns key value && readsPatterns rest
termination_by structural members => members

/-- Whether the patterns in a clause can be read: those of its operator map or of the filters that
it combines. -/
def clauseReadsPatterns [PatternReader] (key : String) : Json → Bool
  | .array items => !isDollarKey key || itemsReadPatterns items
  | .object members =>
    isDollarKey key || !(Json.object members).isOperatorMap || operatorsReadPatterns members members
  | _ => true
termination_by structural value => value

/-- Whether the patterns in the filters that a logical key combines can be read. -/
def itemsReadPatterns [PatternReader] : List Json → Bool
  | [] => true
  | item :: rest => itemReadsPatterns item && itemsReadPatterns rest
termination_by structural items => items

/-- Whether the patterns in a filter that a logical key combines can be read. -/
def itemReadsPatterns [PatternReader] : Json → Bool
  | .object members => readsPatterns members
  | _ => true
termination_by structural item => item

/-- Whether the patterns in an operator map can be read, those of its element tests included. -/
def operatorsReadPatterns [PatternReader] (ops : Document) : List (String × Json) → Bool
  | [] => true
  | (key, operand) :: rest =>
    (if key = "$regex" then patternReads ops operand
      else if key = "$elemMatch" then elementReadsPatterns operand
      else true) && operatorsReadPatterns ops rest
termination_by structural members => members

/-- Whether the patterns in the operand of an element test can be read. -/
def elementReadsPatterns [PatternReader] : Json → Bool
  | .object members =>
    if (Json.object members).isOperatorMap then operatorsReadPatterns members members
    else readsPatterns members
  | _ => true
termination_by structural operand => operand

end

section Patterns

variable {members ops : List (String × Json)} {items : List Json} {member : String × Json}

theorem readsPatterns_iff [PatternReader] : readsPatterns members = true ↔
    ∀ member ∈ members, clauseReadsPatterns member.1 member.2 = true := by
  induction members with
  | nil => simp [readsPatterns]
  | cons member rest ih => rw [readsPatterns, Bool.and_eq_true, ih, List.forall_mem_cons]

theorem itemsReadPatterns_iff [PatternReader] :
    itemsReadPatterns items = true ↔ ∀ item ∈ items, itemReadsPatterns item = true := by
  induction items with
  | nil => simp [itemsReadPatterns]
  | cons item rest ih => rw [itemsReadPatterns, Bool.and_eq_true, ih, List.forall_mem_cons]

theorem operatorsReadPatterns_iff [PatternReader] : operatorsReadPatterns ops members = true ↔
    ∀ member ∈ members, (member.1 = "$regex" → patternReads ops member.2 = true) ∧
      (member.1 = "$elemMatch" → elementReadsPatterns member.2 = true) := by
  induction members with
  | nil => simp [operatorsReadPatterns]
  | cons member rest ih =>
      rw [operatorsReadPatterns, Bool.and_eq_true, ih, List.forall_mem_cons]
      refine and_congr_left fun _ => ?_
      by_cases isRegex : member.1 = "$regex"
      · simp [isRegex]
      · by_cases isElement : member.1 = "$elemMatch" <;> simp [isRegex, isElement]

theorem FieldTest.exists_regex_of_patternReads [PatternReader] {path pattern : String}
    (reads : patternReads ops (.string pattern) = true) :
    ∃ test, ofOperator path ops .regex (.string pattern) = .ok test :=
  ofOperator_regex.mpr (Except.exists_eq_ok_of_isOk reads)

end Patterns

/-! ### SQL conditions, member by member -/

namespace Sql

variable {fields : List String} {top : Bool} {key expr : String} {value operand : Json}
  {members ops : List (String × Json)} {member : String × Json} {items : List Json}
  {conditions : List Expr} {condition : Expr}

theorem compileMembers_ok_iff : compileMembers fields top members = .ok conditions ↔
    List.Forall₂ (fun member condition =>
      compileMember fields top member.1 member.2 = .ok condition) members conditions := by
  induction members generalizing conditions with
  | nil => cases conditions <;> simp [compileMembers]
  | cons member rest ih =>
      rw [compileMembers, Except.bind_cons_eq_ok_iff, List.forall₂_cons_left_iff]
      simp only [ih]

theorem compileAlternatives_ok_iff : compileAlternatives fields key items = .ok conditions ↔
    List.Forall₂ (fun item condition => compileAlternative fields key item = .ok condition)
      items conditions := by
  induction items generalizing conditions with
  | nil => cases conditions <;> simp [compileAlternatives]
  | cons item rest ih =>
      rw [compileAlternatives, Except.bind_cons_eq_ok_iff, List.forall₂_cons_left_iff]
      simp only [ih]

/-- Every member of an element is a test of a field. -/
theorem fieldTest_of_compileElementClauses
    (compiled : compileElementClauses members = .ok conditions) (mem : member ∈ members) :
    isDollarKey member.1 = false ∧
      ∃ expr condition, compileFieldTest expr member.2 = .ok condition := by
  induction members generalizing conditions with
  | nil => cases mem
  | cons head rest ih =>
      rw [compileElementClauses] at compiled
      split at compiled
      · cases compiled
      · next path =>
          simp only [Except.bind_eq_ok_iff] at compiled
          obtain ⟨expr, -, condition, tested, conditions, others, -⟩ := compiled
          rcases List.mem_cons.mp mem with rfl | mem
          · exact ⟨by simpa using path, expr, condition, tested⟩
          · exact ih others mem

/-- The condition of a member of an operator map; `ops` is the map. -/
def operatorPart (expr : String) (ops : Document) (member : String × Json) :
    Except StoreError (Option Expr) :=
  match compiledOperator? member.1 with
  | some .elemMatch => compileElementTest expr member.2
  | some op => operatorCondition expr ops op member.2
  | none => .error (.invalidQuery (.unsupportedOperator member.1))

theorem operatorPart_elemMatch :
    operatorPart expr ops ("$elemMatch", operand) = compileElementTest expr operand := by
  rw [operatorPart, show compiledOperator? "$elemMatch" = some .elemMatch by decide]

theorem operatorPart_native {op : Operator} (noElement : op ≠ .elemMatch) :
    operatorPart expr ops (op.native, operand) = operatorCondition expr ops op operand := by
  rw [operatorPart, compiledOperator?_native]
  cases op with
  | elemMatch => exact absurd rfl noElement
  | _ => rfl

theorem compileOperatorMap_cons (test : member.1 ≠ "$options") :
    compileOperatorMap expr ops (member :: members) = (do
      let condition ← operatorPart expr ops member
      let conditions ← compileOperatorMap expr ops members
      .ok (condition.toList ++ conditions)) := by
  rw [compileOperatorMap, if_neg test, operatorPart]
  rcases compiledOperator? member.1 with _ | _ | _ <;> rfl

/-- Every member of an operator map but the options has a condition. -/
theorem part_of_compileOperatorMap (compiled : compileOperatorMap expr ops members = .ok conditions)
    (mem : member ∈ members) (test : member.1 ≠ "$options") :
    ∃ part, operatorPart expr ops member = .ok part := by
  induction members generalizing conditions with
  | nil => cases mem
  | cons head rest ih =>
      by_cases isOptions : head.1 = "$options"
      · rw [compileOperatorMap, if_pos isOptions] at compiled
        rcases List.mem_cons.mp mem with rfl | mem
        · exact absurd isOptions test
        · exact ih compiled mem
      · rw [compileOperatorMap_cons isOptions] at compiled
        simp only [Except.bind_eq_ok_iff] at compiled
        obtain ⟨part, first, conditions, others, -⟩ := compiled
        rcases List.mem_cons.mp mem with rfl | mem
        · exact ⟨part, first⟩
        · exact ih others mem

/-- An operator has a condition only for an operand that it takes. -/
theorem takes_of_operatorCondition {op : Operator} {part : Option Expr}
    (compiled : operatorCondition expr ops op operand = .ok part) : op.Takes operand := by
  cases op with
  | isIn | notIn | all =>
      obtain ⟨items, list, -⟩ := Except.map_eq_ok_iff.mp compiled
      cases operand <;> simp only [elements, reduceCtorEq] at list
      exact ⟨_, rfl⟩
  | regex =>
      cases operand with
      | string pattern => exact ⟨pattern, rfl⟩
      | _ => cases compiled
  | size =>
      rw [operatorCondition] at compiled
      split at compiled
      · next n natural => exact ⟨n, natural⟩
      · cases compiled
  | _ => trivial

/-- A member of a filter that does not combine filters is a text search or the test of a field. -/
theorem compilePlain_cases (compiled : compilePlain fields top key value = .ok condition) :
    (key = "$text" ∧ ∃ query, TextQuery.ofClause value = .ok query) ∨
      (isDollarKey key = false ∧ ∃ expr, compileFieldTest expr value = .ok condition) := by
  unfold compilePlain at compiled
  split at compiled
  · cases compiled
  · split at compiled
    · next isText =>
        split at compiled
        · obtain ⟨query, asked, -⟩ := Except.bind_eq_ok_iff.mp compiled
          exact .inl ⟨isText, query, asked⟩
        · cases compiled
    · split at compiled
      · cases compiled
      · next path =>
          obtain ⟨expr, -, tested⟩ := Except.bind_eq_ok_iff.mp compiled
          exact .inr ⟨by simpa using path, expr, tested⟩

end Sql

/-! ### From conditions to predicates -/

/-- A value of which memory accepts every reading that SQL accepts, if its patterns can be read. -/
structure Json.Portable [PatternReader] (value : Json) : Prop where
  clause : ∀ {fields top key condition}, Sql.compileMember fields top key value = .ok condition →
    clauseReadsPatterns key value = true → Clause.Compiles fields (key, value)
  item : ∀ {fields key condition}, Sql.compileAlternative fields key value = .ok condition →
    itemReadsPatterns value = true → ∃ p, compileItem fields key value = .ok p
  fieldTest : ∀ {fields key expr condition}, isDollarKey key = false →
    Sql.compileFieldTest expr value = .ok condition → clauseReadsPatterns key value = true →
      Clause.Compiles fields (key, value)
  element : ∀ {expr path condition}, Sql.compileElementTest expr value = .ok condition →
    elementReadsPatterns value = true → ∃ test, compileElement path value = .ok test

section Portable

variable {fields : List String} {top : Bool} {key : String} {value : Json}
  {members : List (String × Json)} {condition : Sql.Expr} {conditions : List Sql.Expr}

theorem Clause.compiles_text [PatternReader] {query : TextQuery}
    (asked : TextQuery.ofClause value = .ok query) :
    Compiles fields ("$text", value) := by
  cases value with
  | object members =>
      refine ⟨.text (.ofQuery query fields), ?_⟩
      simp [compileClause, Operator.logicalKeys, asked, Except.map]
  | _ => cases asked

/-- A clause that combines no filters compiles, given that for the test of a field. -/
theorem Clause.compiles_of_compilePlain [PatternReader]
    (fieldTest : ∀ {expr}, isDollarKey key = false →
      Sql.compileFieldTest expr value = .ok condition → Compiles fields (key, value))
    (compiled : Sql.compilePlain fields top key value = .ok condition) :
    Compiles fields (key, value) := by
  obtain ⟨rfl, query, asked⟩ | ⟨path, expr, tested⟩ := Sql.compilePlain_cases compiled
  · exact compiles_text asked
  · exact fieldTest path tested

section Members

variable [PatternReader] (portable : ∀ member ∈ members, member.2.Portable)

include portable

/-- The members of a filter compile. -/
theorem Predicate.exists_compile_of_compileMembers
    (compiled : Sql.compileMembers fields top members = .ok conditions)
    (reads : readsPatterns members = true) : ∃ p, compile members fields = .ok p := by
  refine exists_compile_iff.mpr fun member mem => ?_
  obtain ⟨condition, clause⟩ :=
    List.exists_forall₂_iff.mp ⟨conditions, Sql.compileMembers_ok_iff.mp compiled⟩ member mem
  exact (portable member mem).clause clause (readsPatterns_iff.mp reads member mem)

/-- The members of an operator map compile. -/
theorem OperatorClause.compiles_of_compileOperatorMap {expr path : String}
    (compiled : Sql.compileOperatorMap expr members members = .ok conditions)
    (reads : operatorsReadPatterns members members = true) :
    ∀ member ∈ members, Compiles path members member := by
  rintro ⟨key, operand⟩ mem test
  obtain ⟨readsPattern, readsElement⟩ := operatorsReadPatterns_iff.mp reads _ mem
  obtain ⟨part, compiled⟩ := Sql.part_of_compileOperatorMap compiled mem test
  cases known : compiledOperator? key with
  | none => simp [Sql.operatorPart, known] at compiled
  | some op =>
      obtain rfl : op.native = key := compiledOperator?_eq_some known
      by_cases isElement : op = .elemMatch
      · subst isElement
        exact operatorTest_elemMatch ▸
          (portable _ mem).element (Sql.operatorPart_elemMatch ▸ compiled) (readsElement rfl)
      · rw [Sql.operatorPart_native isElement] at compiled
        rw [operatorTest_native isElement]
        have takes := Sql.takes_of_operatorCondition compiled
        by_cases isPattern : op = .regex
        · subst isPattern
          obtain ⟨pattern, isString⟩ := takes
          obtain rfl : operand = .string pattern := isString
          exact FieldTest.exists_regex_of_patternReads (readsPattern rfl)
        · exact (FieldTest.ofOperator_iff isElement isPattern).mpr takes

/-- The operator map of a field compiles. -/
theorem Clause.compiles_of_compileFieldTest {expr : String} (path : isDollarKey key = false)
    (compiled : Sql.compileFieldTest expr (.object members) = .ok condition)
    (reads : clauseReadsPatterns key (.object members) = true) :
    Compiles fields (key, .object members) := by
  cases isMap : (Json.object members).isOperatorMap with
  | false => exact compiles_literal path (by rw [Json.operators?, isMap]; rfl)
  | true =>
      rw [Sql.compileFieldTest, if_pos isMap] at compiled
      obtain ⟨conditions, each, -⟩ := Except.map_eq_ok_iff.mp compiled
      rw [clauseReadsPatterns, path, isMap] at reads
      refine (compiles_operators path (by rw [Json.operators?, isMap]; rfl)).mpr ?_
      exact OperatorClause.compiles_of_compileOperatorMap portable each reads

/-- The operand of an element test compiles. -/
theorem exists_compileElement_of_compileElementTest {expr path : String} {part : Option Sql.Expr}
    (compiled : Sql.compileElementTest expr (.object members) = .ok part)
    (reads : elementReadsPatterns (.object members) = true) :
    ∃ test, compileElement path (.object members) = .ok test := by
  cases isMap : (Json.object members).isOperatorMap with
  | true =>
      rw [elementReadsPatterns, if_pos isMap] at reads
      rw [Sql.compileElementTest, if_pos isMap] at compiled
      obtain ⟨conditions, each, -⟩ := Except.bind_eq_ok_iff.mp compiled
      obtain ⟨tests, compiles⟩ := OperatorClause.exists_compile_iff.mpr
        (OperatorClause.compiles_of_compileOperatorMap portable each reads)
      exact ⟨_, by rw [compileElement, if_pos isMap, compiles]; rfl⟩
  | false =>
      have noMap : ¬(Json.object members).isOperatorMap = true := by simp [isMap]
      rw [elementReadsPatterns, if_neg noMap] at reads
      rw [Sql.compileElementTest, if_neg noMap] at compiled
      obtain ⟨conditions, each, -⟩ := Except.bind_eq_ok_iff.mp compiled
      have clauses : ∀ member ∈ members, Clause.Compiles [] member := by
        intro member mem
        obtain ⟨path, expr, condition, tested⟩ := Sql.fieldTest_of_compileElementClauses each mem
        exact (portable member mem).fieldTest path tested (readsPatterns_iff.mp reads member mem)
      obtain ⟨p, compiles⟩ := Predicate.exists_compile_iff.mpr clauses
      obtain ⟨parts, compiles, -⟩ := Predicate.compile_ok_iff.mp compiles
      exact ⟨_, by rw [compileElement, if_neg noMap, compiles]; rfl⟩

end Members

theorem isDollarKey_of_isLogical (logical : Operator.logicalKeys.contains key = true) :
    isDollarKey key = true := by
  simp only [List.contains_iff_mem, Operator.logicalKeys, List.mem_cons, List.not_mem_nil,
    or_false] at logical
  rcases logical with rfl | rfl | rfl <;> decide

/-- The filters that a logical key combines compile. -/
theorem Clause.compiles_of_compileAlternatives [PatternReader] {items : List Json}
    (portable : ∀ item ∈ items, item.Portable) (logical : Operator.logicalKeys.contains key = true)
    (nonempty : items.isEmpty = false)
    (compiled : Sql.compileAlternatives fields key items = .ok conditions)
    (reads : itemsReadPatterns items = true) : Compiles fields (key, .array items) := by
  obtain ⟨parts, compiles⟩ := List.exists_forall₂_iff.mpr fun item mem => by
    obtain ⟨condition, alternative⟩ := List.exists_forall₂_iff.mp
      ⟨conditions, Sql.compileAlternatives_ok_iff.mp compiled⟩ item mem
    exact (portable item mem).item alternative (itemsReadPatterns_iff.mp reads item mem)
  refine ⟨combine key parts, ?_⟩
  rw [compileClause, if_pos logical, nonempty, if_neg Bool.false_ne_true,
    compileItems_ok_iff.mpr compiles]
  rfl

/-- **Every value is portable.** -/
theorem Json.portable [PatternReader] (value : Json) : value.Portable := by
  induction value using inductionOn with
  | object members ih =>
      refine ⟨fun {fields top key condition} compiled reads => ?_, fun compiled reads => ?_,
        fun path compiled reads => Clause.compiles_of_compileFieldTest ih path compiled reads,
        fun compiled reads => exists_compileElement_of_compileElementTest ih compiled reads⟩
      · exact Clause.compiles_of_compilePlain
          (fun path tested => Clause.compiles_of_compileFieldTest ih path tested reads) compiled
      · obtain ⟨conditions, each, -⟩ := Except.map_eq_ok_iff.mp compiled
        exact Predicate.exists_compile_of_compileMembers ih each reads
  | array items ih =>
      have literal {fields key} (path : isDollarKey key = false) :
          Clause.Compiles fields (key, .array items) := Clause.compiles_literal path rfl
      refine ⟨fun {fields top key condition} compiled reads => ?_, fun compiled => ?_,
        fun path _ _ => literal path, fun compiled => ?_⟩
      · rw [Sql.compileMember] at compiled
        split at compiled
        · next logical =>
            split at compiled
            · cases compiled
            · next nonempty =>
                obtain ⟨conditions, each, -⟩ := Except.bind_eq_ok_iff.mp compiled
                have some : items.isEmpty = false := by simpa using nonempty
                rw [clauseReadsPatterns, isDollarKey_of_isLogical logical] at reads
                exact Clause.compiles_of_compileAlternatives ih logical some each reads
        · exact Clause.compiles_of_compilePlain (fun path _ => literal path) compiled
      · cases compiled
      · cases compiled
  | _ =>
      refine ⟨fun compiled _ => Clause.compiles_of_compilePlain
          (fun path _ => Clause.compiles_literal path rfl) compiled, fun compiled => ?_,
        fun path _ _ => Clause.compiles_literal path rfl, fun compiled => ?_⟩ <;> cases compiled

end Portable

/-- **What the database accepts, memory accepts.**  A filter that a counting statement can be
written for compiles to a predicate, where the pattern of every `$regex` can be read with its
options. -/
theorem exists_compile_of_selectCount [PatternReader] {c : Collection} {filter : Document}
    {pieces : List Sql.Piece}
    (written : Sql.selectCount c filter = .ok pieces) (reads : readsPatterns filter = true) :
    ∃ p, Predicate.compile filter c.textFields = .ok p := by
  obtain ⟨condition, compiled, -⟩ := Except.bind_eq_ok_iff.mp written
  obtain ⟨conditions, each, -⟩ := Except.map_eq_ok_iff.mp compiled
  exact Predicate.exists_compile_of_compileMembers (fun member _ => member.2.portable) each reads

/-- Alternatives, a pattern with an option, element tests of both forms, one inside the other, and a
text search. -/
theorem exists_compile_of_selectCount_items :
    let filter : Document := [
      ("$text", .object [("$search", .string "tea")]),
      ("$nor", .array [
        .object [("name", .object [("$regex", .string "^al"), ("$options", .string "s")])],
        .object [("$and", .array [.object [("tags", .object [("$size", .ofNat 2)])]])]]),
      ("items", .object [("$elemMatch", .object [
        ("sku", .string "a"),
        ("marks", .object [("$elemMatch", .object [("$regex", .string "b.*")])])])])]
    ∃ pieces, Sql.selectCount (Collection.named "orders") filter = .ok pieces ∧
      readsPatterns filter = true ∧
      ∃ p, Predicate.compile filter [] = .ok p := by
  intro filter
  obtain ⟨pieces, written⟩ := Except.exists_eq_ok_of_isOk
    (by decide +kernel : (Sql.selectCount (Collection.named "orders") filter).isOk = true)
  have reads : readsPatterns filter = true := by decide +kernel
  exact ⟨pieces, written, reads, exists_compile_of_selectCount written reads⟩

/-- Without the patterns the database accepts more: it is asked to read this one itself. -/
example :
    let filter : Document := [("name", .object [("$regex", .string "(")])]
    (Sql.selectCount (Collection.named "orders") filter).isOk = true ∧
      (Predicate.compile filter []).isOk = false := by
  decide +kernel

end DocQuery
