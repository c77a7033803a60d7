import DocQuery.Proofs.Filter.Compilation
import DocQuery.Proofs.Json.Equality

/-!
# What the filter of a client can ask for

A client may use the operators of `Operator.clientKeys` on the fields of a document, and neither a
logical key nor a text search.  A filter is guarded if this holds of every object that the compiler
reads as operators: the clause of a field where it is an operator map, and the operand of an element
test with all that stands inside it (`areGuardedClauses`).  Values that are compared with as they
stand may hold any keys.  What a guarded filter compiles to combines nothing but tests of fields
(`isPlain_of_compile`).

The mapping puts no key with a dollar beside the fields.  Folding tests of one field together never
brings a new key into an operator map, and neither do the bounds of a range or the members of an
operator map given for a field.  Two operands pass as they are, whatever they hold: that of an
equality, even where it is an operator map, and that of an element test.  So a mapped filter is
guarded where these are (`areGuardedClauses_mapFilters`).

## Main definitions

* `Json.isGuarded`, `Json.isGuardedElement`: a clause of a field, the operand of an element test
* `areGuardedOperators`, `areGuardedClauses`: an operator map, a filter
* `Predicate.isPlain`: a compiled filter that tests fields and nothing else
* `areGuardedClauses_mapFilters`
-/

namespace DocQuery

mutual

/-- Whether the clause of a field is guarded: only an operator map is read as operators. -/
def Json.isGuarded : Json → Bool
  | .object members => !(Json.object members).isOperatorMap || areGuardedOperators members
  | _ => true
termination_by structural clause => clause

/-- Whether an operator map has operators for clients only, those inside element tests included. -/
def areGuardedOperators : List (String × Json) → Bool
  | [] => true
  | (key, operand) :: rest =>
    Operator.clientKeys.contains key && (key != "$elemMatch" || operand.isGuardedElement) &&
      areGuardedOperators rest
termination_by structural members => members

/-- Whether the operand of an element test is guarded: an operator map or a filter. -/
def Json.isGuardedElement : Json → Bool
  | .object members =>
    if (Json.object members).isOperatorMap then areGuardedOperators members
    else areGuardedClauses members
  | _ => true
termination_by structural operand => operand

/-- Whether a filter has clauses of fields only, all of them guarded. -/
def areGuardedClauses : List (String × Json) → Bool
  | [] => true
  | (key, clause) :: rest => !isDollarKey key && clause.isGuarded && areGuardedClauses rest
termination_by structural members => members

end

-- Tagged once: the equations of a mutual recursion take longer than the lemmas that use them.
attribute [local simp] Json.isGuarded areGuardedOperators Json.isGuardedElement areGuardedClauses

variable {members : Document} {clause : Json}

theorem areGuardedOperators_iff :
    areGuardedOperators members = true ↔ ∀ member ∈ members, member.1 ∈ Operator.clientKeys ∧
      (member.1 = "$elemMatch" → member.2.isGuardedElement = true) := by
  induction members with
  | nil => simp
  | cons member rest ih =>
      obtain ⟨key, operand⟩ := member
      simp [ih, ← imp_iff_not_or]

theorem areGuardedClauses_iff :
    areGuardedClauses members = true ↔
      ∀ member ∈ members, isDollarKey member.1 = false ∧ member.2.isGuarded = true := by
  induction members with
  | nil => simp
  | cons member rest ih =>
      obtain ⟨key, clause⟩ := member
      simp [ih]

/-- Of a clause only the operators are guarded. -/
theorem Json.isGuarded_iff :
    clause.isGuarded = true ↔
      ∀ ops, clause.operators? = some ops → areGuardedOperators ops = true := by
  cases clause with
  | object members =>
      rw [isGuarded, Bool.or_eq_true, Bool.not_eq_true', operators?, object?]
      cases (Json.object members).isOperatorMap <;> simp
  | _ => simp [operators?, isOperatorMap]

theorem Json.isGuardedElement_object :
    (Json.object members).isGuardedElement = true ↔
      if (Json.object members).isOperatorMap then areGuardedOperators members = true
      else areGuardedClauses members = true := by
  rw [isGuardedElement]
  split <;> rfl

/-! ### What a guarded filter compiles to -/

mutual

/-- Whether a compiled filter is a conjunction of tests of fields, inside element tests too. -/
def Predicate.isPlain : Predicate → Bool
  | .allOf parts => arePlain parts
  | .field _ test => test.isPlain
  | _ => false
termination_by structural p => p

/-- Whether all of several compiled filters are plain. -/
def arePlain : List Predicate → Bool
  | [] => true
  | p :: ps => p.isPlain && arePlain ps
termination_by structural ps => ps

/-- Whether the filters inside a test are plain. -/
def FieldTest.isPlain : FieldTest → Bool
  | .someObject predicate => predicate.isPlain
  | .someElement test => test.isPlain
  | .allOf tests => areTestsPlain tests
  | _ => true
termination_by structural t => t

/-- Whether the filters inside several tests are plain. -/
def areTestsPlain : List FieldTest → Bool
  | [] => true
  | t :: ts => t.isPlain && areTestsPlain ts
termination_by structural ts => ts

end

attribute [local simp] Predicate.isPlain arePlain FieldTest.isPlain areTestsPlain

theorem arePlain_iff {parts : List Predicate} :
    arePlain parts = true ↔ ∀ part ∈ parts, part.isPlain = true := by
  induction parts with
  | nil => simp
  | cons part rest ih => simp [ih]

theorem areTestsPlain_iff {tests : List FieldTest} :
    areTestsPlain tests = true ↔ ∀ test ∈ tests, test.isPlain = true := by
  induction tests with
  | nil => simp
  | cons test rest ih => simp [ih]

theorem FieldTest.isPlain_ofList {tests : List FieldTest}
    (plain : ∀ test ∈ tests, test.isPlain = true) : (ofList tests).isPlain = true := by
  unfold ofList
  split
  · exact plain _ (List.mem_singleton_self _)
  · exact areTestsPlain_iff.mpr plain

/-- An operator without a filter of its own tests values only. -/
theorem FieldTest.isPlain_of_ofOperator [PatternReader] {path : String} {ops : Document}
    {op : Operator}
    {operand : Json} {test : FieldTest} (compiled : ofOperator path ops op operand = .ok test) :
    test.isPlain = true := by
  cases op with
  | isIn | notIn | all =>
      obtain ⟨_, -, rfl⟩ := Except.map_eq_ok_iff.mp compiled
      rfl
  | regex =>
      cases operand with
      | string pattern =>
          obtain ⟨_, -, rfl⟩ := Except.map_eq_ok_iff.mp compiled
          rfl
      | _ => cases compiled
  | size =>
      rw [ofOperator] at compiled
      split at compiled
      · rw [← Except.ok.inj compiled]
        rfl
      · cases compiled
  | elemMatch => cases compiled
  | _ =>
      rw [← Except.ok.inj compiled]
      rfl

/-- A value compiles to plain filters wherever it is guarded. -/
structure Json.CompilesPlain [PatternReader] (v : Json) : Prop where
  clause : v.isGuarded = true → ∀ {fields key p}, isDollarKey key = false →
    compileClause fields key v = .ok p → p.isPlain = true
  element : v.isGuardedElement = true → ∀ {path test}, compileElement path v = .ok test →
    test.isPlain = true

/-- A guarded operator map compiles to plain tests if its operands compile to plain ones. -/
theorem isPlain_of_compileOperators [PatternReader] {path : String} {tests : List FieldTest}
    (operands : ∀ member ∈ members, member.2.CompilesPlain)
    (guarded : areGuardedOperators members = true)
    (compiled : compileOperators path members members = .ok tests) :
    ∀ test ∈ tests, test.isPlain = true := by
  intro test mem
  obtain ⟨member, inMembers, compiled⟩ :=
    (compileOperators_ok_iff.mp compiled).exists_of_mem_right mem
  have inMembers := List.mem_of_mem_filter inMembers
  have element := (areGuardedOperators_iff.mp guarded member inMembers).2
  rw [operatorTest] at compiled
  split at compiled
  · next known =>
      exact (operands member inMembers).element (element (compiledOperator?_eq_some known).symm)
        compiled
  · exact FieldTest.isPlain_of_ofOperator compiled
  · cases compiled

/-- A guarded filter compiles to plain parts if its clauses do. -/
theorem arePlain_of_compileClauses [PatternReader] {fields : List String} {parts : List Predicate}
    (clauses : ∀ member ∈ members, member.2.CompilesPlain)
    (guarded : areGuardedClauses members = true)
    (compiled : compileClauses fields members = .ok parts) : arePlain parts = true := by
  refine arePlain_iff.mpr fun part mem => ?_
  obtain ⟨member, inMembers, compiled⟩ :=
    (compileClauses_ok_iff.mp compiled).exists_of_mem_right mem
  obtain ⟨path, guarded⟩ := areGuardedClauses_iff.mp guarded member inMembers
  exact (clauses member inMembers).clause guarded path compiled

theorem Json.CompilesPlain.literal [PatternReader] {v : Json} (literal : v.operators? = none)
    (noObject : ∀ path test, compileElement path v ≠ .ok test) : v.CompilesPlain where
  clause _ _ _ _ path compiled := by
    rw [compileClause_path path, literal] at compiled
    rw [← Except.ok.inj compiled]
    rfl
  element _ _ _ compiled := absurd compiled (noObject _ _)

theorem Json.compilesPlain [PatternReader] (v : Json) : v.CompilesPlain := by
  induction v using Json.inductionOn with
  | object members ih =>
      constructor
      · intro guarded fields key p path compiled
        rw [compileClause_path path] at compiled
        split at compiled
        · next ops isMap =>
            have guarded := isGuarded_iff.mp guarded ops isMap
            obtain rfl : members = ops :=
              Json.object.inj (operators?_eq_some_iff.mp isMap).1
            obtain ⟨tests, allCompiled, rfl⟩ := Except.map_eq_ok_iff.mp compiled
            exact FieldTest.isPlain_ofList (isPlain_of_compileOperators ih guarded allCompiled)
        · rw [← Except.ok.inj compiled]
          rfl
      · intro guarded path test compiled
        rw [isGuardedElement_object] at guarded
        rw [compileElement] at compiled
        split at compiled
        · next isMap =>
            rw [if_pos isMap] at guarded
            obtain ⟨tests, allCompiled, rfl⟩ := Except.map_eq_ok_iff.mp compiled
            exact FieldTest.isPlain_ofList (isPlain_of_compileOperators ih guarded allCompiled)
        · next noMap =>
            rw [if_neg noMap] at guarded
            obtain ⟨parts, allCompiled, rfl⟩ := Except.map_eq_ok_iff.mp compiled
            exact arePlain_of_compileClauses ih guarded allCompiled
  | _ => exact .literal rfl fun _ _ compiled => by cases compiled

/-- **What a guarded filter compiles to** is a conjunction of tests of fields, without any other
combination of filters and without a text search at any depth. -/
theorem isPlain_of_compile [PatternReader] {fields : List String} {p : Predicate}
    (guarded : areGuardedClauses members = true)
    (compiled : Predicate.compile members fields = .ok p) : p.isPlain = true := by
  obtain ⟨parts, allCompiled, rfl⟩ := Predicate.compile_ok_iff.mp compiled
  exact arePlain_of_compileClauses (fun member _ => member.2.compilesPlain) guarded allCompiled

/-! ### Folding keeps the guard -/

theorem areGuardedOperators_insert {ops : Document} {key : String} {operand : Json}
    (guarded : areGuardedOperators ops = true) (known : key ∈ Operator.clientKeys)
    (element : key = "$elemMatch" → operand.isGuardedElement = true) :
    areGuardedOperators (ops.insert key operand) = true := by
  refine areGuardedOperators_iff.mpr fun member mem => ?_
  rcases Document.mem_of_mem_insert mem with rfl | mem
  · exact ⟨known, element⟩
  · exact areGuardedOperators_iff.mp guarded member mem

/-- Any operand of another operator than an element test is one to compare with. -/
theorem areGuardedOperators_insert_plain {ops : Document} {key : String} {operand : Json}
    (guarded : areGuardedOperators ops = true) (known : key ∈ Operator.clientKeys)
    (noElement : key ≠ "$elemMatch") : areGuardedOperators (ops.insert key operand) = true :=
  areGuardedOperators_insert guarded known fun isElement => absurd isElement noElement

theorem allowsEquality_areGuardedOperators :
    AllowsEquality fun ops => areGuardedOperators ops = true where
  empty := rfl
  eq _ guarded := areGuardedOperators_insert_plain guarded (by decide) (by decide)
  all _ guarded := areGuardedOperators_insert_plain guarded (by decide) (by decide)

theorem Operator.native_mem_clientKeys (op : Operator) : op.native ∈ clientKeys := by
  cases op <;> decide

/-- Every operator that the mapping knows is one for clients, so only what stands inside an element
test is left to look at. -/
theorem areGuardedOperators_withOperand {ops : Document} {op : Operator} {operand : Operand}
    (guarded : areGuardedOperators ops = true)
    (element : ∀ value, op = .elemMatch → operand = .single value →
      value.isGuardedElement = true) :
    areGuardedOperators (withOperand ops op operand) = true := by
  cases operand with
  | single value =>
      refine areGuardedOperators_insert guarded op.native_mem_clientKeys fun isElement => ?_
      cases op with
      | elemMatch => exact element value rfl rfl
      | _ => exact absurd isElement (by decide)
  | regex pattern options =>
      have withPattern : areGuardedOperators (ops.insert "$regex" (.string pattern)) = true :=
        areGuardedOperators_insert_plain guarded (by decide) (by decide)
      cases options with
      | none => exact withPattern
      | some options => exact areGuardedOperators_insert_plain withPattern (by decide) (by decide)

section

variable {filters : Document}

/-- The parts of a client's filter keep operator maps guarded where the values of equalities and
the operands of element tests are guarded. -/
theorem FilterPart.IsOfClient.keeps_guarded [PatternReader] {part : FilterPart}
    (ofClient : part.IsOfClient)
    (equality : ∀ value, part.addition = .equality value → value.isGuarded = true)
    (element : ∀ value, part.addition = .operand .elemMatch (.single value) →
      value.isGuardedElement = true) :
    part.Keeps fun ops => areGuardedOperators ops = true := by
  obtain ⟨field, addition⟩ := part
  cases addition with
  | equality value => exact Json.isGuarded_iff.mp (equality value rfl)
  | operand op operand =>
      refine ⟨ofClient.1, fun ops guarded => areGuardedOperators_withOperand guarded ?_⟩
      rintro value rfl rfl
      exact element value rfl
  | member key value =>
      obtain rfl : key = "$options" := ofClient
      exact ⟨by decide, fun ops guarded =>
        areGuardedOperators_insert_plain guarded (by decide) (by decide)⟩
  | logical value => exact ofClient.elim

/-- **What the filter of a client can ask for.**  No key of the mapped filter has a dollar.  Where
every equality with an operator map and every element test of a client is guarded, as all other
tests are, the mapped filter is guarded at every depth, and what it compiles to combines nothing but
tests of fields. -/
theorem areGuardedClauses_mapFilters [PatternReader] (filters : Document) :
    (∀ key ∈ (mapFilters filters .untrusted).clauses.keys, isDollarKey key = false) ∧
      ((∀ entry ∈ filters, ∀ field value,
          .ok ⟨field, .equality value⟩ ∈ FilterPart.ofEntry .untrusted entry →
          value.isGuarded = true) →
        (∀ entry ∈ filters, ∀ field value,
          .ok ⟨field, .operand .elemMatch (.single value)⟩ ∈ FilterPart.ofEntry .untrusted entry →
          value.isGuardedElement = true) →
        areGuardedClauses (mapFilters filters .untrusted).clauses = true ∧
          ∀ fields p, Predicate.compile (mapFilters filters .untrusted).clauses fields = .ok p →
            p.isPlain = true) := by
  have paths : ∀ member ∈ (mapFilters filters .untrusted).clauses, isDollarKey member.1 = false :=
    fun member mem => (exists_entry_of_mem_mapFilters mem).1
  constructor
  · intro key mem
    obtain ⟨member, inClauses, rfl⟩ := List.mem_map.mp mem
    exact paths member inClauses
  · intro equalities elements
    have guarded : OperatorMapsHave (fun ops => areGuardedOperators ops = true)
        (mapFilters filters .untrusted).clauses := by
      refine operatorMapsHave_mapFilters allowsEquality_areGuardedOperators
        fun entry inFilters part mem => ?_
      obtain ⟨field, addition⟩ := part
      refine (FilterPart.isOfClient_of_mem mem).keeps_guarded ?_ ?_
      · rintro value rfl
        exact equalities entry inFilters field value mem
      · rintro value rfl
        exact elements entry inFilters field value mem
    have guardedClauses := areGuardedClauses_iff.mpr fun member mem =>
      ⟨paths member mem, Json.isGuarded_iff.mpr fun ops => guarded member mem ops⟩
    exact ⟨guardedClauses, fun fields p compiled => isPlain_of_compile guardedClauses compiled⟩

end

/-! ### A filter with operators at three places -/

/-- An operator map for a field, one as the value of an equality and one inside an element test. -/
theorem areGuardedClauses_mapFilters_items :
    let filters : Document := [("age", .object [("$gte", .ofNat 18)]),
      ("status_eq", .object [("$in", .array [.string "active"])]),
      ("items_elemMatch", .object [("sku", .object [("$ne", .string "a")])])]
    (mapFilters filters .untrusted).clauses.keys = ["age", "status", "items"] ∧
      areGuardedClauses (mapFilters filters .untrusted).clauses = true ∧
      ∃ p, Predicate.compile (mapFilters filters .untrusted).clauses [] = .ok p ∧
        p.isPlain = true := by
  intro filters
  have age : FilterPart.ofEntry .untrusted ("age", .object [("$gte", .ofNat 18)]) =
      [.ok ⟨"age", .operand .gte (.single (.ofNat 18))⟩] := by
    rw [FilterPart.ofEntry_bare (by decide)
      (show FilterKey.parse "age" = ⟨"age", none⟩ by decide)]
    rfl
  have status : FilterPart.ofEntry .untrusted
      ("status_eq", .object [("$in", .array [.string "active"])]) =
        [.ok ⟨"status", .equality (.object [("$in", .array [.string "active"])])⟩] := by
    rw [FilterPart.ofEntry_operator (by decide)
      (show FilterKey.parse "status_eq" = ⟨"status", some (.operator .eq)⟩ by decide)]
    rfl
  have items : FilterPart.ofEntry .untrusted
      ("items_elemMatch", .object [("sku", .object [("$ne", .string "a")])]) =
        [.ok ⟨"items", .operand .elemMatch
          (.single (.object [("sku", .object [("$ne", .string "a")])]))⟩] := by
    rw [FilterPart.ofEntry_operator (by decide)
      (show FilterKey.parse "items_elemMatch" = ⟨"items", some (.operator .elemMatch)⟩ by decide)]
    rfl
  have equalities : ∀ entry ∈ filters, ∀ field value,
      .ok ⟨field, .equality value⟩ ∈ FilterPart.ofEntry .untrusted entry →
      value.isGuarded = true := by
    intro entry inFilters field value mem
    simp only [filters, List.mem_cons, List.not_mem_nil, or_false] at inFilters
    rcases inFilters with rfl | rfl | rfl
    · rw [age] at mem
      cases List.mem_singleton.mp mem
    · rw [status] at mem
      cases List.mem_singleton.mp mem
      decide
    · rw [items] at mem
      cases List.mem_singleton.mp mem
  have elements : ∀ entry ∈ filters, ∀ field value,
      .ok ⟨field, .operand .elemMatch (.single value)⟩ ∈ FilterPart.ofEntry .untrusted entry →
      value.isGuardedElement = true := by
    intro entry inFilters field value mem
    simp only [filters, List.mem_cons, List.not_mem_nil, or_false] at inFilters
    rcases inFilters with rfl | rfl | rfl
    · rw [age] at mem
      cases List.mem_singleton.mp mem
    · rw [status] at mem
      cases List.mem_singleton.mp mem
    · rw [items] at mem
      cases List.mem_singleton.mp mem
      decide
  obtain ⟨guarded, plain⟩ := (areGuardedClauses_mapFilters filters).2 equalities elements
  obtain ⟨p, compiled⟩ := Except.exists_eq_ok_of_isOk
    (x := Predicate.compile (mapFilters filters .untrusted).clauses []) (by decide +kernel)
  exact ⟨by decide +kernel, guarded, p, compiled, plain [] p compiled⟩

/-- An operator that is none for clients gets through as the value of an equality. -/
example : areGuardedClauses
    (mapFilters [("age_eq", .object [("$where", .ofNat 1)])] .untrusted).clauses = false := by
  decide +kernel

/-- So does a logical key inside an element test. -/
example : areGuardedClauses (mapFilters [("items_elemMatch",
    .object [("$or", .array []), ("sku", .string "a")])] .untrusted).clauses = false := by
  decide +kernel

end DocQuery
