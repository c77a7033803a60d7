import DocQuery.Proofs.Filter.Folding

/-!
# When the filter of a client compiles

Two readers look at an operand.  The mapping of a flat filter brings it into its native form or
leaves it out; the compiler of native filters expects that form and refuses the whole query
otherwise.  They agree on every operator, with three exceptions that the mapping does not look
into:

* the value of an equality, which becomes the clause of its field even where it is an operator map;
* the options of a pattern, because a pattern is tried without the options that arrive beside it,
  and with no more than the one for the case of letters where it brings its own;
* the operand of an element test, which is a filter or an operator map of its own.

So a mapped filter compiles exactly if these do (`compile_mapFilters_iff`), and everything else that
is malformed has been reported and left out.

## Main definitions

* `Operator.Takes`: the operands that an operator can be compiled with
* `CheckedOperators`: operator maps as the mapping builds them
* `PatternsCompile`, `ElementsCompile`: what it leaves to the compiler
* `compile_mapFilters_iff`
-/

namespace DocQuery

/-! ### Operands in native form -/

/-- The operands that an operator can be compiled with, as far as their kind goes. -/
def Operator.Takes : Operator → Json → Prop
  | .isIn, value | .notIn, value | .all, value => ∃ items, value = .array items
  | .regex, value => ∃ pattern, value = .string pattern
  | .size, value => ∃ n, value.natural? = some n
  | _, _ => True

/-- A native operand as the mapping produces it: of a kind that the operator takes, and a pattern
without options is one that can be read. -/
def Operand.IsNative [PatternReader] (op : Operator) : Operand → Prop
  | .single value => op ≠ .regex ∧ op.Takes value
  | .regex pattern options =>
    op = .regex ∧ (options = none → ∃ p, compilePattern pattern "" = .ok p)

theorem Number.natural?_ofNat {n : Nat} (word : n < 0x10000000000000000) :
    (Number.ofNat n).natural? = some n := by
  rw [ofNat, dif_pos word, natural?, if_pos (by omega), Int.toNat_natCast]

/-- A number of elements fits 64 bits. -/
theorem Operand.count?_lt {value : Json} {n : Nat} (counted : count? value = some n) :
    n < 0x10000000000000000 := by
  unfold count? at counted
  split at counted
  · next m =>
      cases m with
      | float x => cases counted
      | integer m inRange =>
          rw [Number.natural?] at counted
          split at counted
          · have := Option.some.inj counted
            omega
          · cases counted
  · rw [Numeral.word?, Numeral.natural?] at counted
    simpa using (Option.filter_eq_some_iff.mp counted).2
  · cases counted

/-- A pattern without options is tried under the modes that it is compiled with. -/
theorem compilePattern_of_read [PatternReader] {pattern : String} {p : Pattern}
    (read : PatternReader.read { Pattern.Flags.standard with ignoreCase := false } pattern =
      .ok p) : compilePattern pattern "" = .ok p := by
  unfold compilePattern
  dsimp only
  split
  · next other compiled => rw [Except.ok.inj (compiled.symm.trans read)]
  · next unread => cases unread.symm.trans read

/-- Bringing an operand into its native form does so. -/
theorem Operand.isNative_of_coerce [PatternReader] {op : Operator} {value : Json}
    {operand : Operand} (coerced : coerce op value = .ok operand) : operand.IsNative op := by
  cases op with
  | regex =>
      simp only [coerce] at coerced
      split at coerced
      · split at coerced
        · next raw _ p read =>
            rw [← Except.ok.inj coerced]
            refine ⟨rfl, fun plain => ⟨p, compilePattern_of_read ?_⟩⟩
            rw [plain] at read
            exact read
        · cases coerced
      · cases coerced
  | size =>
      simp only [coerce] at coerced
      split at coerced
      · next n counted =>
          rw [← Except.ok.inj coerced]
          exact ⟨by decide, n, Number.natural?_ofNat (count?_lt counted)⟩
      · cases coerced
  | isIn | notIn | all =>
      simp only [coerce] at coerced
      split at coerced <;> rw [← Except.ok.inj coerced] <;> exact ⟨by decide, _, rfl⟩
  | elemMatch =>
      simp only [coerce] at coerced
      split at coerced
      · rw [← Except.ok.inj coerced]
        exact ⟨by decide, trivial⟩
      · cases coerced
  | gt | gte | lt | lte =>
      simp only [coerce] at coerced
      split at coerced <;> rw [← Except.ok.inj coerced] <;> exact ⟨by decide, trivial⟩
  | eq | ne | «exists» =>
      simp only [coerce] at coerced
      rw [← Except.ok.inj coerced]
      exact ⟨by decide, trivial⟩

/-! ### The parts of a filter of a client -/

/-- A part as the filter of a client has it. -/
def FilterPart.IsOfClient [PatternReader] : FilterPart → Prop
  | ⟨_, .equality _⟩ => True
  | ⟨_, .operand op operand⟩ => op ≠ .eq ∧ operand.IsNative op
  | ⟨_, .member key _⟩ => key = "$options"
  | ⟨_, .logical _⟩ => False

namespace FilterPart

variable {key field : String} {part : FilterPart}

theorem isOfClient_ofOperand [PatternReader] {op : Operator} {value : Json}
    (read : ofOperand key field op value = .ok part) : part.IsOfClient := by
  unfold ofOperand at read
  split at read
  · rw [← Except.ok.inj read]
    trivial
  · next notEq =>
      split at read
      · next operand coerced =>
          rw [← Except.ok.inj read]
          exact ⟨notEq, Operand.isNative_of_coerce coerced⟩
      · cases read

/-- Of the keys that a client may use in an operator map one is no operator. -/
theorem eq_options_of_ofNative?_eq_none (allowed : key ∈ Operator.clientKeys)
    (noOperator : Operator.ofNative? key = none) : key = "$options" := by
  simp only [Operator.clientKeys, List.mem_cons, List.not_mem_nil, or_false] at allowed
  rcases allowed with rfl | rfl | rfl | rfl | rfl | rfl | rfl | rfl | rfl | rfl | rfl | rfl | rfl |
    rfl <;> first | rfl | exact absurd noOperator (by decide)

theorem isOfClient_ofMember [PatternReader] {member : String × Json}
    (allowed : member.1 ∈ Operator.clientKeys)
    (read : ofMember key field member = .ok part) : part.IsOfClient := by
  unfold ofMember at read
  split at read
  · exact isOfClient_ofOperand read
  · next noOperator =>
      rw [← Except.ok.inj read]
      exact eq_options_of_ofNative?_eq_none allowed noOperator

theorem isOfClient_of_mem_ofBare [PatternReader] {value : Json}
    (mem : .ok part ∈ ofBare .untrusted key field value) : part.IsOfClient := by
  unfold ofBare at mem
  split at mem
  · rw [List.mem_singleton, Except.ok.injEq] at mem
    rw [mem]
    trivial
  · next ops _ =>
      rw [if_pos rfl] at mem
      split at mem
      · cases List.mem_singleton.mp mem
      · next noneForbidden =>
          obtain ⟨member, inOps, read⟩ := List.mem_map.mp mem
          have allowed := List.find?_eq_none.mp noneForbidden _ (Document.mem_keys_of_mem inOps)
          exact isOfClient_ofMember (by simpa using allowed) read

theorem isOfClient_of_mem_ofRange [PatternReader] {value : Json}
    (mem : .ok part ∈ ofRange key field value) :
    part.IsOfClient := by
  unfold ofRange at mem
  split at mem
  · simp only [List.mem_cons, Except.ok.injEq, List.not_mem_nil, or_false] at mem
    rcases mem with rfl | rfl <;> exact ⟨by decide, by decide, trivial⟩
  · cases List.mem_singleton.mp mem

/-- **A filter of a client has three kinds of parts**: equalities with any value, operators with a
native operand, and options. -/
theorem isOfClient_of_mem [PatternReader] {entry : String × Json}
    (mem : .ok part ∈ ofEntry .untrusted entry) :
    part.IsOfClient := by
  unfold ofEntry at mem
  split at mem
  · rw [if_neg (by rintro ⟨trusted, -⟩; cases trusted)] at mem
    cases List.mem_singleton.mp mem
  · revert mem
    rcases FilterKey.parse entry.1 with ⟨field, _ | op | _⟩ <;> intro mem
    · exact isOfClient_of_mem_ofBare mem
    · exact isOfClient_ofOperand (List.mem_singleton.mp mem).symm
    · exact isOfClient_of_mem_ofRange mem

end FilterPart

/-! ### Operator maps as the mapping builds them -/

/-- An operator map of operators whose operands are of their kinds, in which a pattern without
options can be read. -/
structure CheckedOperators [PatternReader] (ops : Document) : Prop where
  takes : ∀ member ∈ ops,
    member.1 = "$options" ∨ ∃ op : Operator, op.native = member.1 ∧ op.Takes member.2
  plainPattern : ops.contains "$options" = false →
    ∀ pattern, ("$regex", .string pattern) ∈ ops → ∃ p, compilePattern pattern "" = .ok p

theorem Document.contains_insert {doc : Document} {key other : String} {value : Json} :
    (doc.insert key value).contains other = (other == key || doc.contains other) := by
  rw [Bool.eq_iff_iff, contains_iff, mem_keys_insert, Bool.or_eq_true, beq_iff_eq, contains_iff]

namespace CheckedOperators

variable {ops : Document}

theorem nil [PatternReader] : CheckedOperators [] :=
  ⟨fun _ mem => absurd mem List.not_mem_nil, fun _ _ mem => absurd mem List.not_mem_nil⟩

/-- A checked operator map stays checked when an operand of the right kind joins it that is no
pattern. -/
theorem insert [PatternReader] (checked : CheckedOperators ops) {key : String} {value : Json}
    (takes : key = "$options" ∨ ∃ op : Operator, op.native = key ∧ op.Takes value)
    (noPattern : key ≠ "$regex") : CheckedOperators (ops.insert key value) := by
  refine ⟨fun member mem => ?_, fun noOptions pattern mem => ?_⟩
  · rcases Document.mem_of_mem_insert mem with rfl | mem
    · exact takes
    · exact checked.takes member mem
  · rw [Document.contains_insert, Bool.or_eq_false_iff] at noOptions
    rcases Document.mem_of_mem_insert mem with same | mem
    · exact absurd (Prod.mk.inj same).1.symm noPattern
    · exact checked.plainPattern noOptions.2 pattern mem

theorem insert_pattern [PatternReader] (checked : CheckedOperators ops) {pattern : String}
    (plain : ops.contains "$options" = false → ∃ p, compilePattern pattern "" = .ok p) :
    CheckedOperators (ops.insert "$regex" (.string pattern)) := by
  refine ⟨fun member mem => ?_, fun noOptions other mem => ?_⟩
  · rcases Document.mem_of_mem_insert mem with rfl | mem
    · exact .inr ⟨.regex, rfl, pattern, rfl⟩
    · exact checked.takes member mem
  · rw [Document.contains_insert, Bool.or_eq_false_iff] at noOptions
    rcases Document.mem_of_mem_insert mem with same | mem
    · obtain rfl : other = pattern := Json.string.inj (Prod.mk.inj same).2
      exact plain noOptions.2
    · exact checked.plainPattern noOptions.2 other mem

theorem withOperand [PatternReader] (checked : CheckedOperators ops) {op : Operator}
    {operand : Operand}
    (native : operand.IsNative op) : CheckedOperators (withOperand ops op operand) := by
  cases operand with
  | single value =>
      obtain ⟨notRegex, takes⟩ := native
      refine checked.insert (.inr ⟨op, rfl, takes⟩) ?_
      cases op with
      | regex => exact absurd rfl notRegex
      | _ => decide
  | regex pattern options =>
      obtain ⟨-, plain⟩ := native
      cases options with
      | none => exact checked.insert_pattern fun _ => plain rfl
      | some options =>
          -- beside its options nothing is known of the pattern
          refine ⟨fun member mem => ?_, fun noOptions => ?_⟩
          · rcases Document.mem_of_mem_insert mem with rfl | mem
            · exact .inl rfl
            · rcases Document.mem_of_mem_insert mem with rfl | mem
              · exact .inr ⟨.regex, rfl, pattern, rfl⟩
              · exact checked.takes member mem
          · rw [DocQuery.withOperand, Document.contains_insert] at noOptions
            cases noOptions

theorem allowsEquality [PatternReader] : AllowsEquality CheckedOperators where
  empty := nil
  eq value checked := checked.insert (.inr ⟨.eq, rfl, trivial⟩) (by decide)
  all items checked := checked.insert (.inr ⟨.all, rfl, items, rfl⟩) (by decide)

end CheckedOperators

/-! ### What is left to the compiler -/

/-- Beside options every pattern of an operator map can be read with them. -/
def PatternsCompile [PatternReader] (ops : Document) : Prop :=
  ops.contains "$options" = true → ∀ pattern, ("$regex", .string pattern) ∈ ops →
    ∃ p, compilePattern pattern ((optionsOf ops).getD "") = .ok p

/-- The operand of every element test of an operator map is a filter that compiles. -/
def ElementsCompile [PatternReader] (path : String) (ops : Document) : Prop :=
  ∀ operand, ("$elemMatch", operand) ∈ ops → ∃ test, compileElement path operand = .ok test

theorem optionsOf_eq_none {ops : Document} (absent : ops.contains "$options" = false) :
    optionsOf ops = none := by
  rw [Document.contains, Option.isSome_eq_false_iff, Option.isNone_iff_eq_none] at absent
  rw [optionsOf, absent]
  rfl

theorem compiledOperator?_native (op : Operator) : compiledOperator? op.native = some op := by
  cases op <;> decide

theorem operatorTest_elemMatch [PatternReader] {path : String} {ops : Document} {operand : Json} :
    operatorTest path ops ("$elemMatch", operand) = compileElement path operand := by
  rw [operatorTest, show compiledOperator? "$elemMatch" = some .elemMatch by decide]

theorem operatorTest_native [PatternReader] {path : String} {ops : Document} {op : Operator}
    {operand : Json} (noElement : op ≠ .elemMatch) :
    operatorTest path ops (op.native, operand) = FieldTest.ofOperator path ops op operand := by
  rw [operatorTest, compiledOperator?_native]
  cases op with
  | elemMatch => exact absurd rfl noElement
  | _ => rfl

theorem FieldTest.ofOperator_regex [PatternReader] {path : String} {ops : Document}
    {pattern : String} :
    (∃ test, ofOperator path ops .regex (.string pattern) = .ok test) ↔
      ∃ p, compilePattern pattern ((optionsOf ops).getD "") = .ok p := by
  simp only [ofOperator, Except.map_eq_ok_iff, optionsOf]
  constructor
  · rintro ⟨_, p, read, -⟩
    exact ⟨p, read⟩
  · rintro ⟨p, read⟩
    exact ⟨_, p, read, rfl⟩

theorem FieldTest.takes_of_ofOperator_regex [PatternReader] {path : String} {ops : Document}
    {operand : Json} {test : FieldTest} (compiled : ofOperator path ops .regex operand = .ok test) :
    Operator.regex.Takes operand := by
  cases operand with
  | string pattern => exact ⟨pattern, rfl⟩
  | _ => cases compiled

/-- An operator takes what it can be compiled with, and a pattern aside it compiles with what it
takes. -/
theorem FieldTest.ofOperator_iff [PatternReader] {path : String} {ops : Document} {op : Operator}
    {operand : Json} (noElement : op ≠ .elemMatch) (noPattern : op ≠ .regex) :
    (∃ test, ofOperator path ops op operand = .ok test) ↔ op.Takes operand := by
  cases op with
  | elemMatch => exact absurd rfl noElement
  | regex => exact absurd rfl noPattern
  | isIn | notIn | all =>
      simp only [ofOperator, Operator.Takes, Except.map_eq_ok_iff]
      cases operand <;> simp [operandList]
  | size =>
      simp only [ofOperator, Operator.Takes]
      cases operand.natural? <;> simp
  | _ => exact ⟨fun _ => trivial, fun _ => ⟨_, rfl⟩⟩

namespace CheckedOperators

variable {ops : Document} {path : String}

/-- The mapping has checked all of an operator map but the options beside a pattern and the insides
of element tests. -/
theorem compiles_iff [PatternReader] (checked : CheckedOperators ops) :
    (∀ member ∈ ops, OperatorClause.Compiles path ops member) ↔
      PatternsCompile ops ∧ ElementsCompile path ops := by
  constructor
  · intro compiles
    refine ⟨fun _ pattern mem => ?_, fun operand mem => ?_⟩
    · have compiled := compiles _ mem (show "$regex" ≠ "$options" by decide)
      rw [show "$regex" = Operator.regex.native from rfl, operatorTest_native (by decide)]
        at compiled
      exact FieldTest.ofOperator_regex.mp compiled
    · have compiled := compiles _ mem (show "$elemMatch" ≠ "$options" by decide)
      rwa [operatorTest_elemMatch] at compiled
  · rintro ⟨patterns, elements⟩ ⟨key, operand⟩ mem notOptions
    obtain isOptions | ⟨op, native, takes⟩ := checked.takes _ mem
    · exact absurd isOptions notOptions
    · obtain rfl : op.native = key := native
      by_cases isElement : op = .elemMatch
      · subst isElement
        rw [show Operator.elemMatch.native = "$elemMatch" from rfl, operatorTest_elemMatch]
        exact elements operand mem
      · rw [operatorTest_native isElement]
        by_cases isPattern : op = .regex
        · subst isPattern
          obtain ⟨pattern, rfl⟩ := takes
          refine FieldTest.ofOperator_regex.mpr ?_
          cases options : ops.contains "$options" with
          | true => exact patterns options pattern mem
          | false =>
              rw [optionsOf_eq_none options]
              exact checked.plainPattern options pattern mem
        · exact (FieldTest.ofOperator_iff isElement isPattern).mpr takes

/-- An operator map that compiles is checked. -/
theorem of_compiles [PatternReader]
    (compiles : ∀ member ∈ ops, OperatorClause.Compiles path ops member) :
    CheckedOperators ops := by
  refine ⟨fun member mem => ?_, fun noOptions pattern mem => ?_⟩
  · by_cases isOptions : member.1 = "$options"
    · exact .inl isOptions
    · obtain ⟨test, compiled⟩ := compiles member mem isOptions
      rw [operatorTest] at compiled
      split at compiled
      · next known => exact .inr ⟨.elemMatch, compiledOperator?_eq_some known, trivial⟩
      · next op notElement known =>
          refine .inr ⟨op, compiledOperator?_eq_some known, ?_⟩
          by_cases isPattern : op = .regex
          · subst isPattern
            exact FieldTest.takes_of_ofOperator_regex compiled
          · exact (FieldTest.ofOperator_iff notElement isPattern).mp ⟨test, compiled⟩
      · cases compiled
  · have compiled := compiles _ mem (show "$regex" ≠ "$options" by decide)
    rw [show "$regex" = Operator.regex.native from rfl, operatorTest_native (by decide)] at compiled
    have read := FieldTest.ofOperator_regex.mp compiled
    rwa [optionsOf_eq_none noOptions] at read

end CheckedOperators

/-! ### A whole filter -/

section

variable {filters : Document} {fields : List String}

theorem Clause.compiles_literal [PatternReader] {key : String} {value : Json}
    (path : isDollarKey key = false)
    (literal : value.operators? = none) : Clause.Compiles fields (key, value) :=
  ⟨.field key (.equal value), by rw [compileClause_path path, literal]⟩

/-- The parts of a client's filter keep operator maps checked where the values of equalities
compile. -/
theorem FilterPart.IsOfClient.keeps_checked [PatternReader] {part : FilterPart}
    (ofClient : part.IsOfClient) (path : isDollarKey part.field = false)
    (equality : ∀ value, part.addition = .equality value →
      Clause.Compiles fields (part.field, value)) :
    part.Keeps CheckedOperators := by
  obtain ⟨field, addition⟩ := part
  cases addition with
  | equality value =>
      intro ops isMap
      exact .of_compiles ((Clause.compiles_operators path isMap).mp (equality value rfl))
  | operand op operand => exact ⟨ofClient.1, fun ops checked => checked.withOperand ofClient.2⟩
  | member key value =>
      obtain rfl : key = "$options" := ofClient
      exact ⟨by decide, fun ops checked => checked.insert (.inl rfl) (by decide)⟩
  | logical value => exact ofClient.elim

/-- Where the value of every equality compiles, the mapping leaves checked operator maps only. -/
theorem checkedOperators_mapFilters [PatternReader]
    (equalities : ∀ entry ∈ filters, ∀ field value,
      .ok ⟨field, .equality value⟩ ∈ FilterPart.ofEntry .untrusted entry →
      Clause.Compiles fields (field, value)) :
    OperatorMapsHave CheckedOperators (mapFilters filters .untrusted).clauses := by
  refine operatorMapsHave_mapFilters CheckedOperators.allowsEquality ?_
  intro entry inFilters part mem
  have path : isDollarKey part.field = false := by
    rcases FilterPart.writesField_of_mem mem with ⟨path, field⟩ | ⟨trusted, -⟩
    · exact field ▸ FilterKey.isDollarKey_parse path
    · cases trusted
  have equality : ∀ value, part.addition = .equality value →
      Clause.Compiles fields (part.field, value) := by
    intro value isEquality
    obtain ⟨field, addition⟩ := part
    obtain rfl : addition = .equality value := isEquality
    exact equalities entry inFilters field value mem
  exact (FilterPart.isOfClient_of_mem mem).keeps_checked path equality

/-- **When the filter of a client compiles.**  The mapping reports what it leaves out, all of it and
always as a malformed value.  Where the value of every equality compiles as a clause, as any value
does that is no operator map, the rest compiles exactly if each of its operator maps has patterns
that can be read with the options beside them and element tests that compile. -/
theorem compile_mapFilters_iff [PatternReader]
    (equalities : ∀ entry ∈ filters, ∀ field value,
      .ok ⟨field, .equality value⟩ ∈ FilterPart.ofEntry .untrusted entry →
      Clause.Compiles fields (field, value)) :
    (∀ diagnostic, diagnostic ∈ (mapFilters filters .untrusted).diagnostics ↔
        ∃ entry ∈ filters, .error diagnostic ∈ FilterPart.ofEntry .untrusted entry) ∧
      (∀ diagnostic ∈ (mapFilters filters .untrusted).diagnostics,
        ∃ key fault, diagnostic = .malformedFilter key (OperandFault.reason fault)) ∧
      ((∃ p, Predicate.compile (mapFilters filters .untrusted).clauses fields = .ok p) ↔
        ∀ member ∈ (mapFilters filters .untrusted).clauses, ∀ ops,
          member.2.operators? = some ops →
          PatternsCompile ops ∧ ElementsCompile member.1 ops) := by
  refine ⟨fun diagnostic => mem_diagnostics_mapFilters, fun diagnostic mem => ?_, ?_⟩
  · obtain ⟨entry, -, refused⟩ := mem_diagnostics_mapFilters.mp mem
    exact FilterPart.exists_eq_refusal_of_mem refused
  rw [Predicate.exists_compile_iff]
  refine forall₂_congr fun member mem => ?_
  have path := (exists_entry_of_mem_mapFilters mem).1
  cases isMap : member.2.operators? with
  | none =>
      refine iff_of_true (Clause.compiles_literal path isMap) ?_
      rintro ops ⟨⟩
  | some ops =>
      have checked := checkedOperators_mapFilters equalities member mem ops isMap
      rw [Clause.compiles_operators path isMap, checked.compiles_iff]
      simp

end

/-! ### A filter with a pattern, an element test and a malformed entry -/

/-- The malformed entry is left out and the rest compiles, the pattern with its option and the
filter of the element test included. -/
theorem compile_mapFilters_iff_items :
    let filters : Document := [("name_regex", .string "/^al/s"), ("age", .ofNat 20),
      ("tags_size", .string "many"), ("items_elemMatch", .object [("sku", .string "a")])]
    (mapFilters filters .untrusted).diagnostics =
        [.malformedFilter "tags_size" "size expects a non-negative integer"] ∧
      ∀ member ∈ (mapFilters filters .untrusted).clauses, ∀ ops, member.2.operators? = some ops →
        PatternsCompile ops ∧ ElementsCompile member.1 ops := by
  intro filters
  have equalities : ∀ entry ∈ filters, ∀ field value,
      .ok ⟨field, .equality value⟩ ∈ FilterPart.ofEntry .untrusted entry →
      Clause.Compiles [] (field, value) := by
    intro entry inFilters field value mem
    have noEquality : ∀ {key path op operand}, op ≠ .eq →
        FilterPart.ofOperand key path op operand ≠ .ok ⟨field, .equality value⟩ := by
      intro key path op operand notEq read
      rw [FilterPart.ofOperand, if_neg notEq] at read
      split at read <;> cases read
    simp only [filters, List.mem_cons, List.not_mem_nil, or_false] at inFilters
    rcases inFilters with rfl | rfl | rfl | rfl
    · have parsed : FilterKey.parse "name_regex" = ⟨"name", some (.operator .regex)⟩ := by decide
      rw [FilterPart.ofEntry_operator (by decide) parsed] at mem
      exact absurd (List.mem_singleton.mp mem).symm (noEquality (by decide))
    · have parsed : FilterKey.parse "age" = ⟨"age", none⟩ := by decide
      rw [FilterPart.ofEntry_bare (by decide) parsed] at mem
      cases List.mem_singleton.mp mem
      exact Clause.compiles_literal (by decide) rfl
    · have parsed : FilterKey.parse "tags_size" = ⟨"tags", some (.operator .size)⟩ := by decide
      rw [FilterPart.ofEntry_operator (by decide) parsed] at mem
      exact absurd (List.mem_singleton.mp mem).symm (noEquality (by decide))
    · have parsed : FilterKey.parse "items_elemMatch" = ⟨"items", some (.operator .elemMatch)⟩ := by
        decide
      rw [FilterPart.ofEntry_operator (by decide) parsed] at mem
      exact absurd (List.mem_singleton.mp mem).symm (noEquality (by decide))
  have compiled : ∃ p, Predicate.compile (mapFilters filters .untrusted).clauses [] = .ok p :=
    Except.exists_eq_ok_of_isOk (by decide +kernel)
  exact ⟨by decide +kernel, (compile_mapFilters_iff equalities).2.2.mp compiled⟩

/-- An operator map that arrives as the value of an equality is not looked into. -/
example :
    let filters : Document := [("age_eq", .object [("$where", .ofNat 1)])]
    (Predicate.compile (mapFilters filters .untrusted).clauses []).isOk = false := by
  decide +kernel

end DocQuery
