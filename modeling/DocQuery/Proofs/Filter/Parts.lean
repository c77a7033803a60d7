import DocQuery.Filter.Mapping

/-!
# The parts of a flat filter

Mapping a flat filter goes entry by entry and, inside an operator map, member by member.  What such
a part adds, or why it is left out, depends on nothing but the part itself: neither on the clauses
so far nor on the other parts.  So the mapping is two steps, which are apart here.  First every
entry is read into its parts (`FilterPart.ofEntry`), each accepted or refused; then the accepted
parts are folded into the clauses in order (`FilterPart.addTo`) and the refused ones are reported
(`mapFilters_eq`).

## Main definitions

* `FilterPart`, `FilterPart.addTo`: what an accepted part adds to the clauses
* `FilterPart.ofEntry`: the parts of an entry
* `mapFilters_eq`, `mapFilters_parts_induction`
-/

namespace DocQuery

/-- What a part of a flat filter adds to the clause of a field. -/
inductive Addition where
  /-- An equality with a value, as any value given without a test is one. -/
  | equality (value : Json)
  /-- Another operator with its native operand. -/
  | operand (op : Operator) (operand : Operand)
  /-- A member of an operator map whose key is no operator. -/
  | member (key : String) (value : Json)
  /-- The value of a logical key, as it stands. -/
  | logical (value : Json)

/-- An accepted part of a flat filter. -/
structure FilterPart where
  field : String
  addition : Addition

namespace FilterPart

/-- The clauses with a part folded into them. -/
def addTo : FilterPart → Document → Document
  | ⟨field, .equality value⟩, clauses => Clauses.addEqual clauses field value
  | ⟨field, .operand op operand⟩, clauses => Clauses.addOperand clauses field op operand
  | ⟨field, .member key value⟩, clauses => Clauses.addOperator clauses field key value
  | ⟨field, .logical value⟩, clauses => clauses.insert field value

/-- The report of a part that is left out. -/
def refusal (key : String) (fault : OperandFault) : Diagnostic := .malformedFilter key fault.reason

/-- The part of an operand, unless it has no native form; an equality takes any value. -/
def ofOperand [PatternReader] (key field : String) (op : Operator) (value : Json) :
    Except Diagnostic FilterPart :=
  if op = .eq then .ok ⟨field, .equality value⟩
  else
    match Operand.coerce op value with
    | .ok operand => .ok ⟨field, .operand op operand⟩
    | .error fault => .error (refusal key fault)

/-- The part of a member of an operator map. -/
def ofMember [PatternReader] (key field : String) (member : String × Json) :
    Except Diagnostic FilterPart :=
  match Operator.ofNative? member.1 with
  | some op => ofOperand s!"{key}.{member.1}" field op member.2
  | none => .ok ⟨field, .member member.1 member.2⟩

/-- The parts of a value given without a test: one for each member of an operator map, which a
client may fill with known operators only, and an equality otherwise. -/
def ofBare [PatternReader] (trust : Trust) (key field : String) (value : Json) :
    List (Except Diagnostic FilterPart) :=
  match value.operators? with
  | none => [.ok ⟨field, .equality value⟩]
  | some ops =>
    match (if trust = .untrusted then MappedFilters.forbiddenKey? ops else none) with
    | some bad => [.error (refusal key (.unsupportedOperator bad))]
    | none => ops.map (ofMember key field)

/-- The parts of a range: its two bounds. -/
def ofRange (key field : String) (value : Json) : List (Except Diagnostic FilterPart) :=
  match Operand.bounds value with
  | .ok (low, high) =>
    [.ok ⟨field, .operand .gte (.single (.number low))⟩,
      .ok ⟨field, .operand .lte (.single (.number high))⟩]
  | .error fault => [.error (refusal key fault)]

/-- The parts of an entry of a flat filter. -/
def ofEntry [PatternReader] (trust : Trust) (entry : String × Json) :
    List (Except Diagnostic FilterPart) :=
  if isDollarKey entry.1 then
    if trust = .trusted ∧ Operator.logicalKeys.contains entry.1 then
      [.ok ⟨entry.1, .logical entry.2⟩]
    else [.error (refusal entry.1 .operatorKey)]
  else
    match FilterKey.parse entry.1 with
    | ⟨field, none⟩ => ofBare trust entry.1 field entry.2
    | ⟨field, some .between⟩ => ofRange entry.1 field entry.2
    | ⟨field, some (.operator op)⟩ => [ofOperand entry.1 field op entry.2]

/-- A value with an operator behind its key has one part. -/
theorem ofEntry_operator [PatternReader] {trust : Trust} {key field : String} {op : Operator}
    (path : isDollarKey key = false) (parsed : FilterKey.parse key = ⟨field, some (.operator op)⟩)
    (value : Json) : ofEntry trust (key, value) = [ofOperand key field op value] := by
  simp only [ofEntry, path, parsed, Bool.false_eq_true, if_false]

/-- A value without a test behind its key is read on its own. -/
theorem ofEntry_bare [PatternReader] {trust : Trust} {key field : String}
    (path : isDollarKey key = false) (parsed : FilterKey.parse key = ⟨field, none⟩) (value : Json) :
    ofEntry trust (key, value) = ofBare trust key field value := by
  simp only [ofEntry, path, parsed, Bool.false_eq_true, if_false]

/-- A range behind its key has the parts of its bounds. -/
theorem ofEntry_range [PatternReader] {trust : Trust} {key field : String}
    (path : isDollarKey key = false)
    (parsed : FilterKey.parse key = ⟨field, some .between⟩) (value : Json) :
    ofEntry trust (key, value) = ofRange key field value := by
  simp only [ofEntry, path, parsed, Bool.false_eq_true, if_false]

section

variable {trust : Trust} {key field : String} {entry : String × Json} {diagnostic : Diagnostic}

theorem exists_eq_refusal_of_ofOperand [PatternReader] {op : Operator} {value : Json}
    (refused : ofOperand key field op value = .error diagnostic) :
    ∃ fault, diagnostic = refusal key fault := by
  unfold ofOperand at refused
  split at refused
  · cases refused
  · split at refused
    · cases refused
    · exact ⟨_, (Except.error.inj refused).symm⟩

theorem exists_eq_refusal_of_mem_ofBare [PatternReader] {value : Json}
    (mem : .error diagnostic ∈ ofBare trust key field value) :
    ∃ key fault, diagnostic = refusal key fault := by
  unfold ofBare at mem
  split at mem
  · cases List.mem_singleton.mp mem
  · split at mem
    · exact ⟨_, _, Except.error.inj (List.mem_singleton.mp mem)⟩
    · obtain ⟨member, -, refused⟩ := List.mem_map.mp mem
      rw [ofMember] at refused
      split at refused
      · exact ⟨_, exists_eq_refusal_of_ofOperand refused⟩
      · cases refused

/-- Whatever is left out of a filter is reported as a malformed value of the filter. -/
theorem exists_eq_refusal_of_mem [PatternReader] (mem : .error diagnostic ∈ ofEntry trust entry) :
    ∃ key fault, diagnostic = refusal key fault := by
  unfold ofEntry at mem
  split at mem
  · split at mem
    · cases List.mem_singleton.mp mem
    · exact ⟨_, _, Except.error.inj (List.mem_singleton.mp mem)⟩
  · revert mem
    rcases FilterKey.parse entry.1 with ⟨field, _ | op | _⟩ <;> intro mem
    · exact exists_eq_refusal_of_mem_ofBare mem
    · exact ⟨_, exists_eq_refusal_of_ofOperand (List.mem_singleton.mp mem).symm⟩
    · dsimp only at mem
      unfold ofRange at mem
      split at mem
      · simp at mem
      · exact ⟨_, _, Except.error.inj (List.mem_singleton.mp mem)⟩

end

/-- The accepted parts in order. -/
def accepted (parts : List (Except Diagnostic FilterPart)) : List FilterPart :=
  parts.filterMap Except.toOption

/-- The reports of the refused parts in order. -/
def refused (parts : List (Except Diagnostic FilterPart)) : List Diagnostic :=
  parts.filterMap fun
    | .ok _ => none
    | .error diagnostic => some diagnostic

end FilterPart

namespace MappedFilters

variable {out : MappedFilters}

/-- Fold an accepted part into the clauses and report a refused one. -/
def addPart (out : MappedFilters) : Except Diagnostic FilterPart → MappedFilters
  | .ok part => { out with clauses := part.addTo out.clauses }
  | .error diagnostic => { out with diagnostics := out.diagnostics ++ [diagnostic] }

theorem addTest_eq [PatternReader] (key field : String) (op : Operator) (value : Json) :
    out.addTest key field op value = out.addPart (FilterPart.ofOperand key field op value) := by
  unfold addTest FilterPart.ofOperand
  by_cases isEq : op = .eq
  · rw [isEq]
    rfl
  · rw [if_neg isEq]
    cases Operand.coerce op value <;> rfl

theorem addNative_eq [PatternReader] (key field : String) (member : String × Json) :
    out.addNative key field member = out.addPart (FilterPart.ofMember key field member) := by
  unfold addNative FilterPart.ofMember
  cases Operator.ofNative? member.1 with
  | none => rfl
  | some op => exact addTest_eq _ _ _ _

theorem addBare_eq [PatternReader] (trust : Trust) (key field : String) (value : Json) :
    addBare trust out key field value =
      (FilterPart.ofBare trust key field value).foldl addPart out := by
  unfold addBare FilterPart.ofBare
  cases value.operators? with
  | none => rfl
  | some ops =>
      dsimp only
      cases (if trust = .untrusted then forbiddenKey? ops else none) with
      | some bad => rfl
      | none => simp only [List.foldl_map, addNative_eq]

theorem addBetween_eq (key field : String) (value : Json) :
    out.addBetween key field value = (FilterPart.ofRange key field value).foldl addPart out := by
  unfold addBetween FilterPart.ofRange
  rcases Operand.bounds value with fault | ⟨low, high⟩ <;> rfl

theorem addEntry_eq [PatternReader] (trust : Trust) (entry : String × Json) :
    addEntry trust out entry = (FilterPart.ofEntry trust entry).foldl addPart out := by
  obtain ⟨key, value⟩ := entry
  simp only [addEntry, FilterPart.ofEntry]
  split
  · split <;> rfl
  · rcases FilterKey.parse key with ⟨field, _ | op | _⟩
    · exact addBare_eq trust key field value
    · exact addTest_eq key field _ value
    · exact addBetween_eq key field value

end MappedFilters

section

variable {filters : Document} {trust : Trust}

theorem mapFilters_eq_foldl [PatternReader] (filters : Document) (trust : Trust) :
    mapFilters filters trust =
      (filters.flatMap (FilterPart.ofEntry trust)).foldl MappedFilters.addPart .empty := by
  rw [mapFilters, List.foldl_flatMap]
  congr 1
  funext out entry
  exact MappedFilters.addEntry_eq trust entry

/-- Accepted parts go into the clauses and refused ones into the report, without seeing each
other. -/
theorem foldl_addPart (parts : List (Except Diagnostic FilterPart)) (out : MappedFilters) :
    parts.foldl MappedFilters.addPart out =
      { clauses := (FilterPart.accepted parts).foldl (fun clauses part => part.addTo clauses)
          out.clauses
        diagnostics := out.diagnostics ++ FilterPart.refused parts } := by
  induction parts generalizing out with
  | nil => rw [FilterPart.refused, List.filterMap_nil, List.append_nil]; rfl
  | cons part rest ih =>
      rw [List.foldl_cons, ih]
      cases part with
      | ok part => rfl
      | error diagnostic =>
          rw [MappedFilters.addPart, List.append_assoc]
          rfl

/-- **Mapping is reading and folding**: the accepted parts of all entries are folded into the
clauses in order, and the refused ones are reported in order. -/
theorem mapFilters_eq [PatternReader] (filters : Document) (trust : Trust) :
    mapFilters filters trust =
      { clauses := (FilterPart.accepted (filters.flatMap (FilterPart.ofEntry trust))).foldl
          (fun clauses part => part.addTo clauses) []
        diagnostics := FilterPart.refused (filters.flatMap (FilterPart.ofEntry trust)) } := by
  rw [mapFilters_eq_foldl, foldl_addPart]
  rfl

/-- The mapping reports all that is refused of the entries, and nothing else. -/
theorem mem_diagnostics_mapFilters [PatternReader] {diagnostic : Diagnostic} :
    diagnostic ∈ (mapFilters filters trust).diagnostics ↔
      ∃ entry ∈ filters, .error diagnostic ∈ FilterPart.ofEntry trust entry := by
  rw [mapFilters_eq]
  constructor
  · intro mem
    obtain ⟨part, inParts, refused⟩ := List.mem_filterMap.mp mem
    obtain ⟨entry, inFilters, ofEntry⟩ := List.mem_flatMap.mp inParts
    cases part with
    | ok part => cases refused
    | error other => exact ⟨entry, inFilters, Option.some.inj refused ▸ ofEntry⟩
  · rintro ⟨entry, inFilters, ofEntry⟩
    exact List.mem_filterMap.mpr ⟨_, List.mem_flatMap.mpr ⟨entry, inFilters, ofEntry⟩, rfl⟩

/-- What no clauses have and every accepted part keeps, the mapped clauses have. -/
theorem mapFilters_parts_induction [PatternReader] {I : Document → Prop} (start : I [])
    (step : ∀ clauses part, (∃ entry ∈ filters, .ok part ∈ FilterPart.ofEntry trust entry) →
      I clauses → I (part.addTo clauses)) :
    I (mapFilters filters trust).clauses := by
  rw [mapFilters_eq]
  refine List.foldlRecOn _ _ start fun clauses ih part mem => step clauses part ?_ ih
  obtain ⟨read, inParts, accepted⟩ := List.mem_filterMap.mp mem
  obtain ⟨entry, inFilters, ofEntry⟩ := List.mem_flatMap.mp inParts
  cases read with
  | error diagnostic => cases accepted
  | ok read => exact ⟨entry, inFilters, Option.some.inj accepted ▸ ofEntry⟩

end

end DocQuery
