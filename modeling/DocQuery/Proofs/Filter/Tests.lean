import DocQuery.Proofs.Filter.Compilation
import DocQuery.Proofs.Json.Equality

/-!
# The tests of a client's filter

Every accepted part of a client's filter asks for native tests of one field: an equality for one, a
pattern with flags for two.  Folding writes a clause for each field, and the clause of a field
depends on nothing but the parts for that field (`get?_mapFilters`).  So what folding makes of a
filter can be read field by field, as what it makes of a list of tests.

No entry asks for the same test twice, options aside, which a pattern may bring along and which may
also be given beside it (`nodup_operatorsAsked`).

## Main definitions

* `FilterPart.tests`, `nativeTests`: the tests that a part and an entry ask for
* `operatorsAsked`: the operators of tests, equalities and options aside
-/

namespace DocQuery

/-! ### What parts and entries ask for -/

/-- The native tests that a part asks for. -/
def FilterPart.tests : FilterPart → Document
  | ⟨_, .equality value⟩ => [("$eq", value)]
  | ⟨_, .operand op operand⟩ => withOperand [] op operand
  | ⟨_, .member key value⟩ => [(key, value)]
  | ⟨_, .logical _⟩ => []

/-- The accepted parts of an entry of a client's filter. -/
def clientParts [PatternReader] (entry : String × Json) : List FilterPart :=
  FilterPart.accepted (FilterPart.ofEntry .untrusted entry)

/-- The native tests that an entry of a client's filter asks for. -/
def nativeTests [PatternReader] (entry : String × Json) : Document :=
  (clientParts entry).flatMap (·.tests)

/-- The field that an entry tests. -/
def fieldOf (entry : String × Json) : String := (FilterKey.parse entry.1).field

theorem ok_mem_of_mem_accepted {parts : List (Except Diagnostic FilterPart)} {part : FilterPart}
    (mem : part ∈ FilterPart.accepted parts) : .ok part ∈ parts := by
  obtain ⟨read, inParts, accepted⟩ := List.mem_filterMap.mp mem
  cases read with
  | error diagnostic => cases accepted
  | ok read => exact Option.some.inj accepted ▸ inParts

theorem isOfClient_of_mem_clientParts [PatternReader] {entry : String × Json} {part : FilterPart}
    (mem : part ∈ clientParts entry) : part.IsOfClient :=
  FilterPart.isOfClient_of_mem (ok_mem_of_mem_accepted mem)

theorem field_of_mem_clientParts [PatternReader] {entry : String × Json} {part : FilterPart}
    (mem : part ∈ clientParts entry) : part.field = fieldOf entry := by
  rcases FilterPart.writesField_of_mem (ok_mem_of_mem_accepted mem) with ⟨-, field⟩ | ⟨trusted, -⟩
  · exact field.symm
  · cases trusted

/-- Mapping a client's filter folds the parts of its entries in order. -/
theorem clauses_mapFilters [PatternReader] (filters : Document) :
    (mapFilters filters .untrusted).clauses =
      (filters.flatMap clientParts).foldl (fun clauses part => part.addTo clauses) [] := by
  rw [mapFilters_eq, FilterPart.accepted, List.filterMap_flatMap]
  rfl

/-! ### One field at a time -/

section OneField

variable {clauses clauses' : Document} {field : String}

theorem FilterPart.get?_addTo_of_ne {part : FilterPart} (other : field ≠ part.field) :
    (part.addTo clauses).get? field = clauses.get? field :=
  part.addTo_induction (I := fun written => written.get? field = clauses.get? field)
    (fun written value same => by rw [Document.get?_insert_of_ne _ _ other, same]) rfl

namespace Clauses

theorem get?_addEqual_congr (same : clauses.get? field = clauses'.get? field) (value : Json) :
    (addEqual clauses field value).get? field = (addEqual clauses' field value).get? field := by
  unfold addEqual
  rw [same]
  cases found : clauses'.get? field with
  | none => rw [Document.get?_insert_self, Document.get?_insert_self]
  | some present =>
      dsimp only
      split
      · rw [Document.get?_insert_self, Document.get?_insert_self]
      · split
        · exact same
        · rw [Document.get?_insert_self, Document.get?_insert_self]

theorem get?_addOperator_congr (same : clauses.get? field = clauses'.get? field) (op : String)
    (value : Json) :
    (addOperator clauses field op value).get? field =
      (addOperator clauses' field op value).get? field := by
  unfold addOperator
  split
  · exact get?_addEqual_congr same value
  · simp only [Document.get?_insert_self, same]

theorem get?_addOperand_congr (same : clauses.get? field = clauses'.get? field) (op : Operator)
    (operand : Operand) :
    (addOperand clauses field op operand).get? field =
      (addOperand clauses' field op operand).get? field := by
  cases operand with
  | single value => exact get?_addOperator_congr same _ value
  | regex pattern options =>
      have withPattern := get?_addOperator_congr same "$regex" (.string pattern)
      cases options with
      | none => exact withPattern
      | some options => exact get?_addOperator_congr withPattern "$options" (.string options)

end Clauses

/-- What a part makes of the clause of its field depends on that clause alone. -/
theorem FilterPart.get?_addTo_congr {part : FilterPart}
    (same : clauses.get? part.field = clauses'.get? part.field) :
    (part.addTo clauses).get? part.field = (part.addTo clauses').get? part.field := by
  obtain ⟨field, addition⟩ := part
  cases addition with
  | equality value => exact Clauses.get?_addEqual_congr same value
  | operand op operand => exact Clauses.get?_addOperand_congr same op operand
  | member key value => exact Clauses.get?_addOperator_congr same key value
  | logical value => simp only [addTo, Document.get?_insert_self]

/-- The clause of a field is what the parts for the field make of it. -/
theorem get?_foldl_addTo (parts : List FilterPart)
    (same : clauses.get? field = clauses'.get? field) :
    (parts.foldl (fun clauses part => part.addTo clauses) clauses).get? field =
      ((parts.filter (·.field = field)).foldl (fun clauses part => part.addTo clauses)
        clauses').get? field := by
  induction parts generalizing clauses clauses' with
  | nil => exact same
  | cons part rest ih =>
      by_cases own : part.field = field
      · subst own
        rw [List.filter_cons_of_pos (by simp), List.foldl_cons, List.foldl_cons]
        exact ih (FilterPart.get?_addTo_congr same)
      · rw [List.filter_cons_of_neg (by simpa using own), List.foldl_cons]
        exact ih ((FilterPart.get?_addTo_of_ne (Ne.symm own)).trans same)

theorem filter_clientParts [PatternReader] (filters : Document) (field : String) :
    (filters.flatMap clientParts).filter (·.field = field) =
      (filters.filter (fieldOf · = field)).flatMap clientParts := by
  induction filters with
  | nil => rfl
  | cons entry rest ih =>
      have fields : ∀ part ∈ clientParts entry, part.field = fieldOf entry :=
        fun part mem => field_of_mem_clientParts mem
      rw [List.flatMap_cons, List.filter_append, ih]
      by_cases own : fieldOf entry = field
      · have all : (clientParts entry).filter (·.field = field) = clientParts entry :=
          List.filter_eq_self.mpr fun part mem => by simp [fields part mem, own]
        rw [List.filter_cons_of_pos (by simpa using own), List.flatMap_cons, all]
      · have none : (clientParts entry).filter (·.field = field) = [] :=
          List.filter_eq_nil_iff.mpr fun part mem => by simp [fields part mem, own]
        rw [List.filter_cons_of_neg (by simpa using own), none, List.nil_append]

/-- **The clause of a field comes from the entries for that field.** -/
theorem get?_mapFilters [PatternReader] (filters : Document) (field : String) :
    (mapFilters filters .untrusted).clauses.get? field =
      (mapFilters (filters.filter (fieldOf · = field)) .untrusted).clauses.get? field := by
  rw [clauses_mapFilters, clauses_mapFilters, ← filter_clientParts]
  exact get?_foldl_addTo _ rfl

end OneField

/-! ### No entry asks twice -/

/-- The operators that tests ask for, equalities and options aside. -/
def operatorsAsked (tests : Document) : List String :=
  tests.keys.filter fun key => key ≠ "$eq" ∧ key ≠ "$options"

theorem operatorsAsked_append (tests more : Document) :
    operatorsAsked (tests ++ more) = operatorsAsked tests ++ operatorsAsked more := by
  rw [operatorsAsked, Document.keys_append, List.filter_append]
  rfl

theorem operatorsAsked_flatMap {α : Type} (items : List α) (tests : α → Document) :
    operatorsAsked (items.flatMap tests) =
      items.flatMap fun item => operatorsAsked (tests item) := by
  induction items with
  | nil => rfl
  | cons item rest ih => rw [List.flatMap_cons, operatorsAsked_append, ih, List.flatMap_cons]

theorem mem_operatorsAsked {tests : Document} {key : String} :
    key ∈ operatorsAsked tests ↔ key ∈ tests.keys ∧ key ≠ "$eq" ∧ key ≠ "$options" := by
  rw [operatorsAsked, List.mem_filter, decide_eq_true_iff]

theorem Operator.native_ne_eq {op : Operator} (notEq : op ≠ .eq) : op.native ≠ "$eq" := by
  cases op with
  | eq => exact absurd rfl notEq
  | _ => decide

/-- The native key of an operator that a client writes is the key as written. -/
theorem Operator.native_of_ofNative? {key : String} {op : Operator} (allowed : key ∈ clientKeys)
    (known : ofNative? key = some op) : op.native = key := by
  have each : ∀ key ∈ clientKeys, (ofNative? key).all (·.native == key) = true := by decide
  have own := each key allowed
  rw [known] at own
  exact beq_iff_eq.mp own

section Entry

variable {key field : String} {value : Json}

/-- A part of an operand asks for its operator and no other. -/
theorem operatorsAsked_withOperand [PatternReader] {op : Operator} {operand : Operand}
    (native : operand.IsNative op) :
    (operatorsAsked (withOperand [] op operand)).Sublist [op.native] := by
  cases operand with
  | single value => exact List.filter_sublist
  | regex pattern options =>
      obtain ⟨rfl, -⟩ := native
      cases options with
      | none => exact List.filter_sublist
      | some options =>
          have asked : operatorsAsked (withOperand [] .regex (.regex pattern (some options))) =
              ["$regex"] := rfl
          rw [asked]
          exact List.Sublist.refl _

theorem operatorsAsked_of_ofOperand [PatternReader] {op : Operator} {part : FilterPart}
    (read : FilterPart.ofOperand key field op value = .ok part) :
    (operatorsAsked part.tests).Sublist [op.native] := by
  unfold FilterPart.ofOperand at read
  split at read
  · rw [← Except.ok.inj read]
    exact List.nil_sublist _
  · split at read
    · next operand coerced =>
        rw [← Except.ok.inj read]
        exact operatorsAsked_withOperand (Operand.isNative_of_coerce coerced)
    · cases read

theorem operatorsAsked_of_ofMember [PatternReader] {member : String × Json} {part : FilterPart}
    (allowed : member.1 ∈ Operator.clientKeys)
    (read : FilterPart.ofMember key field member = .ok part) :
    (operatorsAsked part.tests).Sublist [member.1] := by
  unfold FilterPart.ofMember at read
  split at read
  · next op known =>
      have asked := operatorsAsked_of_ofOperand read
      rwa [Operator.native_of_ofNative? allowed known] at asked
  · rw [← Except.ok.inj read]
    exact List.filter_sublist

/-- The tests of an operator map ask for operators among its keys, each once. -/
theorem operatorsAsked_map_ofMember [PatternReader] {ops : Document}
    (allowed : ∀ member ∈ ops, member.1 ∈ Operator.clientKeys) :
    (operatorsAsked ((FilterPart.accepted (ops.map (FilterPart.ofMember key field))).flatMap
      (·.tests))).Sublist ops.keys := by
  induction ops with
  | nil => exact List.Sublist.refl _
  | cons member rest ih =>
      obtain ⟨first, others⟩ := List.forall_mem_cons.mp allowed
      rw [List.map_cons]
      cases read : FilterPart.ofMember key field member with
      | error diagnostic => exact (ih others).cons _
      | ok part =>
          have both := (operatorsAsked_of_ofMember first read).append (ih others)
          rwa [← operatorsAsked_append, ← List.flatMap_cons] at both

theorem nodup_of_ofBare [PatternReader] (wellKeyed : value.isWellKeyed = true) :
    (operatorsAsked ((FilterPart.accepted
      (FilterPart.ofBare .untrusted key field value)).flatMap (·.tests))).Nodup := by
  unfold FilterPart.ofBare
  split
  · exact List.nodup_nil
  · next ops isMap =>
      rw [if_pos rfl]
      split
      · exact List.nodup_nil
      · next noneForbidden =>
          have allowed : ∀ member ∈ ops, member.1 ∈ Operator.clientKeys := by
            intro member mem
            have known := List.find?_eq_none.mp noneForbidden _ (Document.mem_keys_of_mem mem)
            simpa using known
          rw [(Json.operators?_eq_some_iff.mp isMap).1, Json.isWellKeyed_object] at wellKeyed
          exact List.Nodup.sublist (operatorsAsked_map_ofMember allowed) wellKeyed.1

theorem nodup_of_ofRange :
    (operatorsAsked ((FilterPart.accepted (FilterPart.ofRange key field value)).flatMap
      (·.tests))).Nodup := by
  unfold FilterPart.ofRange
  split
  · show ["$gte", "$lte"].Nodup
    decide
  · exact List.nodup_nil

/-- **No entry asks for the same operator twice**, equalities and options aside. -/
theorem nodup_operatorsAsked [PatternReader] {entry : String × Json}
    (wellKeyed : entry.2.isWellKeyed = true) :
    (operatorsAsked (nativeTests entry)).Nodup := by
  unfold nativeTests clientParts FilterPart.ofEntry
  split
  · rw [if_neg (by rintro ⟨trusted, -⟩; cases trusted)]
    exact List.nodup_nil
  · rcases FilterKey.parse entry.1 with ⟨field, _ | op | _⟩
    · exact nodup_of_ofBare wellKeyed
    · dsimp only
      cases read : FilterPart.ofOperand entry.1 field op entry.2 with
      | error diagnostic => exact List.nodup_nil
      | ok part =>
          have asked := operatorsAsked_of_ofOperand read
          have tests : (FilterPart.accepted [.ok part]).flatMap (·.tests) = part.tests :=
            List.append_nil _
          rw [tests]
          exact (List.nodup_singleton _).sublist asked
    · exact nodup_of_ofRange

/-! ### The values of equalities -/

theorem FilterPart.IsOfClient.eq_equality [PatternReader] {part : FilterPart}
    (ofClient : part.IsOfClient)
    (mem : ("$eq", value) ∈ part.tests) : part.addition = .equality value := by
  obtain ⟨field, addition⟩ := part
  cases addition with
  | equality v =>
      obtain ⟨-, rfl⟩ := Prod.mk.inj (List.mem_singleton.mp mem)
      rfl
  | operand op operand =>
      obtain ⟨notEq, -⟩ := ofClient
      cases operand with
      | single v =>
          have key : "$eq" = op.native := (Prod.mk.inj (List.mem_singleton.mp mem)).1
          exact absurd key.symm (Operator.native_ne_eq notEq)
      | regex pattern options =>
          cases options <;> simp [tests, withOperand, Document.insert] at mem
  | member key v =>
      obtain rfl : key = "$options" := ofClient
      have key : "$eq" = "$options" := (Prod.mk.inj (List.mem_singleton.mp mem)).1
      exact absurd key (by decide)
  | logical v => cases mem

theorem isWellKeyed_of_ofOperand [PatternReader] {op : Operator} {path : String} {v : Json}
    (wellKeyed : value.isWellKeyed = true)
    (read : FilterPart.ofOperand key path op value = .ok ⟨field, .equality v⟩) :
    v.isWellKeyed = true := by
  unfold FilterPart.ofOperand at read
  split at read
  · cases read
    exact wellKeyed
  · split at read <;> cases read

theorem isWellKeyed_of_mem_ofBare [PatternReader] {path : String} {v : Json}
    (wellKeyed : value.isWellKeyed = true)
    (mem : .ok ⟨field, .equality v⟩ ∈ FilterPart.ofBare .untrusted key path value) :
    v.isWellKeyed = true := by
  unfold FilterPart.ofBare at mem
  split at mem
  · cases List.mem_singleton.mp mem
    exact wellKeyed
  · next ops isMap =>
      rw [(Json.operators?_eq_some_iff.mp isMap).1, Json.isWellKeyed_object] at wellKeyed
      rw [if_pos rfl] at mem
      split at mem
      · cases List.mem_singleton.mp mem
      · obtain ⟨member, inOps, read⟩ := List.mem_map.mp mem
        unfold FilterPart.ofMember at read
        split at read
        · exact isWellKeyed_of_ofOperand (wellKeyed.2 member inOps) read
        · cases read

/-- The value of an equality is the value of its entry or a member of it. -/
theorem isWellKeyed_of_mem_nativeTests [PatternReader] {entry : String × Json}
    (wellKeyed : entry.2.isWellKeyed = true) (mem : ("$eq", value) ∈ nativeTests entry) :
    value.isWellKeyed = true := by
  obtain ⟨⟨field, addition⟩, inParts, inTests⟩ := List.mem_flatMap.mp mem
  obtain rfl : addition = .equality value :=
    (isOfClient_of_mem_clientParts inParts).eq_equality inTests
  have read := ok_mem_of_mem_accepted inParts
  unfold FilterPart.ofEntry at read
  split at read
  · rw [if_neg (by rintro ⟨trusted, -⟩; cases trusted)] at read
    cases List.mem_singleton.mp read
  · revert read
    rcases FilterKey.parse entry.1 with ⟨path, _ | op | _⟩ <;> intro read
    · exact isWellKeyed_of_mem_ofBare wellKeyed read
    · exact isWellKeyed_of_ofOperand wellKeyed (List.mem_singleton.mp read).symm
    · dsimp only at read
      unfold FilterPart.ofRange at read
      split at read <;> simp at read

end Entry

end DocQuery
