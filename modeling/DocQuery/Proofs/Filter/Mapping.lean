import DocQuery.Proofs.Filter.Parts
import DocQuery.Proofs.Json.Keys
import DocQuery.Proofs.Text.Split

/-!
# The keys of mapped filters

Mapping a flat filter writes clauses one key at a time, and only the entries of the filter decide
which keys (`WritesField`).  Whatever holds of no clauses and survives such a write holds of the
result (`mapFilters_induction`): no key is repeated, and a client never writes a key with a
dollar.
-/

namespace DocQuery

variable {I : Document → Prop} {clauses : Document} {field : String}

/-! ### One write at a time -/

namespace Clauses

theorem addEqual_induction (write : ∀ clauses value, I clauses → I (clauses.insert field value))
    (start : I clauses) (value : Json) : I (addEqual clauses field value) := by
  unfold addEqual
  split
  · exact write _ _ start
  · split
    · exact write _ _ start
    · split
      · exact start
      · exact write _ _ start

theorem addOperator_induction (write : ∀ clauses value, I clauses → I (clauses.insert field value))
    (start : I clauses) (op : String) (value : Json) : I (addOperator clauses field op value) := by
  unfold addOperator
  split
  · exact addEqual_induction write start value
  · exact write _ _ start

theorem addOperand_induction (write : ∀ clauses value, I clauses → I (clauses.insert field value))
    (start : I clauses) (op : Operator) (operand : Operand) :
    I (addOperand clauses field op operand) := by
  cases operand with
  | single value => exact addOperator_induction write start _ value
  | regex pattern options =>
      have withPattern := addOperator_induction write start "$regex" (.string pattern)
      cases options with
      | none => exact withPattern
      | some options => exact addOperator_induction write withPattern "$options" (.string options)

end Clauses

/-- A part writes the clause of its field and nothing else. -/
theorem FilterPart.addTo_induction {part : FilterPart}
    (write : ∀ clauses value, I clauses → I (clauses.insert part.field value)) (start : I clauses) :
    I (part.addTo clauses) := by
  obtain ⟨field, addition⟩ := part
  cases addition with
  | equality value => exact Clauses.addEqual_induction write start value
  | operand op operand => exact Clauses.addOperand_induction write start op operand
  | member key value => exact Clauses.addOperator_induction write start key value
  | logical value => exact write clauses value start

/-! ### The keys of an entry -/

/-- The keys that an entry of a flat filter may write: the field of its key, or for a default a
logical key itself. -/
def WritesField (trust : Trust) (key field : String) : Prop :=
  (isDollarKey key = false ∧ (FilterKey.parse key).field = field) ∨
    (trust = .trusted ∧ key ∈ Operator.logicalKeys ∧ key = field)

namespace FilterPart

variable {key : String} {part : FilterPart}

theorem field_of_ofOperand [PatternReader] {op : Operator} {value : Json}
    (read : ofOperand key field op value = .ok part) : part.field = field := by
  unfold ofOperand at read
  split at read
  · exact (Except.ok.inj read) ▸ rfl
  · split at read
    · exact (Except.ok.inj read) ▸ rfl
    · cases read

theorem field_of_mem_ofBare [PatternReader] {trust : Trust} {value : Json}
    (mem : .ok part ∈ ofBare trust key field value) : part.field = field := by
  unfold ofBare at mem
  split at mem
  · rw [List.mem_singleton, Except.ok.injEq] at mem
    rw [mem]
  · split at mem
    · cases List.mem_singleton.mp mem
    · obtain ⟨member, -, read⟩ := List.mem_map.mp mem
      unfold ofMember at read
      split at read
      · exact field_of_ofOperand read
      · exact (Except.ok.inj read) ▸ rfl

theorem field_of_mem_ofRange {value : Json} (mem : .ok part ∈ ofRange key field value) :
    part.field = field := by
  unfold ofRange at mem
  split at mem
  · simp only [List.mem_cons, Except.ok.injEq, List.not_mem_nil, or_false] at mem
    rcases mem with rfl | rfl <;> rfl
  · cases List.mem_singleton.mp mem

/-- An accepted part writes a key of its entry. -/
theorem writesField_of_mem [PatternReader] {trust : Trust} {entry : String × Json}
    (mem : .ok part ∈ ofEntry trust entry) : WritesField trust entry.1 part.field := by
  unfold ofEntry at mem
  split at mem
  · split at mem
    · next allowed =>
        rw [List.mem_singleton, Except.ok.injEq] at mem
        exact .inr ⟨allowed.1, List.contains_iff_mem.mp allowed.2, by rw [mem]⟩
    · cases List.mem_singleton.mp mem
  · next notDollar =>
      refine .inl ⟨Bool.eq_false_iff.mpr notDollar, ?_⟩
      revert mem
      rcases FilterKey.parse entry.1 with ⟨field, _ | op | _⟩ <;> intro mem
      · exact (field_of_mem_ofBare mem).symm
      · exact (field_of_ofOperand (List.mem_singleton.mp mem).symm).symm
      · exact (field_of_mem_ofRange mem).symm

end FilterPart

/-! ### A whole filter -/

/-- **What no clauses have and every write of an entry keeps, the mapped clauses have.** -/
theorem mapFilters_induction [PatternReader] {filters : Document} {trust : Trust} (start : I [])
    (write : ∀ clauses field value, (∃ entry ∈ filters, WritesField trust entry.1 field) →
      I clauses → I (clauses.insert field value)) :
    I (mapFilters filters trust).clauses :=
  mapFilters_parts_induction start fun _ part ⟨entry, inFilters, mem⟩ ih =>
    part.addTo_induction
      (fun clauses value => write clauses part.field value
        ⟨entry, inFilters, FilterPart.writesField_of_mem mem⟩) ih

theorem distinctKeys_mapFilters [PatternReader] (filters : Document) (trust : Trust) :
    (mapFilters filters trust).clauses.DistinctKeys :=
  mapFilters_induction Document.distinctKeys_nil fun _ _ _ _ distinct => distinct.insert _ _

/-- Every mapped clause stands under a key that some entry writes. -/
theorem exists_entry_of_mem_keys_mapFilters [PatternReader] {filters : Document} {trust : Trust}
    {key : String} (mem : key ∈ (mapFilters filters trust).clauses.keys) :
    ∃ entry ∈ filters, WritesField trust entry.1 key := by
  revert mem
  refine mapFilters_induction (I := fun clauses => key ∈ clauses.keys → _) ?_ ?_
  · simp [Document.keys]
  · intro clauses field value writes ih mem
    rcases Document.mem_keys_insert.mp mem with rfl | mem
    · exact writes
    · exact ih mem

/-! ### Keys with a suffix -/

theorem isDollarKey_append (named : field ≠ "") (more : String) :
    isDollarKey (field ++ more) = isDollarKey field := by
  rw [isDollarKey, isDollarKey, Text.startsWith, Text.startsWith, String.toList_append]
  cases chars : field.toList with
  | nil => exact absurd (String.toList_eq_nil_iff.mp chars) named
  | cons c rest => rfl

/-- A key is split where its suffix begins, even if the field has underscores of its own. -/
theorem FilterKey.parse_suffixed {suffix : String} {test : FilterKey.Test} (named : field ≠ "")
    (whole : '_' ∉ suffix.toList) (known : testOfSuffix? suffix = some test) :
    parse (field ++ "_" ++ suffix) = ⟨field, some test⟩ := by
  have chars : field.toList ≠ [] := fun empty => named (String.toList_eq_nil_iff.mp empty)
  have joined : (field ++ "_" ++ suffix).toList = field.toList ++ '_' :: suffix.toList := by
    rw [String.toList_append, String.toList_append, List.append_assoc]
    rfl
  rw [parse, joined, Text.splitLast_append _ whole]
  dsimp only
  rw [if_neg (by simpa using chars), String.ofList_toList, String.ofList_toList, known]

/-! ### Filters of clients -/

/-- The field of a key begins like the key. -/
theorem FilterKey.isDollarKey_parse {key : String} (path : isDollarKey key = false) :
    isDollarKey (FilterKey.parse key).field = false := by
  rw [parse]
  cases split : Text.splitLast '_' key.toList with
  | none => exact path
  | some parts =>
      obtain ⟨field, suffix⟩ := parts
      have chars := Text.splitLast_eq_some split
      cases field with
      | nil => exact path
      | cons c rest =>
          have sameHead : isDollarKey (String.ofList (c :: rest)) = isDollarKey key := by
            rw [isDollarKey, isDollarKey, Text.startsWith, Text.startsWith, chars,
              String.toList_ofList]
            rfl
          dsimp only
          rw [if_neg (by simp)]
          split
          · rw [sameHead, path]
          · exact path

/-- A client's clause stands under the field of one of its entries, which is no key with a
dollar. -/
theorem exists_entry_of_mem_mapFilters [PatternReader] {filters : Document} {member : String × Json}
    (mem : member ∈ (mapFilters filters .untrusted).clauses) :
    isDollarKey member.1 = false ∧
      ∃ entry ∈ filters, (FilterKey.parse entry.1).field = member.1 := by
  obtain ⟨entry, inFilters, ⟨path, field⟩ | ⟨trusted, -⟩⟩ :=
    exists_entry_of_mem_keys_mapFilters (Document.mem_keys_of_mem mem)
  · exact ⟨field ▸ FilterKey.isDollarKey_parse path, entry, inFilters, field⟩
  · cases trusted

end DocQuery
