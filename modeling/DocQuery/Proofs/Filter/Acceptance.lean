import DocQuery.Proofs.Filter.Parts
import DocQuery.Proofs.Predicate.Meaning

/-!
# What is left of a malformed filter

Taking the refused parts out of a flat filter leaves a flat filter without faults
(`acceptedFilters`).  An entry goes when none of its parts is accepted.  Only a native operator map
given for a field has several parts that are judged one by one, one for each member: it stays with
the accepted members.

A filter with faults maps to the clauses of what is left of it (`mapFilters_acceptedFilters`): no
fault changes what the rest asks for.

## Main definitions

* `acceptedEntry`, `acceptedFilters`
* `mapFilters_acceptedFilters`
-/

namespace DocQuery

open FilterPart

/-- The members of an operator map given for a field that are accepted. -/
def acceptedMembers [PatternReader] (key : String) (ops : Document) : Document :=
  ops.filter fun member => (ofMember key (FilterKey.parse key).field member).isOk

/-- What is left of an entry of a flat filter. -/
def acceptedEntry [PatternReader] (trust : Trust) (entry : String × Json) :
    Option (String × Json) :=
  if (ofEntry trust entry).all (·.isOk) then some entry
  else if (ofEntry trust entry).any (·.isOk) then
    some (entry.1, .object (acceptedMembers entry.1 (entry.2.object?.getD [])))
  else none

/-- What is left of a flat filter. -/
def acceptedFilters [PatternReader] (trust : Trust) (filters : Document) : Document :=
  filters.filterMap (acceptedEntry trust)

/-! ### The parts of what is left -/

section

variable {trust : Trust} {key field : String} {value : Json} {ops : Document}

/-- A value is an operator map that may be given for a field. -/
def IsAdmitted (trust : Trust) (value : Json) (ops : Document) : Prop :=
  value.operators? = some ops ∧ (trust = .untrusted → MappedFilters.forbiddenKey? ops = none)

theorem FilterPart.ofBare_of_isAdmitted [PatternReader] (admitted : IsAdmitted trust value ops) :
    ofBare trust key field value = ops.map (ofMember key field) := by
  obtain ⟨isMap, allowed⟩ := admitted
  have noneForbidden :
      (if trust = .untrusted then MappedFilters.forbiddenKey? ops else none) = none := by
    split
    · next untrusted => exact allowed untrusted
    · rfl
  rw [ofBare, isMap]
  dsimp only
  rw [noneForbidden]

/-- An operator map without some of its members may be given for a field as long as a member is
left. -/
theorem IsAdmitted.filter (admitted : IsAdmitted trust value ops) {keep : String × Json → Bool}
    (nonempty : ops.filter keep ≠ []) :
    IsAdmitted trust (.object (ops.filter keep)) (ops.filter keep) := by
  obtain ⟨isMap, allowed⟩ := admitted
  obtain ⟨-, -, dollar⟩ := Json.operators?_eq_some_iff.mp isMap
  refine ⟨Json.operators?_eq_some_iff.mpr ⟨rfl, nonempty, fun member mem => ?_⟩, fun untrusted => ?_⟩
  · exact dollar member (List.mem_of_mem_filter mem)
  refine List.find?_eq_none.mpr fun key mem => List.find?_eq_none.mp (allowed untrusted) key ?_
  obtain ⟨member, inKept, rfl⟩ := List.mem_map.mp mem
  exact Document.mem_keys_of_mem (List.mem_of_mem_filter inKept)

/-- The parts of an entry are all accepted or all refused, unless they are the members of an
operator map given for a field. -/
theorem FilterPart.ofEntry_cases [PatternReader] (trust : Trust) (entry : String × Json) :
    (∀ part ∈ ofEntry trust entry, part.isOk = true) ∨
      (∀ part ∈ ofEntry trust entry, part.isOk = false) ∨
      ∃ field ops, isDollarKey entry.1 = false ∧ FilterKey.parse entry.1 = ⟨field, none⟩ ∧
        IsAdmitted trust entry.2 ops := by
  have single : ∀ part : Except Diagnostic FilterPart,
      (∀ other ∈ [part], other.isOk = true) ∨ ∀ other ∈ [part], other.isOk = false := by
    intro part
    cases part <;> simp
  obtain ⟨key, value⟩ := entry
  cases path : isDollarKey key with
  | true =>
      have one : ∃ part, ofEntry trust (key, value) = [part] := by
        rw [ofEntry, if_pos path]
        split <;> exact ⟨_, rfl⟩
      obtain ⟨part, parts⟩ := one
      rw [parts]
      exact (single part).imp_right .inl
  | false =>
      rcases parsed : FilterKey.parse key with ⟨field, _ | op | _⟩
      · rw [ofEntry_bare path parsed]
        cases isMap : value.operators? with
        | none =>
            left
            rw [ofBare, isMap]
            simp
        | some ops =>
            by_cases allowed : trust = .untrusted → MappedFilters.forbiddenKey? ops = none
            · exact .inr (.inr ⟨field, ops, rfl, rfl, isMap, allowed⟩)
            · obtain ⟨rfl, forbidden⟩ := Classical.not_imp.mp allowed
              obtain ⟨bad, found⟩ := Option.ne_none_iff_exists'.mp forbidden
              right; left
              rw [ofBare, isMap]
              simp [found]
      · rw [ofEntry_operator path parsed]
        exact (single _).imp_right .inl
      · have range : ofEntry trust (key, value) = ofRange key field value := by
          simp only [ofEntry, path, parsed, Bool.false_eq_true, if_false]
        rw [range, ofRange]
        cases Operand.bounds value with
        | ok bounds => simp
        | error fault => simp

/-- An operator map without its refused members has the accepted parts, if there is one. -/
theorem ofEntry_acceptedMembers [PatternReader] (path : isDollarKey key = false)
    (parsed : FilterKey.parse key = ⟨field, none⟩) (admitted : IsAdmitted trust value ops)
    (accepted : (ofEntry trust (key, value)).any (·.isOk) = true) :
    ofEntry trust (key, .object (acceptedMembers key ops)) =
      (ofEntry trust (key, value)).filter (·.isOk) := by
  have parts : ofEntry trust (key, value) = ops.map (ofMember key field) := by
    rw [ofEntry_bare path parsed, ofBare_of_isAdmitted admitted]
  have left : acceptedMembers key ops =
      ops.filter fun member => (ofMember key field member).isOk := by
    rw [acceptedMembers, parsed]
  have nonempty : (ops.filter fun member => (ofMember key field member).isOk) ≠ [] := by
    rw [parts, List.any_map, List.any_eq_true] at accepted
    obtain ⟨member, mem, isOk⟩ := accepted
    exact List.ne_nil_of_mem (List.mem_filter.mpr ⟨mem, isOk⟩)
  rw [ofEntry_bare path parsed, left, ofBare_of_isAdmitted (admitted.filter nonempty), parts,
    List.filter_map]
  rfl

/-- What is left of an entry has its accepted parts, and no others. -/
theorem flatMap_ofEntry_acceptedEntry [PatternReader] (trust : Trust) (entry : String × Json) :
    (acceptedEntry trust entry).toList.flatMap (ofEntry trust) =
      (ofEntry trust entry).filter (·.isOk) := by
  unfold acceptedEntry
  split
  · next all =>
      rw [Option.toList_some, List.flatMap_singleton, List.filter_eq_self.mpr]
      simpa using all
  · next notAll =>
      split
      · next some =>
          -- some parts are accepted and some are refused, so they are members of an operator map
          rcases ofEntry_cases trust entry with accepted | refused | ⟨_, ops, path, parsed, admitted⟩
          · exact absurd (List.all_eq_true.mpr accepted) notAll
          · obtain ⟨part, mem, isOk⟩ := List.any_eq_true.mp some
            exact absurd isOk (by simp [refused part mem])
          · have object : entry.2.object?.getD [] = ops := by
              rw [(Json.operators?_eq_some_iff.mp admitted.1).1]
              rfl
            rw [Option.toList_some, List.flatMap_singleton, object]
            exact ofEntry_acceptedMembers path parsed admitted some
      · next none =>
          rw [Option.toList_none, List.flatMap_nil, eq_comm, List.filter_eq_nil_iff]
          simpa using none

theorem flatMap_ofEntry_acceptedFilters [PatternReader] (trust : Trust) (filters : Document) :
    (acceptedFilters trust filters).flatMap (ofEntry trust) =
      (filters.flatMap (ofEntry trust)).filter (·.isOk) := by
  induction filters with
  | nil => rfl
  | cons entry rest ih =>
      rw [List.flatMap_cons, List.filter_append, ← ih, ← flatMap_ofEntry_acceptedEntry]
      cases left : acceptedEntry trust entry with
      | none => rw [acceptedFilters, List.filterMap_cons_none left]; rfl
      | some kept =>
          rw [acceptedFilters, List.filterMap_cons_some left, List.flatMap_cons, Option.toList_some,
            List.flatMap_singleton]
          rfl

theorem FilterPart.accepted_filter (parts : List (Except Diagnostic FilterPart)) :
    accepted (parts.filter (·.isOk)) = accepted parts := by
  rw [accepted, List.filterMap_filter]
  refine List.filterMap_congr fun part _ => ?_
  cases part <;> rfl

theorem FilterPart.refused_filter (parts : List (Except Diagnostic FilterPart)) :
    refused (parts.filter (·.isOk)) = [] := by
  refine List.filterMap_eq_nil_iff.mpr fun part mem => ?_
  cases part with
  | ok part => rfl
  | error diagnostic => cases (List.mem_filter.mp mem).2

/-- **A filter with faults is what is left of it**: without the refused parts it maps to the same
clauses, and nothing of it is left out any more. -/
theorem mapFilters_acceptedFilters [PatternReader] (filters : Document) (trust : Trust) :
    mapFilters (acceptedFilters trust filters) trust =
      ⟨(mapFilters filters trust).clauses, []⟩ := by
  rw [mapFilters_eq, mapFilters_eq, flatMap_ofEntry_acceptedFilters, accepted_filter,
    refused_filter]

/-- A filter without faults stays as it is. -/
theorem acceptedFilters_eq_self [PatternReader] {filters : Document}
    (noFaults : (mapFilters filters trust).diagnostics = []) :
    acceptedFilters trust filters = filters := by
  have accepted : ∀ entry ∈ filters, acceptedEntry trust entry = some entry := by
    intro entry inFilters
    refine if_pos (List.all_eq_true.mpr fun part mem => ?_)
    cases part with
    | ok part => rfl
    | error diagnostic =>
        have reported := mem_diagnostics_mapFilters.mpr ⟨entry, inFilters, mem⟩
        rw [noFaults] at reported
        cases reported
  rw [acceptedFilters, List.filterMap_congr accepted, List.filterMap_some]

end

end DocQuery
