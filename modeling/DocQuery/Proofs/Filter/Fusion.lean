import DocQuery.Proofs.Filter.Merge
import DocQuery.Sql.Pipeline

/-!
# Filters fused into one

`Sql.fuseFilters` turns the filters at the head of a pipeline into one.  A filter whose keys are all
free is added member by member; any other is put aside whole and becomes a member of `$and`, beside
those that an `$and` of the filters has already.

What the fused filter asks for is read off with a property of clauses that `$and` distributes over:
every member of the fused filter has it exactly if every member of every filter does.  No key has to
be distinct for this.

## Main definitions

* `Sql.FusedHold`: what has been fused so far has a property
* `forall_mem_fuseFilters`: the fused filter asks for what the filters ask for
-/

namespace DocQuery

variable {P : String × Json → Prop} {filters : List Document} {filter : Document}
  {state : Document × List Json}

namespace Sql

/-- The clauses that have been fused so far, in place or aside, have a property. -/
def FusedHold (P : String × Json → Prop) (state : Document × List Json) : Prop :=
  (∀ member ∈ state.1, P member) ∧ ∀ item ∈ state.2, IsFilterOf P item

/-- Fusing one more filter adds what it asks for. -/
theorem fusedHold_fuse :
    FusedHold P (fuse state filter) ↔ FusedHold P state ∧ ∀ member ∈ filter, P member := by
  have alone : IsFilterOf P (.object filter) ↔ ∀ member ∈ filter, P member := by
    simp only [IsFilterOf, Json.object.injEq, exists_eq_left']
  rw [fuse]
  split
  · rw [FusedHold, FusedHold, List.forall_mem_append, List.forall_mem_singleton, alone, and_assoc]
  · rw [FusedHold, FusedHold, List.forall_mem_append]
    tauto

theorem fusedHold_foldl :
    FusedHold P (filters.foldl fuse state) ↔
      FusedHold P state ∧ ∀ filter ∈ filters, ∀ member ∈ filter, P member := by
  induction filters generalizing state with
  | nil => simp
  | cons filter rest ih =>
      rw [List.foldl_cons, ih, fusedHold_fuse, List.forall_mem_cons, and_assoc]

end Sql

/-- Items that are added to an `$and` with members ask for what they ask for alone. -/
theorem forall_mem_insert_and (conjunctive : Clause.Conjunctive P) {present items : List Json}
    (found : filter.get? "$and" = some (.array present)) (some : present ≠ []) :
    (∀ member ∈ filter.insert "$and" (.array (present ++ items)), P member) ↔
      (∀ member ∈ filter, P member) ∧ ∀ item ∈ items, IsFilterOf P item := by
  have own : P ("$and", .array present) ↔ ∀ item ∈ present, IsFilterOf P item :=
    conjunctive present some
  have more : P ("$and", .array (present ++ items)) ↔
      ∀ item ∈ present ++ items, IsFilterOf P item := conjunctive _ (by simp [some])
  obtain ⟨before, after, split, written⟩ := Document.insert_of_get? found
  rw [written, split]
  simp only [List.forall_mem_append, List.forall_mem_cons, own, more]
  tauto

/-- **The fused filter asks for what the filters ask for**, where every `$and` of a filter is a list
with members. -/
theorem forall_mem_fuseFilters (conjunctive : Clause.Conjunctive P)
    (lists : ∀ filter ∈ filters, ∀ value, ("$and", value) ∈ filter →
      ∃ items, value = .array items ∧ items ≠ []) :
    (∀ member ∈ Sql.fuseFilters filters, P member) ↔
      ∀ filter ∈ filters, ∀ member ∈ filter, P member := by
  have fused (Q : String × Json → Prop) : Sql.FusedHold Q (filters.foldl Sql.fuse ([], [])) ↔
      ∀ filter ∈ filters, ∀ member ∈ filter, Q member := by
    rw [Sql.fusedHold_foldl]
    simp [Sql.FusedHold]
  -- an `$and` that was fused comes from one of the filters
  have fromFilters := ((fused fun member => member.1 = "$and" →
    ∃ items, member.2 = .array items ∧ items ≠ []).mpr fun filter inFilters member mem isAnd =>
      lists filter inFilters member.2 (isAnd ▸ mem)).1
  rw [← fused, Sql.fuseFilters]
  generalize filters.foldl Sql.fuse ([], []) = state at fromFilters
  obtain ⟨filter, aside⟩ := state
  rw [Sql.FusedHold]
  dsimp only at fromFilters ⊢
  split
  · next none =>
      rw [List.isEmpty_iff.mp none]
      simp
  · next some =>
      have some : aside ≠ [] := by simpa using some
      cases found : filter.get? "$and" with
      | none =>
          have fresh := Document.get?_eq_none_iff.mp found
          have own : P ("$and", .array aside) ↔ ∀ item ∈ aside, IsFilterOf P item :=
            conjunctive aside some
          dsimp only
          rw [Document.insert_of_notMem fresh, List.forall_mem_append,
            List.forall_mem_singleton, own]
      | some value =>
          obtain ⟨present, isList, nonempty⟩ := fromFilters _ (Document.mem_of_get? found) rfl
          obtain rfl : value = .array present := isList
          exact forall_mem_insert_and conjunctive found nonempty

end DocQuery
