import DocQuery.Proofs.Filter.Merge

/-!
# What a client's operators leave of the defaults

Where a default and the client both hold operator maps for a field, the merge takes the client's
operand for every operator that both maps carry.  What the default asked for with its other
operators stays in force, with one reservation: a `$regex` reads the `$options` beside it, so a
client that writes `$options` changes the pattern of a default that keeps its `$regex`.

`leftOf` states what is left of a default; which operators give way is a parameter, because the two
uses differ in how they treat that reservation.

## Main definitions

* `Resolution.get?_mergeOperators`, `Resolution.mem_mergeOperators`: two operator maps merged
* `Clause.OperatorWise`: properties of clauses that are decided operator by operator
* `leftOf`: what is left of a default
-/

namespace DocQuery

/-! ### Two operator maps merged -/

namespace Resolution

variable {ours theirs : Document} {key : String}

theorem get?_mergeOperators_of_notMem (fresh : key ∉ theirs.keys) :
    (mergeOperators ours theirs).get? key = ours.get? key := by
  unfold mergeOperators
  induction theirs generalizing ours with
  | nil => rfl
  | cons member rest ih =>
      simp only [Document.keys, List.map_cons, List.mem_cons, not_or] at fresh
      rw [List.foldl_cons, ih fresh.2, Document.get?_insert_of_ne _ _ fresh.1]

/-- An operator that only the defaults carry survives the merge. -/
theorem mem_mergeOperators_of_notMem {member : String × Json} (mem : member ∈ ours)
    (fresh : member.1 ∉ theirs.keys) : member ∈ mergeOperators ours theirs := by
  unfold mergeOperators
  induction theirs generalizing ours with
  | nil => exact mem
  | cons other rest ih =>
      simp only [Document.keys, List.map_cons, List.mem_cons, not_or] at fresh
      exact ih (Document.mem_insert_of_ne mem fresh.1) fresh.2

theorem mem_keys_mergeOperators :
    key ∈ (mergeOperators ours theirs).keys ↔ key ∈ ours.keys ∨ key ∈ theirs.keys := by
  unfold mergeOperators
  induction theirs generalizing ours with
  | nil => simp [Document.keys]
  | cons member rest ih =>
      rw [List.foldl_cons, ih, Document.mem_keys_insert]
      simp only [Document.keys, List.map_cons, List.mem_cons]
      tauto

theorem get?_mergeOperators (distinct : theirs.DistinctKeys) :
    (mergeOperators ours theirs).get? key = (theirs.get? key).or (ours.get? key) := by
  by_cases present : key ∈ theirs.keys
  · unfold mergeOperators
    induction theirs generalizing ours with
    | nil => simp [Document.keys] at present
    | cons member rest ih =>
        obtain ⟨k, v⟩ := member
        obtain ⟨fresh, distinct⟩ := Document.distinctKeys_cons.mp distinct
        rw [List.foldl_cons, Document.get?_cons]
        by_cases same : k = key
        · subst same
          have later : (mergeOperators (ours.insert k v) rest).get? k = (ours.insert k v).get? k :=
            get?_mergeOperators_of_notMem fresh
          rw [mergeOperators] at later
          rw [later, Document.get?_insert_self, if_pos rfl, Option.some_or]
        · have inRest : key ∈ Document.keys rest := by
            simpa [Document.keys, Ne.symm same] using present
          rw [ih distinct inRest, if_neg same, Document.get?_insert_of_ne _ _ (Ne.symm same)]
  · rw [get?_mergeOperators_of_notMem present, Document.get?_eq_none_iff.mpr present, Option.none_or]

theorem distinctKeys_mergeOperators (distinct : ours.DistinctKeys) :
    (mergeOperators ours theirs).DistinctKeys := by
  unfold mergeOperators
  induction theirs generalizing ours with
  | nil => exact distinct
  | cons member rest ih => exact ih (distinct.insert _ _)

theorem mem_mergeOperators (distinct : ours.DistinctKeys) (distinct' : theirs.DistinctKeys)
    {member : String × Json} : member ∈ mergeOperators ours theirs ↔
      member ∈ theirs ∨ member ∈ ours ∧ member.1 ∉ theirs.keys := by
  obtain ⟨k, v⟩ := member
  rw [← Document.get?_eq_some_iff (distinctKeys_mergeOperators distinct),
    get?_mergeOperators distinct', ← Document.get?_eq_some_iff distinct,
    ← Document.get?_eq_some_iff distinct', ← Document.get?_eq_none_iff]
  cases theirs.get? k <;> simp

end Resolution

/-! ### The options of a pattern -/

section Options

variable {ours theirs : Document}

theorem optionsOf_filter (keep : String → Bool) (kept : keep "$options" = true) :
    optionsOf (ours.filter fun member => keep member.1) = optionsOf ours := by
  rw [optionsOf, optionsOf, Document.get?_filter keep, if_pos kept]

theorem optionsOf_mergeOperators (absent : theirs.contains "$options" = false) :
    optionsOf (Resolution.mergeOperators ours theirs) = optionsOf ours := by
  have fresh : "$options" ∉ theirs.keys := by
    rw [← Document.contains_iff, absent]
    decide
  rw [optionsOf, optionsOf, Resolution.get?_mergeOperators_of_notMem fresh]

end Options

/-! ### Properties of clauses that are decided operator by operator -/

namespace Clause

/-- A property of the clauses of paths that holds of an operator map exactly if another property
holds of each of its members; that one sees no more of the map than its `$options`. -/
structure OperatorWise (P : String × Json → Prop)
    (Q : String → Document → String × Json → Prop) : Prop where
  operators : ∀ {key value ops}, isDollarKey key = false → value.operators? = some ops →
    (P (key, value) ↔ ∀ member ∈ ops, Q key ops member)
  congr : ∀ {key ops ops' member}, (member.1 = "$regex" → optionsOf ops = optionsOf ops') →
    (Q key ops member ↔ Q key ops' member)

theorem operatorWise_compiles [PatternReader] (fields : List String) :
    OperatorWise (Compiles fields) OperatorClause.Compiles :=
  ⟨compiles_operators, OperatorClause.compiles_congr⟩

theorem operatorWise_accepts [PatternReader] (fields : List String) (doc : Document) :
    OperatorWise (Accepts fields doc)
      fun key ops member => OperatorClause.Accepts key ops (doc.lookup key) member :=
  ⟨accepts_operators, OperatorClause.accepts_congr⟩

end Clause

theorem Json.operators?_object {ops : Document} (nonempty : ops ≠ [])
    (dollar : ∀ member ∈ ops, isDollarKey member.1 = true) :
    (Json.object ops).operators? = some ops :=
  operators?_eq_some_iff.mpr ⟨rfl, nonempty, dollar⟩

/-! ### What is left of a default -/

/-- What is left of a default beside a client's filter: of an operator map that meets a different
one, the operators that do not give way, and nothing if all of them do; any other default as it
is. -/
def leftOf (yields : Document → String → Bool) (client : Document) (entry : String × Json) :
    Option (String × Json) :=
  match meeting client entry with
  | .operators ours theirs =>
    let left := ours.filter fun member => !yields theirs member.1
    if left.isEmpty then none else some (entry.1, .object left)
  | _ => some entry

section

variable {client : Document} {entry left : String × Json} {P : String × Json → Prop}
  {Q : String → Document → String × Json → Prop} {yields : Document → String → Bool}

theorem leftOf_of_not_operators (met : ∀ ours theirs, meeting client entry ≠ .operators ours theirs) :
    leftOf yields client entry = some entry := by
  unfold leftOf
  grind

theorem leftOf_operators {ours theirs : Document}
    (met : meeting client entry = .operators ours theirs) :
    leftOf yields client entry = some left ↔
      ∃ ops, ops = ours.filter (fun member => !yields theirs member.1) ∧ ops ≠ [] ∧
        left = (entry.1, .object ops) := by
  rw [leftOf, met]
  grind

/-- Two operator maps merge into an operator map. -/
theorem operators?_mergeOperators {ours theirs : Document} {v w : Json}
    (left : v.operators? = some ours) (right : w.operators? = some theirs) :
    (Json.object (Resolution.mergeOperators ours theirs)).operators? =
      some (Resolution.mergeOperators ours theirs) := by
  obtain ⟨-, nonempty, dollar⟩ := Json.operators?_eq_some_iff.mp left
  obtain ⟨-, -, dollar'⟩ := Json.operators?_eq_some_iff.mp right
  refine Json.operators?_eq_some_iff.mpr ⟨rfl, ?_, fun member mem => ?_⟩
  · obtain ⟨member, rest, rfl⟩ := List.exists_cons_of_ne_nil nonempty
    have present : member.1 ∈ (Resolution.mergeOperators (member :: rest) theirs).keys :=
      Resolution.mem_keys_mergeOperators.mpr (.inl (Document.mem_keys_of_mem List.mem_cons_self))
    rintro empty
    simp [empty, Document.keys] at present
  · rcases Resolution.mem_keys_mergeOperators.mp (Document.mem_keys_of_mem mem) with h | h
    · obtain ⟨other, inOurs, same⟩ := List.mem_map.mp h
      exact same ▸ dollar other inOurs
    · obtain ⟨other, inTheirs, same⟩ := List.mem_map.mp h
      exact same ▸ dollar' other inTheirs

/-- The operators that no member of the client's map overrides go on meaning the same: the merged
map has them too, and where the pattern is among them it has the options that it had. -/
theorem left_of_mergeOperators (decided : Clause.OperatorWise P Q) {key : String}
    {ours theirs ops : Document} {v w : Json} (path : isDollarKey key = false)
    (mapV : v.operators? = some ours) (mapW : w.operators? = some theirs)
    (carried : ∀ op, theirs.contains op = true → yields theirs op = true)
    (pattern : ours.contains "$regex" = true → yields theirs "$regex" = false →
      yields theirs "$options" = false)
    (left : ops = ours.filter fun member => !yields theirs member.1) (nonempty : ops ≠ [])
    (merged : P (key, .object (Resolution.mergeOperators ours theirs))) : P (key, .object ops) := by
  have stays : ∀ op, yields theirs op = false → theirs.contains op = false := by
    intro op h
    rw [Bool.eq_false_iff]
    intro present
    rw [carried op present] at h
    cases h
  have dollar : ∀ member ∈ ops, isDollarKey member.1 = true := by
    intro member mem
    rw [left] at mem
    exact (Json.operators?_eq_some_iff.mp mapV).2.2 member (List.mem_filter.mp mem).1
  have all := (decided.operators path (operators?_mergeOperators mapV mapW)).mp merged
  refine (decided.operators path (Json.operators?_object nonempty dollar)).mpr fun member mem => ?_
  rw [left] at mem
  obtain ⟨inOurs, kept⟩ := List.mem_filter.mp mem
  rw [Bool.not_eq_true'] at kept
  have fresh : member.1 ∉ theirs.keys := by
    rw [← Document.contains_iff, stays _ kept]
    decide
  refine (decided.congr fun isRegex => ?_).mp
    (all member (Resolution.mem_mergeOperators_of_notMem inOurs fresh))
  -- `$regex` reads the options beside it, so those must not come from the client
  have noOptions : yields theirs "$options" = false :=
    pattern (Document.contains_iff.mpr (isRegex ▸ Document.mem_keys_of_mem inOurs)) (isRegex ▸ kept)
  have options : optionsOf ops = optionsOf ours := by
    rw [left]
    exact optionsOf_filter (fun op => !yields theirs op) (by simp [noOptions])
  rw [options, optionsOf_mergeOperators (stays _ noOptions)]

/-- What a merge requires because of a default covers what is left of it. -/
theorem leftOf_of_requires (decided : Clause.OperatorWise P Q)
    (carried : ∀ theirs op, Document.contains theirs op = true → yields theirs op = true)
    (pattern : ∀ ours theirs, meeting client entry = .operators ours theirs →
      ours.contains "$regex" = true → yields theirs "$regex" = false →
      yields theirs "$options" = false)
    (required : Requires P client entry) (h : leftOf yields client entry = some left) : P left := by
  cases met : meeting client entry with
  | operators ours theirs =>
      obtain ⟨ops, isLeft, nonempty, rfl⟩ := (leftOf_operators met).mp h
      obtain ⟨mapV, clause, -, mapW⟩ := meeting_operators met
      rw [Requires, met] at required
      have path := path_of_meeting met (by simp)
      exact left_of_mergeOperators decided path mapV mapW (carried theirs)
        (pattern ours theirs met) isLeft nonempty required
  | apart | agree =>
      rw [leftOf, met, Option.some.injEq] at h
      rw [Requires, met] at required
      exact h ▸ required
  | conflict theirs =>
      rw [leftOf, met, Option.some.injEq] at h
      rw [Requires, met] at required
      exact h ▸ required.1

end

end DocQuery
