import DocQuery.Proofs.Store.Loaded

/-!
# Relevance does not depend on the batch

A clause may ask for the relevance of the records that it puts in place.  The query for a batch is
the clause's filter merged with a test on the references, and wherever the merge puts that test it
records no relevance.  So two batches whose queries both match a record give it the same relevance
(`PopulateClause.relevance_congr`).

## Main definitions

* `Predicate.AlikeOn`: predicates that record the same where both match
* `Clause.Alike`, `Conjunct.Alike`: the same for the members of a filter and of a `$and`
* `PopulateClause.alike_query`, `PopulateClause.relevance_congr`
-/

namespace DocQuery

variable {doc : Document} {p q : Predicate} {fields : List String}

/-! ### Predicates that record the same -/

/-- Where both predicates match a document, they record the same relevance. -/
def Predicate.AlikeOn (doc : Document) (p q : Predicate) : Prop :=
  p.matchesDocument doc = true → q.matchesDocument doc = true →
    ∀ score, (p.evaluate doc score).2 = (q.evaluate doc score).2

/-- A conjunction records what its parts record one after the other. -/
theorem Predicate.alikeOn_allOf {ps qs : List Predicate} (each : List.Forall₂ (AlikeOn doc) ps qs) :
    AlikeOn doc (.allOf ps) (.allOf qs) := by
  intro matchedPs matchedQs score
  rw [matchesDocument_allOf] at matchedPs matchedQs
  rw [evaluate, evaluate]
  induction each generalizing score with
  | nil => rfl
  | @cons p q ps qs head _ ih =>
      rw [List.all_cons, Bool.and_eq_true] at matchedPs matchedQs
      have same := head matchedPs.1 matchedQs.1 score
      have here : (p.evaluate doc score).1 = true := by
        rw [p.evaluate_fst doc score none]
        exact matchedPs.1
      have there : (q.evaluate doc score).1 = true := by
        rw [q.evaluate_fst doc score none]
        exact matchedQs.1
      rw [evaluateAll, evaluateAll]
      rcases first : p.evaluate doc score with ⟨_ | _, s⟩ <;> rw [first] at here same
      · cases here
      · rcases second : q.evaluate doc score with ⟨_ | _, t⟩ <;> rw [second] at there same
        · cases there
        · obtain rfl : s = t := same
          exact ih matchedPs.2 matchedQs.2 s

/-! ### Clauses that record the same -/

/-- Two members of filters compile to predicates that record the same. -/
def Clause.Alike [PatternReader] (doc : Document) (member other : String × Json) : Prop :=
  ∀ p q, compileClause [] member.1 member.2 = .ok p → compileClause [] other.1 other.2 = .ok q →
    p.AlikeOn doc q

theorem Clause.Alike.refl [PatternReader] (member : String × Json) : Alike doc member member := by
  intro p q first second
  obtain rfl := Except.ok_unique first second
  exact fun _ _ _ => rfl

/-- Tests on the values at a path record nothing. -/
theorem Clause.alike_paths [PatternReader] {key : String} {value value' : Json}
    (path : isDollarKey key = false) :
    Alike doc (key, value) (key, value') := by
  have isField : ∀ {v : Json} {p : Predicate}, compileClause [] key v = .ok p →
      ∃ test, p = .field key test := by
    intro v p compiled
    rw [compileClause_path path] at compiled
    split at compiled
    · obtain ⟨tests, -, rfl⟩ := Except.map_eq_ok_iff.mp compiled
      exact ⟨_, rfl⟩
    · exact ⟨_, (Except.ok.inj compiled).symm⟩
  intro p q first second
  obtain ⟨test, rfl⟩ := isField first
  obtain ⟨test', rfl⟩ := isField second
  exact fun _ _ _ => rfl

/-- Two members of a `$and` are filters whose members record the same. -/
def Conjunct.Alike [PatternReader] (doc : Document) (item other : Json) : Prop :=
  ∃ members others, item = .object members ∧ other = .object others ∧
    List.Forall₂ (Clause.Alike doc) members others

/-- Filters whose members record the same do so as a whole. -/
theorem Predicate.alikeOn_of_compile [PatternReader] {filter other : Document}
    (each : List.Forall₂ (Clause.Alike doc) filter other) (first : compile filter [] = .ok p)
    (second : compile other [] = .ok q) : p.AlikeOn doc q := by
  obtain ⟨ps, compiledPs, rfl⟩ := compile_ok_iff.mp first
  obtain ⟨qs, compiledQs, rfl⟩ := compile_ok_iff.mp second
  refine alikeOn_allOf ?_
  clear first second
  induction each generalizing ps qs with
  | nil =>
      rw [compileClauses] at compiledPs compiledQs
      rw [← Except.ok.inj compiledPs, ← Except.ok.inj compiledQs]
      exact .nil
  | @cons member other members others head _ ih =>
      obtain ⟨part, parts, compiled, rest, rfl⟩ :=
        List.forall₂_cons_left_iff.mp (compileClauses_ok_iff.mp compiledPs)
      obtain ⟨part', parts', compiled', rest', rfl⟩ :=
        List.forall₂_cons_left_iff.mp (compileClauses_ok_iff.mp compiledQs)
      exact .cons (head part part' compiled compiled')
        (ih parts (compileClauses_ok_iff.mpr rest) parts' (compileClauses_ok_iff.mpr rest'))

theorem Clause.alike_and [PatternReader] {items others : List Json}
    (each : List.Forall₂ (fun item other => item = other ∨ Conjunct.Alike doc item other) items others) :
    Alike doc ("$and", .array items) ("$and", .array others) := by
  intro p q first second
  have nonempty : ∀ {list : List Json} {p : Predicate},
      compileClause [] "$and" (.array list) = .ok p → list ≠ [] := by
    intro list p compiled
    obtain ⟨_, same, some⟩ := exists_items_of_compiles_and ⟨p, compiled⟩
    rwa [Json.array.inj same]
  obtain ⟨ps, compiledPs, rfl⟩ := (compileClause_and (nonempty first)).mp first
  obtain ⟨qs, compiledQs, rfl⟩ := (compileClause_and (nonempty second)).mp second
  refine Predicate.alikeOn_allOf ?_
  clear first second
  induction each generalizing ps qs with
  | nil =>
      rw [compileItems] at compiledPs compiledQs
      rw [← Except.ok.inj compiledPs, ← Except.ok.inj compiledQs]
      exact .nil
  | @cons item other items others head _ ih =>
      obtain ⟨part, parts, compiled, rest, rfl⟩ :=
        List.forall₂_cons_left_iff.mp (compileItems_ok_iff.mp compiledPs)
      obtain ⟨part', parts', compiled', rest', rfl⟩ :=
        List.forall₂_cons_left_iff.mp (compileItems_ok_iff.mp compiledQs)
      refine .cons ?_ (ih parts (compileItems_ok_iff.mpr rest) parts' (compileItems_ok_iff.mpr rest'))
      rcases head with rfl | ⟨members, members', rfl, rfl, alike⟩
      · obtain rfl := Except.ok_unique compiled compiled'
        exact fun _ _ _ => rfl
      · obtain ⟨_, same, filter⟩ := compileItem_ok_iff.mp compiled
        obtain ⟨_, same', filter'⟩ := compileItem_ok_iff.mp compiled'
        cases same
        cases same'
        exact Predicate.alikeOn_of_compile alike filter filter'

/-! ### The queries of two batches -/

namespace PopulateClause

variable {clause : PopulateClause} {references others : List Json} {entry : String × Json}

/-- What a clause of the filter contributes beside the references. -/
def contribution (clause : PopulateClause) (references : List Json) (entry : String × Json) :
    List (String × Json) × List Json :=
  mergeDefault [clause.referenceTest references]
    (resolutions clause.filter [clause.referenceTest references]) entry

/-- An operator map on the foreign field stays one, whichever references it is merged with. -/
theorem contribution_of_operators (name : isDollarKey clause.foreignField = false)
    (distinct : clause.filter.DistinctKeys) (mem : entry ∈ clause.filter)
    (same : entry.1 = clause.foreignField) {ours : Document}
    (map : entry.2.operators? = some ours) (references : List Json) :
    ∃ value, clause.contribution references entry = ([(clause.foreignField, value)], []) := by
  rw [contribution, mergeDefault_eq distinct mem, meeting_of_operators name same map]
  by_cases equal : entry.2.equal (clause.referenceTest references).2 = true
  · rw [if_pos equal, ← same]
    exact ⟨entry.2, rfl⟩
  · rw [if_neg equal, same]
    exact ⟨_, rfl⟩

/-- The references show in a contribution only as a test on the foreign field. -/
theorem alike_contribution [PatternReader] (name : isDollarKey clause.foreignField = false)
    (distinct : clause.filter.DistinctKeys) (mem : entry ∈ clause.filter) :
    List.Forall₂ (Clause.Alike doc) (clause.contribution references entry).1
        (clause.contribution others entry).1 ∧
      List.Forall₂ (fun item other => item = other ∨ Conjunct.Alike doc item other)
        (clause.contribution references entry).2 (clause.contribution others entry).2 := by
  have alikeTests : ∀ value value', Clause.Alike doc (clause.foreignField, value)
      (clause.foreignField, value') := fun _ _ => Clause.alike_paths name
  by_cases same : entry.1 = clause.foreignField
  · cases map : entry.2.operators? with
    | none =>
        rw [contribution, contribution, mergeDefault_eq distinct mem, mergeDefault_eq distinct mem,
          meeting_of_literal name same map, meeting_of_literal name same map]
        refine ⟨.nil, .cons (.inl rfl) (.cons (.inr ⟨_, _, rfl, rfl, .cons ?_ .nil⟩) .nil)⟩
        rw [same]
        exact alikeTests _ _
    | some ours =>
        obtain ⟨value, first⟩ := contribution_of_operators name distinct mem same map references
        obtain ⟨value', second⟩ := contribution_of_operators name distinct mem same map others
        rw [first, second]
        exact ⟨.cons (alikeTests value value') .nil, .nil⟩
  · rw [contribution, contribution, mergeDefault_eq distinct mem, mergeDefault_eq distinct mem,
      meeting_of_other same, meeting_of_other same]
    exact ⟨.cons (Clause.Alike.refl entry) .nil, .nil⟩

/-- Element by element, lists that are put together from related lists are related. -/
theorem forall₂_flatMap {α β : Type} {r : β → β → Prop} {f g : α → List β} {xs : List α}
    (each : ∀ x ∈ xs, List.Forall₂ r (f x) (g x)) : List.Forall₂ r (xs.flatMap f) (xs.flatMap g) := by
  induction xs with
  | nil => exact .nil
  | cons x rest ih =>
      rw [List.flatMap_cons, List.flatMap_cons]
      exact List.rel_append (each x List.mem_cons_self)
        (ih fun y mem => each y (List.mem_cons_of_mem _ mem))

/-- **The queries of two batches are the same up to tests on the foreign field.** -/
theorem alike_query [PatternReader] (name : isDollarKey clause.foreignField = false)
    (distinct : clause.filter.DistinctKeys) :
    List.Forall₂ (Clause.Alike doc) (clause.query references).filter (clause.query others).filter := by
  have tested : ∀ references, Document.DistinctKeys [clause.referenceTest references] := fun _ =>
    List.nodup_singleton _
  have contributed : ∀ entry ∈ clause.filter.filter fun member => member.1 ≠ "$and", _ :=
    fun entry mem => @alike_contribution doc clause references others entry _ name distinct
      (List.mem_filter.mp mem).1
  have clauses : List.Forall₂ (Clause.Alike doc)
      ((contributions clause.filter [clause.referenceTest references]).flatMap Prod.fst)
      ((contributions clause.filter [clause.referenceTest others]).flatMap Prod.fst) := by
    rw [contributions, contributions, List.flatMap_map, List.flatMap_map]
    exact forall₂_flatMap fun entry mem => (contributed entry mem).1
  have inserted : List.Forall₂ (Clause.Alike doc)
      (insertedClauses clause.filter [clause.referenceTest references])
      (insertedClauses clause.filter [clause.referenceTest others]) := by
    rw [insertedClauses, insertedClauses, referenceTest, referenceTest]
    by_cases standing : clause.filter.contains clause.foreignField = true
    · simp [standing]
    · simp only [name, standing, List.filter_cons, Bool.not_false, Bool.and_self, if_true]
      exact .cons (Clause.alike_paths name) .nil
  have conjuncts : List.Forall₂ (fun item other => item = other ∨ Conjunct.Alike doc item other)
      (mergedConjuncts clause.filter [clause.referenceTest references])
      (mergedConjuncts clause.filter [clause.referenceTest others]) := by
    have logical : ∀ references, [clause.referenceTest references].filter
        (fun member => isDollarKey member.1) = [] := by
      intro references
      rw [referenceTest]
      simp [name]
    rw [mergedConjuncts, mergedConjuncts, logical, logical]
    refine List.rel_append (List.forall₂_same.mpr fun _ _ => .inl rfl) (List.rel_append .nil ?_)
    rw [contributions, contributions, List.flatMap_map, List.flatMap_map]
    exact forall₂_flatMap fun entry mem => (contributed entry mem).2
  have sameLength := conjuncts.length_eq
  rw [query_filter, query_filter, mergeFilters_eq distinct (tested _),
    mergeFilters_eq distinct (tested _)]
  refine List.rel_append (List.rel_append clauses inserted) ?_
  cases first : mergedConjuncts clause.filter [clause.referenceTest references] with
  | nil =>
      rw [first] at sameLength
      rw [List.eq_nil_of_length_eq_zero sameLength.symm]
      exact .nil
  | cons item rest =>
      rw [first] at sameLength conjuncts
      have more : (mergedConjuncts clause.filter [clause.referenceTest others]).isEmpty = false := by
        rw [List.isEmpty_eq_false_iff]
        exact List.ne_nil_of_length_pos (sameLength ▸ Nat.succ_pos _)
      rw [more]
      exact .cons (Clause.alike_and conjuncts) .nil

/-- **Relevance does not depend on the batch.** -/
theorem relevance_congr [PatternReader] (wellKeyed : (Json.object clause.filter).isWellKeyed = true)
    (scalars : ∀ r ∈ references, r.isReference = true)
    (first : Predicate.compile (clause.query references).filter [] = .ok p)
    (second : Predicate.compile (clause.query others).filter [] = .ok q)
    (matchedFirst : p.matchesDocument doc = true) (matchedSecond : q.matchesDocument doc = true) :
    p.relevance doc = q.relevance doc := by
  have name := ((exists_compile_query_iff wellKeyed scalars).mp ⟨p, first⟩).1
  have distinct := (Json.isWellKeyed_object.mp wellKeyed).1
  exact Predicate.alikeOn_of_compile (alike_query name distinct) first second matchedFirst
    matchedSecond none

end PopulateClause

end DocQuery
