import DocQuery.Proofs.Filter.Mapping
import DocQuery.Proofs.Filter.Override
import DocQuery.Proofs.Store.Answer

/-!
# What a client cannot undo

The filters of a collection apply to every query, and a client's filters are merged into them.
The merge lets the client restate an operator of a default for a field, so a client can widen a
range that the defaults set.  It can do no more than that: every other default, and every other
operator of the same default, holds for the stored original of every record that is returned.

## Main definitions

* `overriddenBy`: the operators that a client's operator map takes over
* `enforcedBeside`: the defaults without them
* `originals_match_enforced_defaults`
-/

namespace DocQuery

/-- Whether a client's operator map takes over an operator of the defaults: it carries the
operator, or carries the options that a pattern of the defaults would be read with. -/
def overriddenBy (theirs : Document) (op : String) : Bool :=
  theirs.contains op || (op == "$regex" && theirs.contains "$options")

/-- The defaults that a client's clauses leave in force. -/
def enforcedBeside (defaults client : Document) : Document :=
  defaults.filterMap (leftOf overriddenBy client)

variable {defaults client : Document} {P : String × Json → Prop}
  {Q : String → Document → String × Json → Prop}

/-- A merge asks for every default that the client leaves in force. -/
theorem enforcedBeside_of_mergeFilters (conjunctive : Clause.Conjunctive P)
    (decided : Clause.OperatorWise P Q) (distinct : defaults.DistinctKeys)
    (distinct' : client.DistinctKeys)
    (conjunction : ∀ value, defaults.get? "$and" = some value →
      ∃ items, value = .array items ∧ items ≠ [])
    (merged : ∀ member ∈ mergeFilters defaults client, P member) :
    ∀ member ∈ enforcedBeside defaults client, P member := by
  intro left mem
  obtain ⟨entry, inDefaults, h⟩ := List.mem_filterMap.mp mem
  obtain ⟨conjuncts, -, -, each⟩ :=
    (forall_mem_mergeFilters conjunctive distinct distinct').mp merged
  by_cases isAnd : entry.1 = "$and"
  · obtain ⟨key, value⟩ := entry
    obtain rfl : key = "$and" := isAnd
    have found := Document.get?_of_mem distinct inDefaults
    obtain ⟨items, rfl, nonempty⟩ := conjunction value found
    have isDollar : isDollarKey "$and" = true := by decide
    rw [leftOf, meeting, if_pos isDollar, Option.some.injEq] at h
    rw [found] at conjuncts
    exact h ▸ (conjunctive items nonempty).mpr conjuncts
  · refine leftOf_of_requires decided (fun theirs op carried => ?_)
      (fun ours theirs _ _ kept => ?_) (each entry inDefaults isAnd) h
    · rw [overriddenBy, carried, Bool.true_or]
    · simpa [overriddenBy] using (Bool.or_eq_false_iff.mp kept).2

/-! ### Merging with no clauses -/

/-- Defaults merged with no clauses of a client keep every clause but `$and`, which becomes a
list. -/
theorem mergeFilters_nil_right (distinct : defaults.DistinctKeys) :
    mergeFilters defaults [] =
      (defaults.filter fun member => member.1 ≠ "$and") ++
        if (conjunctsOf (defaults.get? "$and")).isEmpty then []
        else [("$and", .array (conjunctsOf (defaults.get? "$and")))] := by
  have part : ∀ entry, mergeDefault [] (resolutions defaults []) entry = ([entry], []) := fun _ => rfl
  have clauses : (contributions defaults []).flatMap Prod.fst =
      defaults.filter fun member => member.1 ≠ "$and" := by
    simp only [contributions, part, List.flatMap_map]
    exact List.flatMap_singleton' _
  have conjuncts : mergedConjuncts defaults [] = conjunctsOf (defaults.get? "$and") := by
    have none : (contributions defaults []).flatMap Prod.snd = [] := by
      simp [contributions, part, List.flatMap_map]
    simp [mergedConjuncts, none]
  rw [mergeFilters_eq distinct Document.distinctKeys_nil, clauses, conjuncts]
  simp [insertedClauses]

/-- After a merge `$and` is a list with members, if it is there at all. -/
theorem and_of_mergeFilters_nil (distinct : defaults.DistinctKeys) (value : Json)
    (found : (mergeFilters defaults []).get? "$and" = some value) :
    ∃ items, value = .array items ∧ items ≠ [] := by
  have notBefore : Document.get? (defaults.filter fun member => member.1 ≠ "$and") "$and" = none := by
    rw [Document.get?_filter fun key => key ≠ "$and"]
    simp
  rw [mergeFilters_nil_right distinct, Document.get?_append, notBefore, Option.none_or] at found
  split at found
  · cases found
  · next nonempty =>
      exact ⟨_, (Option.some.inj found).symm, by simpa using nonempty⟩

/-- Defaults that compile keep all their clauses in a merge with no clauses of a client. -/
theorem subset_mergeFilters_nil [PatternReader] {fields : List String}
    (distinct : defaults.DistinctKeys)
    (compile : ∀ member ∈ defaults, Clause.Compiles fields member) :
    defaults ⊆ mergeFilters defaults [] := by
  intro member mem
  rw [mergeFilters_nil_right distinct, List.mem_append]
  by_cases isAnd : member.1 = "$and"
  · obtain ⟨key, value⟩ := member
    obtain rfl : key = "$and" := isAnd
    obtain ⟨items, rfl, nonempty⟩ := Clause.exists_items_of_compiles_and (compile _ mem)
    rw [Document.get?_of_mem distinct mem, conjunctsOf, if_neg (by simpa using nonempty)]
    exact .inr List.mem_cons_self
  · exact .inl (List.mem_filter.mpr ⟨mem, by simpa using isAnd⟩)

/-! ### The filter of a request -/

/-- Adding a text search to the filter of a request takes nothing away. -/
theorem mergeFilters_subset_filterOf (request : NormalRequest) :
    mergeFilters request.defaultFilters request.filters ⊆ (Plan.filterOf request).1 := by
  unfold Plan.filterOf
  dsimp only
  split
  · next clause _ =>
      unfold FullTextSearch.addClause
      cases present : (mergeFilters request.defaultFilters request.filters).get? "$text" with
      | none =>
          rw [Document.insert_of_notMem (Document.get?_eq_none_iff.mp present)]
          exact List.subset_append_left _ _
      | some other =>
          dsimp only
          split <;> exact List.Subset.refl _
  · exact List.Subset.refl _

/-- A filter that contains a merge of defaults and client clauses compiles to a predicate that
implies the defaults that the client leaves in force. -/
theorem exists_enforced_of_subset [PatternReader] {filter : Document} {fields : List String}
    {p : Predicate} (distinct : defaults.DistinctKeys) (distinct' : client.DistinctKeys)
    (conjunction : ∀ value, defaults.get? "$and" = some value →
      ∃ items, value = .array items ∧ items ≠ [])
    (subset : mergeFilters defaults client ⊆ filter)
    (compiled : Predicate.compile filter fields = .ok p)
    (kept : Document) (enforced : kept ⊆ enforcedBeside defaults client) :
    ∃ q, Predicate.compile kept fields = .ok q ∧
      ∀ doc, p.matchesDocument doc = true → q.matchesDocument doc = true := by
  have compiles := Predicate.exists_compile_iff.mp ⟨p, compiled⟩
  obtain ⟨q, compiledQ⟩ := Predicate.exists_compile_iff.mpr fun member mem =>
    enforcedBeside_of_mergeFilters Clause.conjunctive_compiles (Clause.operatorWise_compiles fields)
      distinct distinct' conjunction (fun member mem => compiles member (subset mem)) member
      (enforced mem)
  refine ⟨q, compiledQ, fun doc matched => ?_⟩
  have accepts := (Predicate.matchesDocument_iff compiled).mp matched
  refine (Predicate.matchesDocument_iff compiledQ).mpr fun member mem => ?_
  exact enforcedBeside_of_mergeFilters Clause.conjunctive_accepts
    (Clause.operatorWise_accepts fields doc) distinct distinct' conjunction
    (fun member mem => accepts member (subset mem)) member (enforced mem)

/-- **A client cannot undo the defaults of a collection.**  The stored original of every returned
record matches the defaults that the client's filters leave in force, first as the service
normalizes them and then, where they compile on their own, as the collection states them. -/
theorem originals_match_enforced_defaults [PatternReader] {service : Service} {store : MemoryStore}
    {ref : CollectionRef} {c : Collection} {request : Request} {response : Response}
    (resolved : service.registry.resolve ref = .ok c) (noDefaults : request.defaultFilters = [])
    (answered : service.execute store.records ref request = .ok response) :
    let defaults := (mapFilters c.defaultFilters .trusted).clauses
    let client := (mapFilters request.filters .untrusted).clauses
    ∃ rows, store.Originals c (service.planOf c request).query rows response.data ∧
      (∃ enforced, Predicate.compile (enforcedBeside (mergeFilters defaults []) client) c.textFields
          = .ok enforced ∧ ∀ row ∈ rows, enforced.matchesDocument row.doc = true) ∧
      ∀ standing, Predicate.compile defaults c.textFields = .ok standing →
        ∃ enforced, Predicate.compile (enforcedBeside defaults client) c.textFields = .ok enforced ∧
          ∀ row ∈ rows, enforced.matchesDocument row.doc = true := by
  intro defaults client
  obtain ⟨rows, originals, p, compiled, matched⟩ :=
    MemoryStore.exists_originals (Service.find_of_execute resolved answered)
  -- the service merges its own defaults with the collection's before a client's filters come in
  have normal : (request.normalize c service.settings).defaultFilters = mergeFilters defaults [] := by
    rw [Request.normalize, noDefaults]
    rfl
  have subset : mergeFilters (mergeFilters defaults []) client ⊆
      (service.planOf c request).query.filter := by
    rw [← normal]
    exact mergeFilters_subset_filterOf (request.normalize c service.settings)
  have distinct := distinctKeys_mapFilters c.defaultFilters .trusted
  have implied := exists_enforced_of_subset distinctKeys_mergeFilters
    (distinctKeys_mapFilters request.filters .untrusted) (and_of_mergeFilters_nil distinct) subset
    compiled
  refine ⟨rows, originals, ?_, fun standing compiledD => ?_⟩
  · obtain ⟨q, compiledQ, weaker⟩ := implied _ (List.Subset.refl _)
    exact ⟨q, compiledQ, fun row mem => weaker row.doc (matched row mem)⟩
  · have all := subset_mergeFilters_nil distinct (Predicate.exists_compile_iff.mp ⟨_, compiledD⟩)
    obtain ⟨q, compiledQ, weaker⟩ := implied (enforcedBeside defaults client)
      (List.filterMap_subset _ all)
    exact ⟨q, compiledQ, fun row mem => weaker row.doc (matched row mem)⟩

/-! ### A lower bound that a client restates -/

/-- A collection that shows adults only, unless a client asks otherwise. -/
def adultsOnly : Collection :=
  { Collection.named "people" with
    defaultFilters := [("age_gte", .ofNat 18), ("status", .string "active")] }

/-- A record of a person. -/
def person (id : String) (age : Nat) : Document :=
  [("_id", .string id), ("age", .ofNat age), ("status", .string "active")]

/-- The literal default stands beside a client that restates the lower bound. -/
theorem originals_match_enforced_defaults_adults :
    let store : MemoryStore := ⟨[("people", [person "a" 5, person "b" 40])], 0⟩
    let request : Request := { Request.empty with filters := [("age_gte", .ofNat 0)] }
    ∃ response rows enforced,
      Service.bare.execute store.records (.definition adultsOnly) request = .ok response ∧
      store.Originals adultsOnly (Service.bare.planOf adultsOnly request).query rows response.data ∧
      Predicate.compile [("status", .string "active")] [] = .ok enforced ∧
      ∀ row ∈ rows, enforced.matchesDocument row.doc = true := by
  intro store request
  obtain ⟨response, answered⟩ := Except.exists_eq_ok_of_isOk
    (x := Service.bare.execute store.records (.definition adultsOnly) request) (by decide +kernel)
  obtain ⟨rows, originals, -, enforced⟩ :=
    originals_match_enforced_defaults (c := adultsOnly) rfl rfl answered
  obtain ⟨q, compiled, matched⟩ := enforced _ rfl
  exact ⟨response, rows, q, answered, originals, compiled, matched⟩

/-- A client that restates the lower bound of the defaults sees a record that the defaults alone
would hide. -/
theorem restated_bound_shows_hidden_record :
    let store : MemoryStore := ⟨[("people", [person "a" 5])], 0⟩
    let request : Request := { Request.empty with filters := [("age_gte", .ofNat 0)] }
    ∃ response standing,
      Service.bare.execute store.records (.definition adultsOnly) request = .ok response ∧
      Predicate.compile (mapFilters adultsOnly.defaultFilters .trusted).clauses [] = .ok standing ∧
      ∃ rows, store.Originals adultsOnly (Service.bare.planOf adultsOnly request).query rows
          response.data ∧ ∃ row ∈ rows, standing.matchesDocument row.doc = false := by
  intro store request
  obtain ⟨response, answered⟩ := Except.exists_eq_ok_of_isOk
    (x := Service.bare.execute store.records (.definition adultsOnly) request) (by decide +kernel)
  obtain ⟨standing, compiled⟩ := Except.exists_eq_ok_of_isOk
    (x := Predicate.compile (mapFilters adultsOnly.defaultFilters .trusted).clauses [])
    (by decide +kernel)
  have one : (Service.bare.execute store.records (.definition adultsOnly) request).toOption.map
      (·.data.length) = some 1 := by decide +kernel
  have hides : (Predicate.compile (mapFilters adultsOnly.defaultFilters .trusted).clauses
      []).toOption.map (·.matchesDocument (person "a" 5)) = some false := by decide +kernel
  rw [answered] at one
  rw [compiled] at hides
  obtain ⟨rows, originals, -⟩ :=
    MemoryStore.exists_originals (Service.find_of_execute (c := adultsOnly) rfl answered)
  have single : rows.length = 1 := originals.sameLength.symm.trans (Option.some.inj one)
  obtain ⟨row, rfl⟩ := List.length_eq_one_iff.mp single
  refine ⟨response, standing, answered, compiled, _, originals, row, List.mem_cons_self, ?_⟩
  rw [List.mem_singleton.mp (originals.stored row List.mem_cons_self)]
  exact Option.some.inj hides

end DocQuery
