import DocQuery.Proofs.Filter.Mapping
import DocQuery.Proofs.Filter.Merge
import DocQuery.Proofs.Query.HiddenPaths
import DocQuery.Proofs.Query.Restriction
import DocQuery.Proofs.Store.Blindness

/-!
# Restricted fields do not show

Two stores that differ only in the restricted fields of a collection give a client the same
answer, be it a response or an error.  The plan of a request does not depend on the store, so it
is enough that the query of the plan stays away from the restricted fields: the guard keeps them
out of the filter and out of the sort keys, and the rewritten selection keeps them out of the
projection.

A text search is not covered.  Without text fields it reads every string of a record, and with text
fields it reads those, restricted or not.

## Main definitions

* `Plan.blind_query`: the query of a client's request stays away from the restricted fields
* `Service.execute_congr_of_blind`: such a query has one answer on both stores
* `execute_congr_of_without`: so has a client's request, and `Service.execute_congr_of_decode` a body
  before it is read
-/

namespace DocQuery

/-- A name of a field of a record, as it may be restricted: it has no points and begins with no
sign. -/
def IsFieldName (name : String) : Prop := '.' ∉ name.toList ∧ IsPlainName name

variable {c : Collection} {request : Request} {settings : PageSettings}

/-- A path that is not restricted starts at another field. -/
theorem root_notMem_of_not_isRestricted {names : List String} {path : String}
    (fieldNames : ∀ name ∈ names, IsFieldName name) (free : isRestricted names path = false) :
    Path.root path ∉ names := by
  intro listed
  have apart := isRestricted_eq_false_iff.mp free _ listed
  rw [(Path.covers_of_name (fieldNames _ listed).1).mpr rfl] at apart
  cases apart

/-- The filter of a request without default filters and without a text search is the client's. -/
theorem Plan.filterOf_eq {normal : NormalRequest} (noDefaults : normal.defaultFilters = [])
    (noText : normal.fullText = none) (distinct : normal.filters.DistinctKeys)
    (paths : ∀ member ∈ normal.filters, isDollarKey member.1 = false) :
    (Plan.filterOf normal).1 = normal.filters := by
  rw [filterOf, noText, noDefaults, mergeFilters_nil_left distinct paths]
  rfl

theorem mem_sortOf {normal : NormalRequest} {path : String} {direction : SortDirection}
    (mem : .field path direction ∈ Plan.sortOf normal) : ⟨path, direction⟩ ∈ normal.sorting := by
  have inKeys : SortKey.field path direction ∈
      normal.sorting.map (fun s => SortKey.field s.field s.direction) := by
    rw [Plan.sortOf] at mem
    split at mem
    · rw [SortKey.withTextScore] at mem
      split at mem
      · exact mem
      · rcases List.mem_append.mp mem with h | h
        · exact h
        · cases List.mem_singleton.mp h
    · exact mem
  obtain ⟨s, inSorting, same⟩ := List.mem_map.mp inKeys
  cases same
  exact inSorting

/-- A rewritten selection does not show whether a record has restricted fields. -/
theorem Projection.blind_restrict {entries restricted : List String} {names : List String}
    {idField : String} (listed : names ⊆ restricted) (fieldNames : ∀ name ∈ names, IsFieldName name)
    (idFree : isRestricted names idField = false) :
    (Projection.ofSelection (Selection.restrict entries restricted) idField).Blind names := by
  by_cases inclusion : ∃ e ∈ Selection.restrict entries restricted, Projection.isExclusion e = false
  · obtain ⟨paths, isInclude, -, sound⟩ := Projection.ofSelection_include idField inclusion
    rw [isInclude]
    -- what survives the rewrite starts at a field that is not restricted, as the identity does
    refine Projection.blind_include fun path mem => ?_
    rcases sound path mem with rfl | ⟨inSelection, plain⟩
    · exact root_notMem_of_not_isRestricted fieldNames idFree
    · have free := (Selection.of_mem_restrict inSelection plain).2
      refine root_notMem_of_not_isRestricted fieldNames ?_
      rw [Bool.eq_false_iff]
      intro hit
      rw [Request.isRestricted_mono listed hit] at free
      cases free
  · have none : ∀ e ∈ Selection.restrict entries restricted, Projection.isExclusion e = true := by
      simpa using inclusion
    by_cases empty : names = []
    · rw [empty]
      exact Projection.blind_nil _
    · have named : ∀ name ∈ names, Projection.excludedPath ("-" ++ name) = name ∧ name ≠ "" := by
        intro name mem
        obtain ⟨-, c, rest, chars, plain⟩ := fieldNames name mem
        refine ⟨Selection.excludedPath_dash ?_, ?_⟩
        · have notDash : c ≠ '-' := by
            rintro rfl
            exact absurd plain (by decide)
          simpa [Projection.isExclusion, Text.startsWith, chars] using notDash
        · rintro rfl
          cases chars
      obtain ⟨first, rest, rfl⟩ := List.exists_cons_of_ne_nil empty
      -- no inclusion is left, so the rewrite excludes every restricted field by name
      have excluded : ∀ name ∈ first :: rest, "-" ++ name ∈ Selection.restrict entries restricted :=
        fun name mem => Selection.exclusion_mem_restrict none (listed mem)
      have some : ∃ e ∈ Selection.restrict entries restricted, Projection.excludedPath e ≠ "" := by
        refine ⟨_, excluded first List.mem_cons_self, ?_⟩
        rw [(named first List.mem_cons_self).1]
        exact (named first List.mem_cons_self).2
      obtain ⟨paths, isExclude, complete⟩ := Projection.ofSelection_exclude idField none some
      rw [isExclude]
      refine Projection.blind_exclude (fun name mem => (fieldNames name mem).1) fun name mem => ?_
      have hidden := complete _ (excluded name mem)
      rw [(named name mem).1] at hidden
      exact hidden (named name mem).2

/-- **The query of a client's request stays away from the restricted fields.** -/
theorem Plan.blind_query [PatternReader] (registry : Registry)
    (fieldNames : ∀ name ∈ c.restrictedFields, IsFieldName name)
    (idFree : isRestricted c.restrictedFields c.idField = false) (noDefaults : c.defaultFilters = [])
    (client : request.IsFromClient c) (noExpansions : (request.normalize c settings).expansions = [])
    (noText : (request.normalize c settings).fullText = none) :
    (Plan.ofNormal registry c (request.normalize c settings)).query.Blind c.restrictedFields := by
  obtain ⟨original, noOwnDefaults, rfl⟩ := client.exists_enforced
  have noScore : Plan.wantsScore ((original.enforceRestrictions c).normalize c settings) = false := by
    rw [wantsScore, noText]
    rfl
  have noStanding : ((original.enforceRestrictions c).normalize c settings).defaultFilters = [] := by
    rw [Request.normalize, Request.defaultFilters_enforceRestrictions, noOwnDefaults, noDefaults]
    rfl
  have listed : c.restrictedFields ⊆
      Request.unionFields original.restrictedFields c.restrictedFields := by
    intro name listed
    exact Request.mem_unionFields.mpr (.inr listed)
  have clauses : ∀ member ∈ ((original.enforceRestrictions c).normalize c settings).filters,
      isDollarKey member.1 = false ∧ Path.root member.1 ∉ c.restrictedFields := by
    intro member mem
    obtain ⟨path, entry, inFilters, field⟩ := exists_entry_of_mem_mapFilters mem
    have free := Request.not_isRestricted_of_mem_filters listed inFilters
    exact ⟨path, root_notMem_of_not_isRestricted fieldNames (field ▸ free)⟩
  constructor
  · change ∀ member ∈ (Plan.filterOf _).1, _
    rw [filterOf_eq noStanding noText (distinctKeys_mapFilters _ _)
      fun member mem => (clauses member mem).1]
    exact clauses
  · intro path direction mem
    exact root_notMem_of_not_isRestricted fieldNames
      (Request.not_isRestricted_of_mem_sort listed
        (fun name listed => (fieldNames name listed).2.isUnsigned) (mem_sortOf mem))
  · rw [projection_ofNormal noExpansions noScore]
    exact Projection.blind_restrict (fun name listed => Request.mem_unionFields.mpr
      (.inl (Request.mem_unionFields.mpr (.inr listed)))) fieldNames idFree
  · exact populate_ofNormal noExpansions

/-- A plan has the same outcome on stores that find and count the same for it. -/
theorem Plan.run_congr {plan : Plan} {store store' : RecordStore}
    (found : store.find plan.collection plan.query = store'.find plan.collection plan.query)
    (counted : store.count plan.collection plan.query.filter =
      store'.count plan.collection plan.query.filter) :
    plan.run store store = plan.run store' store' := by
  rw [run, run, found, counted]

/-- A query that stays away from some fields has one answer on stores that agree but for these. -/
theorem Service.execute_congr_of_blind [PatternReader] {service : Service} {ref : CollectionRef}
    {store store' : MemoryStore} {names : List String}
    (resolved : service.registry.resolve ref = .ok c)
    (blind : (service.planOf c request).query.Blind names)
    (agree : (store.docs c.name).map (Document.without names) =
      (store'.docs c.name).map (Document.without names)) :
    service.execute store.records ref request = service.execute store'.records ref request := by
  rw [execute_eq resolved, execute_eq resolved]
  exact Plan.run_congr (blind.find_congr agree) (blind.count_congr agree)

/-- **Restricted fields do not show.**  Two stores whose records of a collection agree once the
restricted fields are taken away give a client the same answer to every request without expansions
and without a text search, where the collection has no default filters: the same response or the
same error. -/
theorem execute_congr_of_without [PatternReader] {service : Service} {ref : CollectionRef}
    {store store' : MemoryStore} (resolved : service.registry.resolve ref = .ok c)
    (fieldNames : ∀ name ∈ c.restrictedFields, IsFieldName name)
    (idFree : isRestricted c.restrictedFields c.idField = false) (noDefaults : c.defaultFilters = [])
    (client : request.IsFromClient c)
    (noExpansions : (request.normalize c service.settings).expansions = [])
    (noText : (request.normalize c service.settings).fullText = none)
    (agree : (store.docs c.name).map (Document.without c.restrictedFields) =
      (store'.docs c.name).map (Document.without c.restrictedFields)) :
    service.execute store.records ref request = service.execute store'.records ref request := by
  have blind := Plan.blind_query service.registry fieldNames idFree noDefaults client
    noExpansions noText
  exact Service.execute_congr_of_blind resolved blind agree

/-- A body as it comes from a client, before any of its members is read, gets the same answer on both
stores. -/
theorem Service.execute_congr_of_decode [PatternReader] {service : Service} {ref : CollectionRef}
    {store store' : MemoryStore} {draft : Draft} {body : Request}
    (resolved : service.registry.resolve ref = .ok c)
    (fieldNames : ∀ name ∈ c.restrictedFields, IsFieldName name)
    (idFree : isRestricted c.restrictedFields c.idField = false) (noDefaults : c.defaultFilters = [])
    (decoded : Request.decode draft = .ok body)
    (noExpansions : ((body.ofBody c).normalize c service.settings).expansions = [])
    (noText : ((body.ofBody c).normalize c service.settings).fullText = none)
    (agree : (store.docs c.name).map (Document.without c.restrictedFields) =
      (store'.docs c.name).map (Document.without c.restrictedFields)) :
    service.execute store.records ref (body.ofBody c) =
      service.execute store'.records ref (body.ofBody c) := by
  have client : (body.ofBody c).IsFromClient c := Request.isFromClient_of_decode decoded
  have blind := Plan.blind_query service.registry fieldNames idFree noDefaults client
    noExpansions noText
  exact execute_congr_of_blind resolved blind agree

/-! ### A client that asks for a restricted field -/

/-- A collection that keeps salaries to itself. -/
def payroll : Collection := { Collection.named "payroll" with restrictedFields := ["salary"] }

/-- A record of a salary. -/
def paid (id : String) (salary : Nat) : Document := [("_id", .string id), ("salary", .ofNat salary)]

/-- A client that filters, sorts and selects by salary gets the same records, in the same order,
however the salaries stand. -/
theorem execute_congr_of_without_salary :
    let store : MemoryStore := ⟨[("payroll", [paid "a" 10, paid "b" 20])], 0⟩
    let store' : MemoryStore := ⟨[("payroll", [paid "a" 20, paid "b" 10])], 0⟩
    let request := Request.ofParameters
      [("salary_gt", "15"), ("_id_ne", "c"), ("sort", "-salary,_id"), ("fields", "salary,_id")] payroll
    store.docs "payroll" ≠ store'.docs "payroll" ∧
      (Service.bare.execute store.records (.definition payroll) request).isOk = true ∧
      Service.bare.execute store.records (.definition payroll) request =
        Service.bare.execute store'.records (.definition payroll) request := by
  intro store store' request
  have fieldNames : ∀ name ∈ payroll.restrictedFields, IsFieldName name := by
    intro name mem
    rw [List.mem_singleton.mp mem]
    exact ⟨by decide +kernel, 's', _, rfl, rfl⟩
  have apart : store.docs "payroll" ≠ store'.docs "payroll" := by
    intro same
    cases same
  refine ⟨apart, by decide +kernel, ?_⟩
  exact execute_congr_of_without (c := payroll) rfl fieldNames (by decide +kernel) rfl
    (.inl ⟨_, rfl⟩) (by decide +kernel) (by decide +kernel) rfl

end DocQuery
