import DocQuery.Proofs.Filter.Acceptance
import DocQuery.Proofs.Query.StandingDefaults

/-!
# Malformed defaults

The filters that a service enforces, those of a collection and its own, are mapped as a client's
are: what is malformed is left out.  So a malformed default does not stop a query, and records that
it was meant to hide are returned.  It does not go unseen: the response warns of every part that was
left out, and apart from these warnings it is the response to the same request under the defaults
without their malformed parts.

## Main definitions

* `Collection.withAcceptedDefaults`, `Request.withAcceptedDefaults`
* `defaultFaults`: what is reported of the defaults
* `execute_withAcceptedDefaults`
-/

namespace DocQuery

/-- A collection with what is left of its default filters. -/
def Collection.withAcceptedDefaults [PatternReader] (c : Collection) : Collection :=
  { c with defaultFilters := acceptedFilters .trusted c.defaultFilters }

/-- A request with what is left of its default filters. -/
def Request.withAcceptedDefaults [PatternReader] (request : Request) : Request :=
  { request with defaultFilters := acceptedFilters .trusted request.defaultFilters }

/-- What is left out of the defaults of a collection and a request. -/
def defaultFaults [PatternReader] (c : Collection) (request : Request) : List Diagnostic :=
  (mapFilters c.defaultFilters .trusted).diagnostics ++
    (mapFilters request.defaultFilters .trusted).diagnostics

section

variable {service : Service} {store : MemoryStore} {ref ref' : CollectionRef} {c : Collection}
  {request : Request}

theorem defaultFaults_withAcceptedDefaults [PatternReader] :
    defaultFaults c.withAcceptedDefaults request.withAcceptedDefaults = [] := by
  simp only [defaultFaults, Collection.withAcceptedDefaults, Request.withAcceptedDefaults,
    mapFilters_acceptedFilters, List.append_nil]

/-- A plan for another definition of the collection, with another account of what was left out. -/
def Plan.retold (plan : Plan) (c : Collection) (normal all : List Diagnostic) : Plan :=
  { plan with
    collection := c
    request := { plan.request with diagnostics := normal }
    diagnostics := all }

/-- Taking the malformed parts out of the defaults changes what is reported and nothing else. -/
theorem normalize_withAcceptedDefaults [PatternReader] (c : Collection) (request : Request)
    (settings : PageSettings) :
    ∃ before after,
      (request.normalize c settings).diagnostics = before ++ defaultFaults c request ++ after ∧
      request.withAcceptedDefaults.normalize c.withAcceptedDefaults settings =
        { request.normalize c settings with diagnostics := before ++ after } := by
  refine ⟨(mapFilters request.filters .untrusted).diagnostics,
    ((request.sort.map SortSpec.normalize).getD ([], [])).2 ++
      ((request.expand.map ExpandSpec.normalize).getD ([], [])).2, ?_, ?_⟩
  · simp only [Request.normalize, defaultFaults, List.append_assoc]
  · simp only [Request.normalize, Collection.withAcceptedDefaults, Request.withAcceptedDefaults,
      mapFilters_acceptedFilters, List.append_nil, List.append_assoc]

/-- What is left of the defaults makes up the same plan.  The faults of the defaults stand together
in the account of the one and are missing in that of the other. -/
theorem exists_planOf_eq_retold [PatternReader] (service : Service) (c : Collection)
    (request : Request) :
    ∃ before after normal,
      (service.planOf c request).diagnostics = before ++ defaultFaults c request ++ after ∧
      service.planOf c.withAcceptedDefaults request.withAcceptedDefaults =
        (service.planOf c request).retold c.withAcceptedDefaults normal (before ++ after) := by
  obtain ⟨before, after, reported, normal⟩ :=
    normalize_withAcceptedDefaults c request service.settings
  let request' := request.normalize c service.settings
  refine ⟨before, after ++ (Plan.filterOf request').2 ++
    (Plan.populateOf service.registry c request').2, before ++ after, ?_, ?_⟩
  · have all : (service.planOf c request).diagnostics =
        request'.diagnostics ++ (Plan.filterOf request').2 ++
          (Plan.populateOf service.registry c request').2 := rfl
    rw [all, reported]
    simp only [List.append_assoc]
  · rw [Service.planOf, normal, ← List.append_assoc, ← List.append_assoc]
    rfl

/-- A plan that tells another account leads to the same answer with other warnings, if the store
answers the same for the other definition. -/
theorem Plan.run_retold {plan : Plan} {store : RecordStore} {c : Collection}
    {normal all : List Diagnostic}
    (finds : store.find c plan.query = store.find plan.collection plan.query)
    (counts : store.count c plan.query.filter = store.count plan.collection plan.query.filter) :
    (plan.retold c normal all).run store store =
      (plan.run store store).map fun response =>
        { response with warnings := all.map Diagnostic.message } := by
  have answer : ∀ data total, (plan.retold c normal all).respond data total =
      { plan.respond data total with warnings := all.map Diagnostic.message } := fun _ _ => rfl
  have page : (plan.retold c normal all).request.pagination = plan.request.pagination := rfl
  rw [run, run, page]
  simp only [answer]
  rw [retold, finds, counts]
  rcases store.find plan.collection plan.query with _ | data
  · rfl
  · cases plan.request.pagination with
    | none => rfl
    | some window =>
        rcases store.count plan.collection plan.query.filter with _ | total <;> rfl

/-- **A malformed default does not go unseen.**  Every response to a request warns of each part of
the defaults that was left out, and under the defaults without these parts, of which none is left
out, the answer is the same but for those warnings. -/
theorem execute_withAcceptedDefaults [PatternReader]
    (resolved : service.registry.resolve ref = .ok c)
    (resolved' : service.registry.resolve ref' = .ok c.withAcceptedDefaults) :
    defaultFaults c.withAcceptedDefaults request.withAcceptedDefaults = [] ∧
      ∃ before after,
        (∀ response, service.execute store.records ref request = .ok response →
          response.warnings =
            (before ++ defaultFaults c request ++ after).map Diagnostic.message) ∧
        service.execute store.records ref' request.withAcceptedDefaults =
          (service.execute store.records ref request).map fun response =>
            { response with warnings := (before ++ after).map Diagnostic.message } := by
  obtain ⟨before, after, normal, reported, retold⟩ := exists_planOf_eq_retold service c request
  refine ⟨defaultFaults_withAcceptedDefaults, before, after, fun response answered => ?_, ?_⟩
  · rw [Service.execute_eq resolved] at answered
    rw [← reported, Plan.warnings_of_run answered]
  · rw [Service.execute_eq resolved, Service.execute_eq resolved', retold]
    exact Plan.run_retold rfl rfl

end

/-! ### Adults with a default that is none -/

/-- A collection that shows adults only and has two defaults that are malformed: a number of tags
that is no number, and a member of an operator map. -/
def adultsWithTags : Collection :=
  { Collection.named "people" with
    defaultFilters := [("tags_size", .string "many"),
      ("age", .object [("$gte", .ofNat 18), ("$regex", .ofNat 1)])] }

/-- The well-formed default hides a record, and the response warns of the two others. -/
theorem execute_withAcceptedDefaults_adults :
    let store : MemoryStore := ⟨[("people", [person "a" 5, person "b" 40])], 0⟩
    ∃ response,
      Service.bare.execute store.records (.definition adultsWithTags) Request.empty =
        .ok response ∧
      response.data.length = 1 ∧
      response.warnings =
        ["malformed filter value for 'tags_size': size expects a non-negative integer",
          "malformed filter value for 'age.$regex': regex filters expect a string"] ∧
      Service.bare.execute store.records (.definition adultsWithTags.withAcceptedDefaults)
        Request.empty.withAcceptedDefaults = .ok { response with warnings := [] } := by
  intro store
  obtain ⟨response, answered⟩ := Except.exists_eq_ok_of_isOk
    (x := Service.bare.execute store.records (.definition adultsWithTags) Request.empty)
    (by decide +kernel)
  have shown : (Service.bare.execute store.records (.definition adultsWithTags)
      Request.empty).toOption.map (fun r => (r.data.length, r.warnings)) = some (1,
        ["malformed filter value for 'tags_size': size expects a non-negative integer",
          "malformed filter value for 'age.$regex': regex filters expect a string"]) := by
    decide +kernel
  have faults : (defaultFaults adultsWithTags Request.empty).length = 2 := by decide +kernel
  rw [answered] at shown
  obtain ⟨data, warnings⟩ := Prod.mk.inj (Option.some.inj shown)
  have resolved : Service.bare.registry.resolve (.definition adultsWithTags) =
      .ok adultsWithTags := rfl
  have resolved' : Service.bare.registry.resolve (.definition adultsWithTags.withAcceptedDefaults) =
      .ok adultsWithTags.withAcceptedDefaults := rfl
  obtain ⟨-, before, after, warned, repaired⟩ := execute_withAcceptedDefaults resolved resolved'
  refine ⟨response, answered, data, warnings, ?_⟩
  -- there are no other warnings than those of the two faults
  have count := congrArg List.length (warned response answered)
  rw [warnings, List.length_map, List.length_append, List.length_append, faults] at count
  simp only [List.length_cons, List.length_nil] at count
  obtain rfl : before = [] := List.length_eq_zero_iff.mp (by omega)
  obtain rfl : after = [] := List.length_eq_zero_iff.mp (by omega)
  rw [repaired, answered]
  rfl

/-- A collection all of whose defaults are malformed shows its records. -/
theorem malformed_default_shows_records :
    let c : Collection :=
      { Collection.named "people" with defaultFilters := [("tags_size", .string "many")] }
    let store : MemoryStore := ⟨[("people", [person "a" 5])], 0⟩
    (mapFilters c.defaultFilters .trusted).diagnostics ≠ [] ∧
      ∃ response, Service.bare.execute store.records (.definition c) Request.empty = .ok response ∧
        response.data ≠ [] := by
  intro c store
  obtain ⟨response, answered⟩ := Except.exists_eq_ok_of_isOk
    (x := Service.bare.execute store.records (.definition c) Request.empty) (by decide +kernel)
  have one : (Service.bare.execute store.records (.definition c) Request.empty).toOption.map
      (·.data.length) = some 1 := by decide +kernel
  rw [answered] at one
  refine ⟨by decide +kernel, response, answered, fun empty => ?_⟩
  have length : response.data.length = 1 := Option.some.inj one
  rw [empty] at length
  cases length

end DocQuery
