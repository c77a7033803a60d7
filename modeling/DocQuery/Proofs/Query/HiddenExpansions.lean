import DocQuery.Proofs.Filter.Mapping
import DocQuery.Proofs.Query.Selection
import DocQuery.Proofs.Store.Exposure

/-!
# Restricted fields of expanded records

A record that takes the place of a reference is selected apart from the record around it: its
sub-selection is rewritten against the restricted fields of the target, the field that references
match is added for the match and stripped again.  Whatever the sub-selection, and even if that field
is restricted itself, no restricted field of the target is left.

Clauses run one after the other over the same documents, so a relation inside an expanded record can
change what stands there.  The records at the path of a reference still have no restricted field when
the run is over.

## Main definitions

* `Collection.RestrictsNames`: targets whose restricted fields are names
* `Plan.conceals_clauseTo`: what one clause puts in place
* `expansions_lack_restricted_fields`
-/

namespace DocQuery

/-- The restricted fields of a collection are names, and its identity is none of them. -/
structure Collection.RestrictsNames (c : Collection) : Prop where
  nonempty : ∀ field ∈ c.restrictedFields, field ≠ ""
  undotted : ∀ field ∈ c.restrictedFields, '.' ∉ field.toList
  plain : ∀ field ∈ c.restrictedFields, Projection.isExclusion field = false
  idShown : isRestricted c.restrictedFields c.idField = false

namespace Plan

variable {registry : Registry} {c target : Collection} {request : NormalRequest}
  {expansion : Expansion} {relation : Relation} {clause : PopulateClause}

/-! ### The clause of an expansion -/

/-- **The clause of an expansion conceals the restricted fields of the target**, whatever the
sub-selection. -/
theorem conceals_clauseTo [PatternReader] (foreign : '.' ∉ relation.foreignField.toList)
    (names : target.RestrictsNames) :
    (clauseTo expansion relation target).1.Conceals target.restrictedFields := by
  intro doc score field listed
  by_cases inclusion : ∃ e ∈ Selection.restrict (expansion.select.getD []) target.restrictedFields,
      Projection.isExclusion e = false
  · obtain ⟨paths, isInclude, -, sound⟩ := Projection.ofSelection_include target.idField inclusion
    refine PopulateClause.notMem_keys_record_include foreign isInclude (fun path mem => ?_) score
    have shown : isRestricted target.restrictedFields path = false := by
      rcases sound path mem with rfl | ⟨inSelection, isPlain⟩
      · exact names.idShown
      · exact (Selection.of_mem_restrict inSelection isPlain).2
    rw [Ne, ← Path.covers_of_name (names.undotted field listed),
      isRestricted_eq_false_iff.mp shown field listed]
    decide
  · -- no inclusion is left, so the rewrite has added an exclusion of the field
    have none : ∀ e ∈ Selection.restrict (expansion.select.getD []) target.restrictedFields,
        Projection.isExclusion e = true := by
      simpa using inclusion
    have excluded := Selection.exclusion_mem_restrict none listed
    have named := Selection.excludedPath_dash (names.plain field listed)
    have nonempty : Projection.excludedPath ("-" ++ field) ≠ "" :=
      named.symm ▸ names.nonempty field listed
    obtain ⟨paths, isExclude, complete⟩ :=
      Projection.ofSelection_exclude target.idField none ⟨_, excluded, nonempty⟩
    have mem := complete _ excluded nonempty
    rw [named] at mem
    exact PopulateClause.notMem_keys_record_exclude foreign isExclude
      (names.undotted field listed) mem score

/-- Every clause of a plan carries out an expansion along a relation to a registered target. -/
theorem exists_clauseTo_of_mem [PatternReader] (mem : clause ∈ (populateOf registry c request).1) :
    ∃ expansion relation target, c.relation? expansion.path = some relation ∧
      registry.get? relation.collection = some target ∧
      clause = (clauseTo expansion relation target).1 := by
  obtain ⟨part, inParts, isClause⟩ := List.mem_filterMap.mp mem
  obtain ⟨expansion, -, rfl⟩ := List.mem_map.mp inParts
  unfold populateOne at isClause
  split at isClause
  · cases isClause
  · cases related : c.relation? expansion.path with
    | none =>
        rw [related] at isClause
        cases isClause
    | some relation =>
        rw [related] at isClause
        cases registered : registry.get? relation.collection with
        | none =>
            simp only [registered] at isClause
            cases isClause
        | some target =>
            simp only [registered] at isClause
            exact ⟨expansion, relation, target, related, registered, (Option.some.inj isClause).symm⟩

/-- The clauses of a plan load no relevance, and no key is repeated in their filters. -/
theorem keyApart_of_mem [PatternReader] (mem : clause ∈ (populateOf registry c request).1) :
    clause.KeyApart ∧ clause.filter.DistinctKeys := by
  obtain ⟨expansion, relation, target, -, -, rfl⟩ := exists_clauseTo_of_mem mem
  refine ⟨fun field isScore => ?_, distinctKeys_mapFilters _ _⟩
  cases isScore

theorem mem_relations_of_relation? {path : String} (related : c.relation? path = some relation) :
    (path, relation) ∈ c.relations := by
  obtain ⟨front, back, split, -⟩ := List.lookup_eq_some_iff.mp related
  exact split ▸ List.mem_append_right _ List.mem_cons_self

/-- Every clause of a plan follows the relation of its path to a registered target, and conceals the
restricted fields of that target. -/
theorem exists_target_of_mem [PatternReader]
    (foreign : ∀ entry ∈ c.relations, '.' ∉ entry.2.foreignField.toList)
    (targets : ∀ entry ∈ c.relations, ∀ target,
      registry.get? entry.2.collection = some target → target.RestrictsNames)
    (mem : clause ∈ (populateOf registry c request).1) :
    ∃ relation target, c.relation? clause.path = some relation ∧
      relation.collection = clause.source ∧ registry.get? clause.source = some target ∧
      clause.Conceals target.restrictedFields := by
  obtain ⟨expansion, relation, target, related, registered, rfl⟩ := exists_clauseTo_of_mem mem
  have listed := mem_relations_of_relation? related
  exact ⟨relation, target, related, rfl, registered,
    conceals_clauseTo (foreign _ listed) (targets _ listed target registered)⟩

/-- The relevance is reported in the field `score`, if it is wanted. -/
theorem scoreField_projectionOf {field : String}
    (h : (projectionOf c request).scoreField = some field) :
    wantsScore request = true ∧ field = "score" := by
  have plain : ∀ (paths : List String) (p : Projection),
      (paths.foldl Projection.ensureIncluded p).scoreField = p.scoreField := by
    intro paths
    induction paths with
    | nil => exact fun p => rfl
    | cons path rest ih =>
        intro p
        rw [List.foldl_cons, ih, Projection.scoreField_ensureIncluded]
  unfold projectionOf at h
  dsimp only at h
  split at h
  · next wanted => exact ⟨wanted, (Option.some.inj h).symm⟩
  · rw [plain] at h
    cases h

end Plan

/-! ### The answer of a request -/

/-- **Expansion never exposes the restricted fields of a target.**  Every clause of the plan of a
request has a registered target, and on any documents it changes nothing but the value at its path,
where it puts records without the restricted fields of that target.  So, when all clauses have run,
the records at the path of a relation have none of them, wherever the stored original has
references at the path.  The one exception is a path inside the field `score`, when that field holds
the relevance and is itself expanded: there the stored value is gone before any clause runs, and what
stands at the path is part of the record that replaced the relevance. -/
theorem expansions_lack_restricted_fields [PatternReader] {service : Service} {store : MemoryStore}
    {ref : CollectionRef} {c : Collection} {request : Request} {response : Response}
    (resolved : service.registry.resolve ref = .ok c)
    (foreign : ∀ entry ∈ c.relations, '.' ∉ entry.2.foreignField.toList)
    (targets : ∀ entry ∈ c.relations, ∀ target,
      service.registry.get? entry.2.collection = some target → target.RestrictsNames)
    (answered : service.execute store.records ref request = .ok response) :
    let plan := service.planOf c request
    ∃ rows, store.Originals c plan.query rows response.data ∧
      (∀ clause ∈ plan.query.populate, ∃ target,
        service.registry.get? clause.source = some target ∧
        ∀ docs next, clause.apply store.lookup docs = .ok next →
          List.Forall₂ (fun doc after => after = doc ∨ ∃ v : Json,
            v.Lacks target.restrictedFields ∧ after = doc.setPath clause.path v) docs next) ∧
      ∀ path relation target, c.relation? path = some relation →
        service.registry.get? relation.collection = some target →
        (Plan.wantsScore plan.request = true → "score" ∈ plan.query.populate.map (·.path) →
          Path.covers "score" path = true → "score" = path) →
        List.Forall₂ (fun row doc => ∀ v, row.doc.getPath? path = some v → v.isReferable = true →
          ∀ shown, doc.getPath? path = some shown → shown.Lacks target.restrictedFields)
          rows response.data := by
  intro plan
  obtain ⟨rows, originals, -⟩ :=
    MemoryStore.exists_originals (Service.find_of_execute resolved answered)
  refine ⟨rows, originals, fun clause mem => ?_, fun path relation target related registered scored => ?_⟩
  · obtain ⟨_, target, -, -, registered, conceals⟩ := Plan.exists_target_of_mem foreign targets mem
    exact ⟨target, registered, fun docs next applied =>
      PopulateClause.forall₂_lacks_of_apply conceals applied⟩
  · have conceals : ∀ clause ∈ plan.query.populate, path = clause.path →
        clause.Conceals target.restrictedFields := by
      rintro clause mem rfl
      -- the path of a clause decides its relation, and that its target
      obtain ⟨relation', target', related', source, registered', conceals⟩ :=
        Plan.exists_target_of_mem foreign targets mem
      obtain rfl := Option.some.inj (related.symm.trans related')
      rw [source] at registered
      obtain rfl := Option.some.inj (registered.symm.trans registered')
      exact conceals
    have run := sealed_of_populate (fun clause mem => (Plan.keyApart_of_mem mem).1)
      (fun clause mem => (Plan.keyApart_of_mem mem).2) (fun clause => List.mem_map_of_mem) conceals
      originals.shown
    rw [List.forall₂_map_left_iff] at run
    refine run.imp fun row doc closes v stored referable => (closes ?_).lacks
    refine sealed_projected stored referable fun field isScore => ?_
    obtain ⟨wanted, rfl⟩ := Plan.scoreField_projectionOf isScore
    exact ⟨by decide, scored wanted⟩

/-! ### A reference by a restricted field -/

/-- Users whose mail address is restricted. -/
def subscribers : Collection := { Collection.named "users" with restrictedFields := ["email"] }

/-- Letters that refer to their authors by mail address. -/
def letters : Collection :=
  { Collection.named "letters" with relations := [("author", ⟨"users", "email"⟩)] }

/-- One user and one letter. -/
def letterStore : MemoryStore :=
  ⟨[("users", [[("_id", .string "u1"), ("email", .string "ada@b.c"), ("name", .string "Ada")]]),
    ("letters", [[("_id", .string "l1"), ("author", .string "ada@b.c")]])], 0⟩

/-- A client that asks for the address gets the author without it, although the reference is matched
by the address. -/
theorem expansions_lack_restricted_fields_email :
    let service : Service := ⟨⟨[("users", subscribers)]⟩, .standard⟩
    let request : Request := { Request.empty with expand := some (.text "author(name,email)") }
    ∃ (response : Response) (doc author : Document),
      service.execute letterStore.records (.definition letters) request = .ok response ∧
      response.data = [doc] ∧ doc.getPath? "author" = some (.object author) ∧
      "name" ∈ author.keys ∧ "email" ∉ author.keys := by
  intro service request
  obtain ⟨response, answered⟩ := Except.exists_eq_ok_of_isOk
    (x := service.execute letterStore.records (.definition letters) request) (by decide +kernel)
  have names : subscribers.RestrictsNames :=
    ⟨by decide, by decide, by decide, by decide⟩
  obtain ⟨rows, originals, -, lacks⟩ := expansions_lack_restricted_fields (c := letters) rfl
    (by decide) (by
      rw [letters, List.forall_mem_singleton]
      intro target registered
      obtain rfl : subscribers = target := Option.some.inj registered
      exact names) answered
  -- what stands in place of the reference, as far as its keys tell
  have seen : (service.execute letterStore.records (.definition letters) request).toOption.map
      (fun response => response.data.map fun doc =>
        ((doc.getPath? "author").bind Json.object?).map Document.keys) =
      some [some ["_id", "name"]] := by decide +kernel
  rw [answered] at seen
  have seen := Option.some.inj seen
  obtain ⟨doc, single, here⟩ := List.map_eq_singleton_iff.mp seen
  obtain ⟨author, isAuthor, keys⟩ := Option.map_eq_some_iff.mp here
  obtain ⟨value, found, isObject⟩ := Option.bind_eq_some_iff.mp isAuthor
  obtain rfl : value = .object author := by
    cases value with
    | object members => exact congrArg Json.object (Option.some.inj isObject)
    | _ => cases isObject
  have each := lacks "author" ⟨"users", "email"⟩ subscribers rfl rfl fun _ _ covers =>
    absurd covers (by decide)
  rw [single] at each
  obtain ⟨row, rest, hidden, -, rfl⟩ := List.forall₂_cons_right_iff.mp each
  have stored : row.doc = [("_id", .string "l1"), ("author", .string "ada@b.c")] :=
    List.mem_singleton.mp (originals.stored row List.mem_cons_self)
  rw [stored] at hidden
  refine ⟨response, doc, author, answered, single, found, ?_, ?_⟩
  · rw [keys]
    decide
  · have lacking := hidden (.string "ada@b.c") rfl rfl _ found
    exact Json.lacks_object.mp lacking "email" List.mem_cons_self

end DocQuery
