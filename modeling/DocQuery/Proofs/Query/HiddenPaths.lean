import DocQuery.Proofs.Query.Selection
import DocQuery.Proofs.Store.Answer

/-!
# Restricted paths in returned records

The selection of a request is rewritten so that restricted fields stay hidden, by leaving out
every inclusion of a restricted path or of a place below one.  An inclusion of a place above a
restricted path is not left out, and it brings the whole value at that place.  So what a returned
record has at a restricted path is known exactly: its original's value if the selection includes a
place above the path, and nothing otherwise.

## Main definitions

* `Selection.reaches`: whether a selection includes a path or a place above it
* `getPath?_restricted_of_execute`
-/

namespace DocQuery

/-- Whether a selection includes a path or a place above it. -/
def Selection.reaches (entries : List String) (path : String) : Bool :=
  entries.any fun e => !Projection.isExclusion e && Path.covers e path

/-- What a rewritten selection keeps of a record at a restricted path. -/
theorem getPath?_keep_restrict {entries restricted : List String} {idField field : String}
    (listed : field ∈ restricted) (nonempty : field ≠ "")
    (plain : Projection.isExclusion field = false)
    (idApart : Path.covers field idField = false ∧ Path.covers idField field = false)
    (doc : Document) :
    (doc.keep (Projection.ofSelection (Selection.restrict entries restricted) idField).fields).getPath?
        field =
      if Selection.reaches (Selection.restrict entries restricted) field then doc.getPath? field
      else none := by
  by_cases inclusion : ∃ e ∈ Selection.restrict entries restricted, Projection.isExclusion e = false
  · obtain ⟨paths, isInclude, complete, sound⟩ :=
      Projection.ofSelection_include idField inclusion
    -- the rewrite has taken out every inclusion at or below the field
    have notAbove : ∀ p ∈ paths, Path.covers field p = false := by
      intro p mem
      rcases sound p mem with rfl | ⟨inSelection, isPlain⟩
      · exact idApart.1
      · exact isRestricted_eq_false_iff.mp (Selection.of_mem_restrict inSelection isPlain).2 field
          listed
    have reached : paths.any (Path.covers · field) =
        Selection.reaches (Selection.restrict entries restricted) field := by
      rw [Bool.eq_iff_iff, Selection.reaches, List.any_eq_true, List.any_eq_true]
      constructor
      · rintro ⟨p, mem, covers⟩
        rcases sound p mem with rfl | ⟨inSelection, isPlain⟩
        · rw [idApart.2] at covers
          cases covers
        · exact ⟨p, inSelection, by simp [isPlain, covers]⟩
      · rintro ⟨e, inSelection, test⟩
        obtain ⟨isPlain, covers⟩ : Projection.isExclusion e = false ∧ Path.covers e field = true := by
          simpa using test
        exact ⟨e, complete e inSelection isPlain, covers⟩
    rw [isInclude, Document.getPath?_keep_include notAbove, reached]
  · have none : ∀ e ∈ Selection.restrict entries restricted, Projection.isExclusion e = true := by
      simpa using inclusion
    -- no inclusion is left, so the rewrite has added an exclusion of the field itself
    have excluded := Selection.exclusion_mem_restrict none listed
    have named := Selection.excludedPath_dash plain
    obtain ⟨paths, isExclude, complete⟩ := Projection.ofSelection_exclude idField none
      ⟨_, excluded, named.symm ▸ nonempty⟩
    have mem := complete _ excluded (named.symm ▸ nonempty)
    rw [named] at mem
    have unreached : Selection.reaches (Selection.restrict entries restricted) field = false := by
      rw [Selection.reaches, List.any_eq_false]
      intro e mem
      simp [none e mem]
    rw [isExclude, unreached]
    exact Document.getPath?_keep_exclude
      ⟨field, mem, Path.covers_iff.mpr List.prefix_rfl⟩

/-! ### Plans without expansions and without relevance -/

section Plan

variable {registry : Registry} {c : Collection} {request : NormalRequest}

theorem Plan.populate_ofNormal [PatternReader] (noExpansions : request.expansions = []) :
    (Plan.ofNormal registry c request).query.populate = [] := by
  rw [ofNormal, populateOf, noExpansions]
  rfl

theorem Plan.projection_ofNormal [PatternReader] (noExpansions : request.expansions = [])
    (noScore : Plan.wantsScore request = false) :
    (Plan.ofNormal registry c request).query.projection =
      Projection.ofSelection (Selection.restrict request.fields request.restrictedFields)
        c.idField := by
  rw [ofNormal, noExpansions]
  dsimp only
  rw [projectionOf, if_neg (by rw [wantsScore] at noScore ⊢; simp [noScore])]
  rfl

theorem Projection.scoreField_ofSelection (entries : List String) (idField : String) :
    (Projection.ofSelection entries idField).scoreField = none := rfl

theorem MemoryStore.projected_plain {p : Projection} (noScore : p.scoreField = none) (row : Row) :
    MemoryStore.projected p row = row.doc.keep p.fields := by
  rw [projected, Document.project, noScore]

end Plan

/-- **What a returned record has at a restricted path**: the value of its original if the
rewritten selection includes a place above the path, and nothing otherwise.  The request may come
from a client or from the service itself. -/
theorem getPath?_restricted_of_execute [PatternReader] {service : Service} {store : MemoryStore}
    {ref : CollectionRef} {c : Collection} {request : Request} {response : Response}
    (resolved : service.registry.resolve ref = .ok c)
    (names : ∀ field ∈ c.restrictedFields, field ≠ "" ∧ Projection.isExclusion field = false)
    (idHidden : isRestricted c.restrictedFields c.idField = false)
    (idAbove : ∀ field ∈ c.restrictedFields, Path.covers c.idField field = false)
    (noExpansions : (request.normalize c service.settings).expansions = [])
    (noScore : Plan.wantsScore (request.normalize c service.settings) = false)
    (answered : service.execute store.records ref request = .ok response) :
    let normal := request.normalize c service.settings
    let selection := Selection.restrict normal.fields normal.restrictedFields
    ∃ rows, store.Originals c (service.planOf c request).query rows response.data ∧
      List.Forall₂ (fun row doc => ∀ field ∈ c.restrictedFields,
        doc.getPath? field =
          if Selection.reaches selection field then row.doc.getPath? field else none)
        rows response.data := by
  intro normal selection
  obtain ⟨rows, originals, -⟩ :=
    MemoryStore.exists_originals (Service.find_of_execute resolved answered)
  have shown := originals.shown
  rw [Service.planOf, Plan.populate_ofNormal noExpansions] at shown
  rw [Plan.projection_ofNormal noExpansions noScore] at shown
  have data := (Except.ok.inj shown).symm
  refine ⟨rows, originals, ?_⟩
  rw [data, List.forall₂_map_right_iff]
  refine List.forall₂_same.mpr fun row _ field listed => ?_
  have listed' : field ∈ normal.restrictedFields :=
    Request.mem_unionFields.mpr (.inl (Request.mem_unionFields.mpr (.inr listed)))
  rw [MemoryStore.projected_plain (Projection.scoreField_ofSelection _ _)]
  exact getPath?_keep_restrict listed' (names field listed).1 (names field listed).2
    ⟨isRestricted_eq_false_iff.mp idHidden field listed, idAbove field listed⟩ row.doc

/-! ### A restricted path below an included one -/

/-- A collection with one restricted path inside an object. -/
def vault : Collection := { Collection.named "vault" with restrictedFields := ["secrets.key"] }

/-- A record with a value at the restricted path. -/
def vaultRecord : Document :=
  [("_id", .string "a"), ("secrets", .object [("key", .string "k"), ("note", .string "n")])]

/-- A client that selects the object gets the restricted value inside it. -/
theorem getPath?_restricted_of_execute_vault :
    let store : MemoryStore := ⟨[("vault", [vaultRecord])], 0⟩
    let request := Request.enforceRestrictions
      { Request.empty with fields := some (.text "secrets") } vault
    ∃ response doc, Service.bare.execute store.records (.definition vault) request = .ok response ∧
      response.data = [doc] ∧ doc.getPath? "secrets.key" = some (.string "k") := by
  intro store request
  obtain ⟨response, answered⟩ := Except.exists_eq_ok_of_isOk
    (x := Service.bare.execute store.records (.definition vault) request) (by decide +kernel)
  obtain ⟨rows, originals, each⟩ :=
    getPath?_restricted_of_execute (c := vault) rfl (by decide +kernel) (by decide +kernel)
      (by decide +kernel) rfl rfl answered
  have one : (Service.bare.execute store.records (.definition vault) request).toOption.map
      (·.data.length) = some 1 := by decide +kernel
  rw [answered] at one
  obtain ⟨doc, single⟩ := List.length_eq_one_iff.mp (Option.some.inj one)
  rw [single] at each
  obtain ⟨row, rest, known, -, rfl⟩ := List.forall₂_cons_right_iff.mp each
  have stored : row.doc = vaultRecord :=
    List.mem_singleton.mp (originals.stored row List.mem_cons_self)
  have reached :
      Selection.reaches (Selection.restrict (request.normalize vault Service.bare.settings).fields
        (request.normalize vault Service.bare.settings).restrictedFields) "secrets.key" = true := by
    decide +kernel
  refine ⟨response, doc, answered, single, ?_⟩
  rw [known "secrets.key" List.mem_cons_self, reached, if_pos rfl, stored]
  rfl

end DocQuery
