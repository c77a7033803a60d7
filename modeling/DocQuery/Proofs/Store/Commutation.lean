import DocQuery.Proofs.Document.Exclusion
import DocQuery.Proofs.Store.Population

/-!
# Expansions in any order

Clauses run one after the other, each over the records that the one before has rewritten.  A clause
reads its references at its own place and writes there, and only where a value stands already.  So
two clauses whose places do not overlap find the same references in either order, load the same
records, and leave the same documents with their keys in the same order.

That a value stands at the place is what keeps the order of the keys: two writes that both bring a
new key do not commute.

## Main definitions

* `Document.write_comm`, `Document.updatePath_comm`: changes at places apart from each other
* `PopulateClause.rewriting`: what a clause does to every record of a batch
* `PopulateClause.apply_comm`: two clauses
* `populate_perm`, `populate_comm`
-/

namespace DocQuery

/-! ### Changes at places apart from each other -/

namespace Document

variable {doc : Document} {s t : String} {v w : Json} {place other : List String}

/-- Writes at two keys commute if one of them is present; two new keys come in the order in which
they are written. -/
theorem insert_comm (differ : s ≠ t) (present : s ∈ doc.keys) (v w : Json) :
    (doc.insert s v).insert t w = (doc.insert t w).insert s v := by
  induction doc with
  | nil => cases present
  | cons member rest ih =>
      obtain ⟨k, old⟩ := member
      by_cases first : k = s
      · subst first
        simp [insert, differ]
      · have later : s ∈ keys rest := (List.mem_cons.mp present).resolve_left (Ne.symm first)
        by_cases second : k = t
        · subst second
          simp [insert, first]
        · simp [insert, first, second, ih later]

theorem childAt_insert_of_ne (differ : t ≠ s) (v : Json) :
    (doc.insert s v).childAt t = doc.childAt t := by
  rw [childAt, childAt, get?_insert_of_ne doc v differ]

/-- Writes at two places with values commute, if the places do not overlap. -/
theorem write_comm (notBelow : ¬place <+: other) (notAbove : ¬other <+: place)
    (here : doc.descend? place = some v) (there : doc.descend? other = some w) (x y : Json) :
    (doc.write place x).write other y = (doc.write other y).write place x := by
  induction place generalizing doc other with
  | nil => exact absurd List.nil_prefix notBelow
  | cons s place ih =>
      cases other with
      | nil => exact absurd List.nil_prefix notAbove
      | cons t other =>
          rw [List.cons_prefix_cons] at notBelow notAbove
          by_cases same : s = t
          · -- both writes go on inside the object at the same key
            subst same
            have notBelow : ¬place <+: other := fun h => notBelow ⟨rfl, h⟩
            have notAbove : ¬other <+: place := fun h => notAbove ⟨rfl, h⟩
            have more : place ≠ [] := fun h => notBelow (h ▸ List.nil_prefix)
            have more' : other ≠ [] := fun h => notAbove (h ▸ List.nil_prefix)
            rw [descend?_cons more, ← descend?_childAt] at here
            rw [descend?_cons more', ← descend?_childAt] at there
            rw [write_cons more, write_cons more', write_cons more', write_cons more,
              childAt_of_object (get?_insert_self _ _ _), childAt_of_object (get?_insert_self _ _ _),
              insert_insert_self, insert_insert_self, ih notBelow notAbove here there]
          · -- the places part here, so each write leaves the other's object alone
            rw [write_eq_insert doc s, write_eq_insert doc t, write_eq_insert _ t,
              write_eq_insert _ s, childAt_insert_of_ne (Ne.symm same), childAt_insert_of_ne same]
            exact insert_comm same (mem_keys_of_descend? here) _ _

variable {p q : String} {f g : Json → Json}

theorem getPath?_updatePath_of_apart (apart : Path.Apart p q) :
    (doc.updatePath p f).getPath? q = doc.getPath? q := by
  obtain ⟨notBelow, notAbove⟩ := Path.apart_iff.mp apart
  rw [updatePath]
  split
  · exact descend?_write_of_apart notBelow notAbove
  · rfl

/-- Changes at places that do not overlap commute. -/
theorem updatePath_comm (apart : Path.Apart p q) :
    (doc.updatePath p f).updatePath q g = (doc.updatePath q g).updatePath p f := by
  obtain ⟨notBelow, notAbove⟩ := Path.apart_iff.mp apart
  have back : (doc.updatePath q g).getPath? p = doc.getPath? p :=
    getPath?_updatePath_of_apart ⟨apart.2, apart.1⟩
  have onwards : (doc.updatePath p f).getPath? q = doc.getPath? q :=
    getPath?_updatePath_of_apart apart
  cases here : doc.getPath? p with
  | none => rw [updatePath_of_none here, updatePath_of_none (back.trans here)]
  | some v =>
      cases there : doc.getPath? q with
      | none => rw [updatePath_of_none there, updatePath_of_none (onwards.trans there)]
      | some w =>
          rw [updatePath_of_some (onwards.trans there), updatePath_of_some (back.trans here),
            updatePath_of_some here, updatePath_of_some there]
          exact write_comm notBelow notAbove here there _ _

theorem referencesAt_updatePath_of_apart (apart : Path.Apart p q) :
    (doc.updatePath p f).referencesAt q = doc.referencesAt q := by
  rw [referencesAt, referencesAt, getPath?_updatePath_of_apart apart]

end Document

/-! ### Two clauses -/

namespace PopulateClause

variable {find : Lookup} {first second : PopulateClause} {docs data : List Document}

/-- What a clause does to the value at its place in every record of a batch that has the given
references. -/
def rewriting (clause : PopulateClause) (find : Lookup) (references : List Json) :
    Except StoreError (Json → Json) :=
  if references.isEmpty then .ok id
  else (find clause.source (clause.query references)).map fun children =>
    Json.resolve fun r => (clause.index children).lookup r.text

theorem apply_eq_map (clause : PopulateClause) (find : Lookup) (docs : List Document) :
    clause.apply find docs = (clause.rewriting find (clause.references docs)).map
      fun change => docs.map (Document.updatePath · clause.path change) := by
  rw [apply, rewriting]
  split
  · have same : ∀ doc : Document, doc.updatePath clause.path id = doc :=
      fun doc => Document.updatePath_eq_self fun _ _ => rfl
    simp only [Except.map, same, List.map_id']
  · cases find clause.source (clause.query (clause.references docs)) with
    | error e => rfl
    | ok children =>
        refine congrArg Except.ok (List.map_congr_left fun doc _ => ?_)
        exact replace_eq_updatePath _ doc

/-- A change at another place leaves a clause its references. -/
theorem references_map_updatePath (clause : PopulateClause) {place : String}
    (apart : Path.Apart place clause.path) (change : Json → Json) (docs : List Document) :
    clause.references (docs.map (Document.updatePath · place change)) = clause.references docs := by
  rw [references, references, List.flatMap_map]
  refine congrArg distinctByText (List.flatMap_congr fun doc _ => ?_)
  exact Document.referencesAt_updatePath_of_apart apart

/-- The second of two clauses apart does what it would do first. -/
theorem apply_bind_apply (apart : Path.Apart first.path second.path) :
    (first.apply find docs >>= second.apply find) =
      (do
        let change ← first.rewriting find (first.references docs)
        let change' ← second.rewriting find (second.references docs)
        .ok (docs.map fun doc =>
          (doc.updatePath first.path change).updatePath second.path change')) := by
  rw [apply_eq_map]
  cases first.rewriting find (first.references docs) with
  | error e => rfl
  | ok change =>
      show second.apply find (docs.map (Document.updatePath · first.path change)) = _
      rw [apply_eq_map, references_map_updatePath second apart]
      cases second.rewriting find (second.references docs) with
      | error e => rfl
      | ok change' => exact congrArg Except.ok List.map_map

/-- Two clauses at places that do not overlap succeed in one order with what they succeed with in
the other. -/
theorem apply_comm (apart : Path.Apart first.path second.path)
    (applied : (first.apply find docs >>= second.apply find) = .ok data) :
    (second.apply find docs >>= first.apply find) = .ok data := by
  rw [apply_bind_apply apart] at applied
  obtain ⟨change, changed, rest⟩ := Except.bind_eq_ok_iff.mp applied
  obtain ⟨change', changed', rest⟩ := Except.bind_eq_ok_iff.mp rest
  rw [apply_bind_apply ⟨apart.2, apart.1⟩, changed, changed', ← Except.ok.inj rest]
  refine congrArg Except.ok (List.map_congr_left fun doc _ => ?_)
  exact Document.updatePath_comm ⟨apart.2, apart.1⟩

end PopulateClause

/-! ### Any number of clauses -/

section Populate

variable {find : Lookup} {clauses others : List PopulateClause} {docs data : List Document}

theorem populate_cons_cons (first second : PopulateClause) (rest : List PopulateClause) :
    populate find docs (first :: second :: rest) =
      (first.apply find docs >>= second.apply find) >>= fun next => populate find next rest := by
  rw [populate]
  cases first.apply find docs <;> rfl

/-- Clauses at places apart from each other can run in any order: if they succeed in one, they
succeed in the other with the same documents. -/
theorem populate_perm (perm : clauses.Perm others)
    (apart : clauses.Pairwise fun a b => Path.Apart a.path b.path)
    (populated : populate find docs clauses = .ok data) :
    populate find docs others = .ok data := by
  induction perm generalizing docs with
  | nil => exact populated
  | cons clause _ ih =>
      obtain ⟨next, applied, rest⟩ := Except.bind_eq_ok_iff.mp populated
      exact Except.bind_eq_ok_iff.mpr ⟨next, applied, ih apart.of_cons rest⟩
  | swap first second rest =>
      rw [populate_cons_cons] at populated ⊢
      obtain ⟨next, applied, others⟩ := Except.bind_eq_ok_iff.mp populated
      have here := List.rel_of_pairwise_cons apart List.mem_cons_self
      exact Except.bind_eq_ok_iff.mpr ⟨next, PopulateClause.apply_comm here applied, others⟩
  | trans firstPerm _ ih ih' =>
      have symmetric : ∀ {a b : PopulateClause}, Path.Apart a.path b.path →
          Path.Apart b.path a.path := fun h => ⟨h.2, h.1⟩
      exact ih' (firstPerm.pairwise apart symmetric) (ih apart populated)

/-- **Independent expansions commute.**  Two clauses at places that do not overlap succeed in both
orders, with the same documents and the same order of keys, or in neither. -/
theorem populate_comm {first second : PopulateClause} (apart : Path.Apart first.path second.path)
    (docs data : List Document) :
    populate find docs [first, second] = .ok data ↔
      populate find docs [second, first] = .ok data := by
  have pair : ∀ {a b : PopulateClause}, Path.Apart a.path b.path →
      [a, b].Pairwise fun a b => Path.Apart a.path b.path := by
    intro a b h
    simpa using h
  constructor
  · exact populate_perm (.swap second first []) (pair apart)
  · exact populate_perm (.swap first second []) (pair ⟨apart.2, apart.1⟩)

end Populate

/-! ### Two clauses inside one object -/

/-- The active owner in place of its identity. -/
def metaOwner : PopulateClause := { activeAuthors with path := "meta.owner" }

/-- The active reviewers in place of their identities. -/
def metaReviewers : PopulateClause := { activeAuthors with path := "meta.reviewers" }

/-- A document with both inside one object. -/
def draftPage : List Document :=
  [[("meta", .object [("reviewers", .array [.string "u1"]), ("state", .string "draft"),
    ("owner", .string "u2")])]]

/-- The reviewer is active and the owner is not. -/
def filledPage : List Document :=
  [[("meta", .object [("reviewers", .array [.object [("name", .string "Ada")]]),
    ("state", .string "draft"), ("owner", .null)])]]

/-- An owner and reviewers inside one object are filled in either order, and the keys of that object
stay where they are. -/
theorem populate_comm_meta :
    Path.Apart metaOwner.path metaReviewers.path ∧
      populate userStore.lookup draftPage [metaOwner, metaReviewers] = .ok filledPage ∧
      populate userStore.lookup draftPage [metaReviewers, metaOwner] = .ok filledPage := by
  have apart : Path.Apart metaOwner.path metaReviewers.path := by decide
  have populated : populate userStore.lookup draftPage [metaOwner, metaReviewers] =
      .ok filledPage := rfl
  exact ⟨apart, populated, (populate_comm apart draftPage filledPage).mp populated⟩

/-- A clause inside what another one puts in place has references only after it. -/
example :
    let whole : PopulateClause := { metaOwner with projection := .all, filter := [] }
    let name : PopulateClause := { whole with path := "meta.owner.name", foreignField := "name" }
    let left (clauses : List PopulateClause) : Option Nat :=
      ((populate userStore.lookup draftPage clauses).map fun docs =>
        (name.references docs).length).toOption
    left [whole, name] = some 0 ∧ left [name, whole] = some 1 := by
  decide

end DocQuery
