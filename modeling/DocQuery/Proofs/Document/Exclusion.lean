import DocQuery.Proofs.Document.Inclusion

/-!
# What an exclusion leaves

An exclusion removes its listed places one after the other.  A later removal brings nothing back, so
at a listed place a filter reaches nothing, also through the lists on the way, and what lies apart
from all listed places is what the record has there.

Keeping a path in drops the path from the list, and only the path itself.  A listed place above it
still takes the path away, and one below it takes something out of its value.  So a path that is kept
in is there in every record if nothing else is listed on its way or below it, and only then.

## Main definitions

* `Path.Apart`: places that do not overlap
* `Document.lookup_keep_exclude`, `Document.lookup_keep_exclude_of_apart`,
  `Document.getPath?_keep_exclude_of_apart`: a whole exclusion
* `Document.getPath?_keep_exclude_eq_iff`: which paths an exclusion leaves alone
* `Document.project_exclude`
* `Document.getPath?_project_ensureIncluded_iff`: which paths are kept in
-/

namespace DocQuery

/-- Neither of two paths names the place of the other or a place above it. -/
def Path.Apart (p q : String) : Prop := covers p q = false ∧ covers q p = false

instance (p q : String) : Decidable (Path.Apart p q) :=
  inferInstanceAs (Decidable (_ ∧ _))

theorem Path.apart_iff {p q : String} :
    Apart p q ↔ ¬segments p <+: segments q ∧ ¬segments q <+: segments p := by
  rw [Apart, ← covers_iff, ← covers_iff, Bool.not_eq_true, Bool.not_eq_true]

theorem Path.covers_self (path : String) : covers path path = true :=
  covers_iff.mpr List.prefix_rfl

namespace Document

variable {doc : Document} {path : String} {paths : List String}

/-! ### All removals of an exclusion -/

theorem keep_exclude (doc : Document) (paths : List String) :
    doc.keep (.exclude paths) = paths.foldl removePath doc := rfl

/-- At and below a listed place a filter reaches nothing. -/
theorem lookup_keep_exclude (hidden : ∃ p ∈ paths, Path.covers p path = true)
    (named : ∀ segment ∈ (Path.segments path).tail, Path.index? segment = none) :
    (doc.keep (.exclude paths)).lookup path = [] := by
  obtain ⟨p, mem, covers⟩ := hidden
  obtain ⟨before, after, rfl⟩ := List.append_of_mem mem
  rw [keep_exclude, List.foldl_append, List.foldl_cons]
  -- the removal of the place empties the reach, and the later ones bring nothing back
  refine List.foldlRecOn after removePath (motive := fun out => out.lookup path = []) ?_ ?_
  · rw [lookup_eq_reached]
    exact reached_remove_below (Path.segments_ne_nil p) (Path.covers_iff.mp covers) named
  · intro out absent q _
    rw [lookup_eq_reached] at absent ⊢
    exact reached_remove_eq_nil named absent

/-- Apart from the listed places a filter reaches what it reaches in the whole record. -/
theorem lookup_keep_exclude_of_apart (apart : ∀ p ∈ paths, Path.Apart p path)
    (named : ∀ segment ∈ (Path.segments path).tail, Path.index? segment = none) :
    (doc.keep (.exclude paths)).lookup path = doc.lookup path := by
  refine List.foldlRecOn paths removePath (motive := fun out => out.lookup path = doc.lookup path)
    rfl fun out same p mem => ?_
  obtain ⟨notBelow, notAbove⟩ := Path.apart_iff.mp (apart p mem)
  rw [← same, lookup_eq_reached, lookup_eq_reached]
  exact reached_remove_of_apart notBelow notAbove named

/-- Apart from the listed places a path has the value that it has in the whole record. -/
theorem getPath?_keep_exclude_of_apart (apart : ∀ p ∈ paths, Path.Apart p path) :
    (doc.keep (.exclude paths)).getPath? path = doc.getPath? path := by
  refine List.foldlRecOn paths removePath
    (motive := fun out => out.getPath? path = doc.getPath? path) rfl fun out same p mem => ?_
  obtain ⟨notBelow, notAbove⟩ := Path.apart_iff.mp (apart p mem)
  exact (descend?_remove_of_apart notBelow notAbove).trans same

/-- **An exclusion removes the listed places and nothing else.**  At a listed place a filter reaches
nothing, whatever lists are on the way, unless the path picks out elements of a list by a numeral.
Every path apart from the listed ones has the value that it has in the record, and a filter reaches
the same values there. -/
theorem project_exclude (doc : Document) (paths : List String) (score : Option Binary64) :
    let out := doc.project ⟨.exclude paths, none⟩ score
    (∀ listed ∈ paths, (∀ segment ∈ (Path.segments listed).tail, Path.index? segment = none) →
        out.lookup listed = []) ∧
      ∀ path, (∀ listed ∈ paths, Path.covers listed path = false ∧ Path.covers path listed = false) →
        out.getPath? path = doc.getPath? path ∧
          ((∀ segment ∈ (Path.segments path).tail, Path.index? segment = none) →
            out.lookup path = doc.lookup path) := by
  intro out
  constructor
  · intro listed mem named
    exact lookup_keep_exclude ⟨listed, mem, Path.covers_self listed⟩ named
  · intro path apart
    exact ⟨getPath?_keep_exclude_of_apart apart, lookup_keep_exclude_of_apart apart⟩

/-- Fields of records in a list in a list's records, and a place inside a removed one: a sibling on
the way through the lists stays. -/
theorem project_exclude_orders :
    let line (sku : String) : Json := .object [("sku", .string sku), ("cost", .number (.ofNat 3))]
    let doc : Document := [("_id", .string "o1"), ("note", .object [("by", .string "Ada")]),
      ("parts", .array [.object [("lines", .array [line "a", .null, line "b"])], .string "x"])]
    let paths := ["parts.lines.cost", "note", "note.by"]
    let out := doc.project ⟨.exclude paths, none⟩ none
    doc.lookup "parts.lines.cost" = [.number (.ofNat 3), .number (.ofNat 3)] ∧
      (∀ listed ∈ paths, out.lookup listed = []) ∧
      out.getPath? "_id" = some (.string "o1") ∧
      out.lookup "parts.lines.sku" = [.string "a", .string "b"] := by
  intro line doc paths out
  obtain ⟨gone, kept⟩ := project_exclude doc paths none
  have named : ∀ listed ∈ paths, ∀ segment ∈ (Path.segments listed).tail,
      Path.index? segment = none := by decide +kernel
  refine ⟨rfl, fun listed mem => gone listed mem (named listed mem), ?_, ?_⟩
  · exact (kept "_id" (by decide +kernel)).1
  · exact (kept "parts.lines.sku" (by decide +kernel)).2 (by decide +kernel)

/-! ### Paths that are kept in -/

/-- An exclusion leaves a path alone in every record exactly if all listed places are apart from it. -/
theorem getPath?_keep_exclude_eq_iff :
    (∀ doc : Document, (doc.keep (.exclude paths)).getPath? path = doc.getPath? path) ↔
      ∀ listed ∈ paths, Path.Apart listed path := by
  refine ⟨fun survives listed mem => ?_, fun apart doc => getPath?_keep_exclude_of_apart apart⟩
  have gone : ∀ doc : Document, (doc.keep (.exclude paths)).getPath? listed = none := fun doc =>
    getPath?_keep_exclude ⟨listed, mem, Path.covers_self listed⟩
  have written : ∀ place : String, (setPath [] place .null).getPath? place = some .null :=
    fun place => descend?_write_self (Path.segments_ne_nil place)
  constructor
  · -- a record with nothing but the path loses it to a place above
    rw [Bool.eq_false_iff]
    intro above
    have none := @getPath?_keep_exclude (setPath [] path .null) path _ ⟨listed, mem, above⟩
    rw [survives, written] at none
    cases none
  · -- a record with nothing but the listed place loses it, and the path keeps what it holds
    rw [Bool.eq_false_iff]
    intro below
    have same := getPath?_congr_of_covers (survives (setPath [] listed .null)) below
    rw [gone, written] at same
    cases same

/-- **A path that is kept in** has in every record's projection the value that it has in the record,
unless the projection excludes another place above or below it; and only then. -/
theorem getPath?_project_ensureIncluded_iff (fields : Projection.Fields) (path : String)
    (score : Option Binary64) :
    (∀ doc : Document,
        (doc.project (Projection.ensureIncluded ⟨fields, none⟩ path) score).getPath? path =
          doc.getPath? path) ↔
      ∀ paths, fields = .exclude paths → ∀ listed ∈ paths, listed ≠ path →
        Path.covers listed path = false ∧ Path.covers path listed = false := by
  have noScore : (Projection.ensureIncluded ⟨fields, none⟩ path).scoreField = none :=
    Projection.scoreField_ensureIncluded ⟨fields, none⟩ path
  simp only [project_of_noScore noScore]
  cases fields with
  | all => exact iff_of_true (fun doc => rfl) (fun paths isExclude => nomatch isExclude)
  | «include» paths =>
      refine iff_of_true (fun doc => ?_) (fun paths isExclude => nomatch isExclude)
      unfold Projection.ensureIncluded
      dsimp only
      split
      · next listed => exact getPath?_keep_include_of_mem (List.contains_iff_mem.mp listed)
      · exact getPath?_keep_include_of_mem (List.mem_append_right _ List.mem_cons_self)
  | exclude paths =>
      refine getPath?_keep_exclude_eq_iff.trans ⟨?_, ?_⟩
      · rintro apart _ ⟨⟩ listed mem differ
        exact apart listed (List.mem_filter.mpr ⟨mem, by simpa using differ⟩)
      · intro apart listed mem
        obtain ⟨inPaths, differ⟩ := List.mem_filter.mp mem
        exact apart paths rfl listed inPaths (by simpa using differ)

/-- An exclusion of the object that holds a path still hides the path. -/
example :
    let doc : Document := [("meta", .object [("owner", .string "u1")])]
    let p : Projection := ⟨.exclude ["meta"], none⟩
    doc.getPath? "meta.owner" = some (.string "u1") ∧
      (doc.project (p.ensureIncluded "meta.owner") none).getPath? "meta.owner" = none :=
  ⟨rfl, rfl⟩

end Document

end DocQuery
