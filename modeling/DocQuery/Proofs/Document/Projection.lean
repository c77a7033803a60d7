import DocQuery.Document.Projection
import DocQuery.Proofs.Document.Removal

/-!
# What a projection lets through

A listed path is copied together with everything below it, so an inclusion reaches a path if it
names the path or a place above it.  An exclusion hides a path if it names the path or a place
above it.

## Main definitions

* `Document.copyPath`: one step of an inclusion
* `Document.getPath?_keep_include`, `Document.getPath?_keep_exclude`
* `Projection.ofSelection_include`, `Projection.ofSelection_exclude`: which of the two a selection
  is
-/

namespace DocQuery

namespace Document

variable {doc : Document} {path : String} {paths : List String}

/-- Below a path there is only what is below its value. -/
theorem getPath?_of_covers (doc : Document) {above : String} (covers : Path.covers above path = true)
    (notSame : Path.covers path above = false) :
    ∃ rest, rest ≠ [] ∧ Path.segments path = Path.segments above ++ rest ∧
      doc.getPath? path = (doc.getPath? above).bind fun v => v.below? rest := by
  obtain ⟨rest, split⟩ := Path.covers_iff.mp covers
  have more : rest ≠ [] := by
    rintro rfl
    rw [List.append_nil] at split
    have same : Path.covers path above = true := Path.covers_iff.mpr (split ▸ List.prefix_rfl)
    rw [notSame] at same
    cases same
  refine ⟨rest, more, split.symm, ?_⟩
  rw [getPath?, ← split, descend?_append (Path.segments_ne_nil above) more]
  rfl

/-- Records that agree at a place agree below it. -/
theorem getPath?_congr_of_covers {out : Document} {above : String}
    (same : out.getPath? above = doc.getPath? above) (covers : Path.covers above path = true) :
    out.getPath? path = doc.getPath? path := by
  obtain ⟨rest, split⟩ := Path.covers_iff.mp covers
  rw [getPath?, getPath?] at same ⊢
  rw [← split]
  by_cases last : rest = []
  · rw [last, List.append_nil, same]
  · rw [descend?_append (Path.segments_ne_nil above) last,
      descend?_append (Path.segments_ne_nil above) last, same]

/-- Writing the record's own value at a path that is not below `path` either brings the record's
value to `path` or leaves `path` alone. -/
theorem getPath?_setPath {out : Document} {other : String} {value : Json}
    (notBelow : Path.covers path other = false) (found : doc.getPath? other = some value) :
    (out.setPath other value).getPath? path =
      if Path.covers other path then doc.getPath? path else out.getPath? path := by
  cases covers : Path.covers other path with
  | true =>
      obtain ⟨rest, more, split, below⟩ := getPath?_of_covers doc covers notBelow
      rw [if_pos rfl, below, found, Option.bind_some, getPath?, setPath, split,
        descend?_write_append (Path.segments_ne_nil other) more]
  | false =>
      rw [if_neg (by decide), getPath?, setPath]
      refine descend?_write_of_apart (fun h => ?_) fun h => ?_
      · rw [Path.covers_iff.mpr h] at covers
        cases covers
      · rw [Path.covers_iff.mpr h] at notBelow
        cases notBelow

/-- A record in the making, with what the whole record has at a path. -/
def copyPath (doc out : Document) (path : String) : Document :=
  match doc.getPath? path with
  | some value => out.setPath path value
  | none => out

theorem keep_include (doc : Document) (paths : List String) :
    doc.keep (.include paths) = paths.foldl doc.copyPath [] := rfl

/-- Copying at a path that is not below `path` reaches `path` if it is at or below the copied
one. -/
theorem getPath?_copyPath {out : Document} {other : String} {reached : Bool}
    (notBelow : Path.covers path other = false)
    (before : out.getPath? path = if reached then doc.getPath? path else none) :
    (doc.copyPath out other).getPath? path =
      if reached || Path.covers other path then doc.getPath? path else none := by
  unfold copyPath
  cases found : doc.getPath? other with
  | some value =>
      dsimp only
      rw [getPath?_setPath notBelow found, before]
      cases Path.covers other path <;> simp
  | none =>
      dsimp only
      rw [before]
      cases covers : Path.covers other path with
      | false => rw [Bool.or_false]
      | true =>
          -- nothing is copied, but the whole record has nothing at `path` either
          obtain ⟨_, -, -, below⟩ := getPath?_of_covers doc covers notBelow
          rw [found, Option.bind_none] at below
          simp [below]

/-- **What an inclusion reaches.**  A path that is not above a listed one has its value in the
result if a listed path names it or a place above it, and no value otherwise. -/
theorem getPath?_keep_include (notAbove : ∀ p ∈ paths, Path.covers path p = false) :
    (doc.keep (.include paths)).getPath? path =
      if paths.any (Path.covers · path) then doc.getPath? path else none := by
  suffices general : ∀ (out : Document) (reached : Bool),
      out.getPath? path = (if reached then doc.getPath? path else none) →
      (paths.foldl doc.copyPath out).getPath? path =
        if reached || paths.any (Path.covers · path) then doc.getPath? path else none by
    rw [keep_include]
    exact general [] false (getPath?_nil path)
  induction paths with
  | nil =>
      intro out reached before
      rw [List.foldl_nil, List.any_nil, Bool.or_false, before]
  | cons p rest ih =>
      intro out reached before
      rw [List.foldl_cons, List.any_cons, ← Bool.or_assoc]
      exact ih (fun q mem => notAbove q (List.mem_cons_of_mem _ mem)) _ _
        (getPath?_copyPath (notAbove p List.mem_cons_self) before)

/-- **What an exclusion hides.** -/
theorem getPath?_keep_exclude (hidden : ∃ p ∈ paths, Path.covers p path = true) :
    (doc.keep (.exclude paths)).getPath? path = none := by
  have later : ∀ (paths : List String) (out : Document), out.getPath? path = none →
      (paths.foldl removePath out).getPath? path = none := by
    intro paths
    induction paths with
    | nil => exact fun out absent => absent
    | cons p rest ih => exact fun out absent => ih _ (descend?_remove_eq_none absent)
  obtain ⟨p, mem, covers⟩ := hidden
  obtain ⟨before, after, rfl⟩ := List.append_of_mem mem
  rw [keep, List.foldl_append, List.foldl_cons]
  exact later after _
    (descend?_remove_below (Path.segments_ne_nil p) (Path.covers_iff.mp covers))

/-- Without a field for the relevance a projection is what it keeps. -/
theorem project_of_noScore {p : Projection} (noScore : p.scoreField = none)
    (score : Option Binary64) : doc.project p score = doc.keep p.fields := by
  rw [project, noScore]

end Document

namespace Projection

theorem scoreField_ensureIncluded (p : Projection) (path : String) :
    (p.ensureIncluded path).scoreField = p.scoreField := by
  unfold ensureIncluded
  cases p.fields with
  | «include» paths => dsimp only; split <;> rfl
  | _ => rfl

variable {entries : List String}

/-- With an inclusion among its entries a selection lists inclusions, and perhaps the identity. -/
theorem ofSelection_include (idField : String) (inclusion : ∃ e ∈ entries, isExclusion e = false) :
    ∃ paths, ofSelection entries idField = ⟨.include paths, none⟩ ∧
      (∀ e ∈ entries, isExclusion e = false → e ∈ paths) ∧
      ∀ p ∈ paths, p = idField ∨ p ∈ entries ∧ isExclusion p = false := by
  obtain ⟨e, mem, plain⟩ := inclusion
  have nonempty : (entries.filter fun e => !isExclusion e).isEmpty = false := by
    rw [List.isEmpty_eq_false_iff]
    exact List.ne_nil_of_mem (List.mem_filter.mpr ⟨mem, by simp [plain]⟩)
  unfold ofSelection
  dsimp only
  rw [nonempty]
  split
  · split
    · exact ⟨_, rfl, by simp +contextual, by simp +contextual⟩
    · exact ⟨_, rfl, by simp +contextual, by simp +contextual⟩
  · contradiction

/-- Without an inclusion a selection hides every path that an exclusion names. -/
theorem ofSelection_exclude (idField : String) (none : ∀ e ∈ entries, isExclusion e = true)
    (some : ∃ e ∈ entries, excludedPath e ≠ "") :
    ∃ paths, ofSelection entries idField = ⟨.exclude paths, Option.none⟩ ∧
      ∀ e ∈ entries, excludedPath e ≠ "" → excludedPath e ∈ paths := by
  have empty : (entries.filter fun e => !isExclusion e).isEmpty = true := by
    simpa using none
  have listed : ∀ e ∈ entries, excludedPath e ≠ "" →
      excludedPath e ∈ ((entries.filter isExclusion).map excludedPath).filter fun p => !p.isEmpty := by
    intro e mem nonempty
    refine List.mem_filter.mpr ⟨List.mem_map_of_mem (List.mem_filter.mpr ⟨mem, none e mem⟩), ?_⟩
    simpa using nonempty
  obtain ⟨e, mem, nonempty⟩ := some
  have some := List.isEmpty_eq_false_iff.mpr (List.ne_nil_of_mem (listed e mem nonempty))
  refine ⟨_, ?_, listed⟩
  unfold ofSelection
  dsimp only
  rw [empty, some]
  rfl

end Projection

end DocQuery
