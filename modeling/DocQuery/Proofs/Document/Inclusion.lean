import DocQuery.Proofs.Document.Place

/-!
# What an inclusion shows

An inclusion copies its listed places one after the other into a record in the making, and the
places may overlap: `a`, `a.b` and `a.b.c` in any order.  Whatever the order is, a copy overwrites
nothing but what has come from the same place, since all copies are made of one record.  So every
step keeps two things: a listed place that has been copied has its value, and whatever else there is
to see is either the record's own value at or below a listed place or an object on the way to one.

## Main definitions

* `Document.Shown`, `Document.ShowsOnly`: what there may be to see
* `Document.ShowsOnly.copyPath`, `Document.showsOnly_keep_include`: a step, and a whole inclusion
* `Document.getPath?_project_include`
-/

namespace DocQuery

namespace Document

variable {doc out : Document} {listed : List String} {path other : String} {value : Json}

/-! ### A listed place -/

/-- Copying from the whole record leaves a place alone that has what the whole record has there. -/
theorem getPath?_copyPath_of_agree {path other : String} (agree : out.getPath? path = doc.getPath? path) :
    (doc.copyPath out other).getPath? path = doc.getPath? path := by
  unfold copyPath
  cases found : doc.getPath? other with
  | none => exact agree
  | some value =>
      dsimp only
      cases below : Path.covers path other with
      | false =>
          rw [getPath?_setPath below found]
          split
          · rfl
          · exact agree
      | true =>
          obtain ⟨rest, split⟩ := Path.covers_iff.mp below
          by_cases last : rest = []
          · -- the very place is copied
            subst last
            rw [List.append_nil] at split
            rw [getPath?, getPath?, setPath, split,
              descend?_write_self (Path.segments_ne_nil other)]
            exact found.symm
          · -- what is copied below the place stands there already
            rw [getPath?, ← split, descend?_append (Path.segments_ne_nil path) last] at found
            obtain ⟨v, here, inside⟩ := Option.bind_eq_some_iff.mp found
            obtain ⟨members, rfl, deeper⟩ := Json.below?_eq_some_iff.mp inside
            have inOut : out.descend? (Path.segments path) = some (.object members) :=
              agree.trans here
            rw [getPath?, getPath?, setPath, ← split, write_append last inOut,
              descend?_write_self (Path.segments_ne_nil path), write_own deeper, here]

/-- **A listed place** has its whole value in the result of an inclusion. -/
theorem getPath?_keep_include_of_mem {path : String} {paths : List String} (mem : path ∈ paths) :
    (doc.keep (.include paths)).getPath? path = doc.getPath? path := by
  have later : ∀ (paths : List String) (out : Document), out.getPath? path = doc.getPath? path →
      (paths.foldl doc.copyPath out).getPath? path = doc.getPath? path := by
    intro paths
    induction paths with
    | nil => exact fun out agree => agree
    | cons p rest ih => exact fun out agree => ih _ (getPath?_copyPath_of_agree agree)
  rw [keep_include]
  cases found : doc.getPath? path with
  | none =>
      rw [← found]
      refine later paths [] ?_
      rw [found, getPath?_nil]
  | some value =>
      obtain ⟨before, after, rfl⟩ := List.append_of_mem mem
      rw [← found, List.foldl_append, List.foldl_cons]
      refine later after _ ?_
      rw [copyPath, found]
      exact descend?_write_self (Path.segments_ne_nil path)

/-- Below a listed place there is what the record has there. -/
theorem getPath?_keep_include_of_covers {path p : String} {paths : List String} (mem : p ∈ paths)
    (covers : Path.covers p path = true) :
    (doc.keep (.include paths)).getPath? path = doc.getPath? path :=
  getPath?_congr_of_covers (getPath?_keep_include_of_mem mem) covers

/-! ### Nothing but listed places -/

/-- What an inclusion may show at a place: the record's own value, where the place is at or below a
listed one, or an object on the way to a listed place that has a value. -/
inductive Shown (doc : Document) (listed : List String) (path : String) : Json → Prop where
  | own (value : Json) (whole : doc.getPath? path = some value)
      (below : ∃ p ∈ listed, Path.covers p path = true) : Shown doc listed path value
  | onTheWay (members : Document)
      (above : ∃ p ∈ listed, path ≠ p ∧ Path.covers path p = true ∧ doc.getPath? p ≠ none) :
      Shown doc listed path (.object members)

theorem Shown.own_of_not_object (shown : Shown doc listed path value)
    (scalar : value.object? = none) :
    doc.getPath? path = some value ∧ ∃ p ∈ listed, Path.covers p path = true := by
  cases shown with
  | own _ whole below => exact ⟨whole, below⟩
  | onTheWay members above => cases scalar

/-- A record in the making that shows nothing but listed places and what leads to them. -/
def ShowsOnly (doc : Document) (listed : List String) (out : Document) : Prop :=
  ∀ path value, out.getPath? path = some value → Shown doc listed path value

theorem showsOnly_nil (doc : Document) (listed : List String) : ShowsOnly doc listed [] := by
  intro path value found
  rw [getPath?_nil] at found
  cases found

/-- Copying one more listed place shows nothing else. -/
theorem ShowsOnly.copyPath (before : ShowsOnly doc listed out) (mem : other ∈ listed) :
    ShowsOnly doc listed (doc.copyPath out other) := by
  intro path value found
  unfold Document.copyPath at found
  cases copied : doc.getPath? other with
  | none =>
      rw [copied] at found
      exact before path value found
  | some whole =>
      rw [copied] at found
      dsimp only at found
      cases above : Path.covers path other with
      | false =>
          rw [getPath?_setPath above copied] at found
          split at found
          · next below => exact .own value found ⟨other, mem, below⟩
          · exact before path value found
      | true =>
          obtain ⟨rest, split⟩ := Path.covers_iff.mp above
          rw [getPath?, setPath, ← split] at found
          by_cases last : rest = []
          · -- the place itself is copied
            subst last
            rw [List.append_nil] at found split
            obtain rfl := Path.segments_injective split
            rw [descend?_write_self (Path.segments_ne_nil path)] at found
            obtain rfl := Option.some.inj found
            exact .own whole copied ⟨path, mem, above⟩
          · -- something below the place is copied, which makes an object of it
            have differ : path ≠ other := by
              rintro rfl
              exact last (List.self_eq_append_right.mp split.symm)
            obtain ⟨members, written⟩ : ∃ members,
                (out.write (Path.segments path ++ rest) whole).descend? (Path.segments path) =
                  some (.object members) :=
              exists_object_of_write_append (Path.segments_ne_nil path) last
            rw [written] at found
            obtain rfl := Option.some.inj found
            exact .onTheWay members ⟨other, mem, differ, above, by simp [copied]⟩

/-- **Nothing else is shown**: what an inclusion has at a place comes from a listed place, or leads
to one. -/
theorem showsOnly_keep_include (doc : Document) (listed : List String) :
    ShowsOnly doc listed (doc.keep (.include listed)) := by
  rw [keep_include]
  refine List.foldlRecOn listed doc.copyPath (showsOnly_nil doc listed) ?_
  intro out before other mem
  exact before.copyPath mem

/-- Above a listed place that has a value an inclusion shows an object. -/
theorem exists_object_keep_include {path p : String} {paths : List String} (mem : p ∈ paths)
    (some : doc.getPath? p ≠ none) (covers : Path.covers path p = true) (differ : path ≠ p) :
    ∃ members, (doc.keep (.include paths)).getPath? path = .some (.object members) := by
  obtain ⟨value, found⟩ := Option.ne_none_iff_exists'.mp some
  exact exists_object_of_covers ((getPath?_keep_include_of_mem mem).trans found) covers differ

/-- A value that is no object is not shown at all, unless its place is at or below a listed one. -/
theorem getPath?_keep_include_eq_none {path : String} {paths : List String}
    (unlisted : ∀ p ∈ paths, Path.covers p path = false) (found : doc.getPath? path = some value)
    (scalar : value.object? = none) : (doc.keep (.include paths)).getPath? path = none := by
  rw [Option.eq_none_iff_forall_ne_some]
  intro v shown
  cases showsOnly_keep_include doc paths path v shown with
  | own _ _ below =>
      obtain ⟨p, mem, covers⟩ := below
      rw [unlisted p mem] at covers
      cases covers
  | onTheWay members above =>
      -- the record has nothing below a value that is no object
      obtain ⟨p, -, differ, covers, some⟩ := above
      obtain ⟨w, there⟩ := Option.ne_none_iff_exists'.mp some
      obtain ⟨whole, isObject⟩ := exists_object_of_covers there covers differ
      rw [found] at isObject
      obtain rfl := Option.some.inj isObject
      cases scalar

/-- **An inclusion shows exactly the listed places.**  Each of them has in the result what it has in
the record, and any value in the result but an object is the record's own value at its place, which
is at or below a listed one. -/
theorem getPath?_project_include (doc : Document) (paths : List String) (score : Option Binary64) :
    let out := doc.project ⟨.include paths, none⟩ score
    (∀ listed ∈ paths, out.getPath? listed = doc.getPath? listed) ∧
      ∀ path value, out.getPath? path = some value → value.object? = none →
        doc.getPath? path = some value ∧ ∃ listed ∈ paths, Path.covers listed path = true := by
  intro out
  constructor
  · intro listed mem
    exact getPath?_keep_include_of_mem mem
  · intro path value found scalar
    exact (showsOnly_keep_include doc paths path value found).own_of_not_object scalar

/-- A member of an object and the object itself, listed in this order, and a place below a number,
which nothing is made of. -/
theorem getPath?_project_include_overlapping :
    let doc : Document := [("size", .object [("h", .number (.ofNat 3)), ("w", .null)]),
      ("price", .number (.ofNat 5)), ("note", .string "x")]
    let paths := ["size.w", "price.net", "size"]
    let out := doc.project ⟨.include paths, none⟩ none
    out.keys = ["size"] ∧
      out.getPath? "size.h" = some (.number (.ofNat 3)) ∧
      (∀ listed ∈ paths, out.getPath? listed = doc.getPath? listed) ∧
      doc.getPath? "size.h" = some (.number (.ofNat 3)) ∧
        ∃ listed ∈ paths, Path.covers listed "size.h" = true := by
  intro doc paths out
  obtain ⟨same, own⟩ := getPath?_project_include doc paths none
  exact ⟨by decide, rfl, same, own "size.h" _ rfl rfl⟩

end Document

end DocQuery
