import DocQuery.Proofs.Document.Projection

/-!
# Places in a document

A write at a place that has a value changes that value and nothing else: writing the old value back
gives back the record, and no object on the way gains a key.  What another path reads afterwards
depends on where it lies: at the place, above it, below it, or apart from it.

## Main definitions

* `Path.segments_injective`, `Path.eq_of_covers`: a place has one path
* `Document.setPath_own`, `Document.setPath_setPath`: writing back
* `Document.write_append`, `Document.keys_write`: a write inside the value at a place
* `Document.ReadAfterWrite`, `Document.readAfterWrite`: what a path reads after such a write
* `Document.lookup_of_getPath?`: what a filter reaches at a place
-/

namespace DocQuery

/-! ### Paths of places -/

theorem Json.below?_eq_some_iff {v value : Json} {path : List String} :
    v.below? path = some value ↔
      ∃ members, v = .object members ∧ Document.descend? members path = some value := by
  cases v <;> simp [Json.below?, Json.object?]

/-- Only a name itself names the place of the name. -/
theorem Path.eq_of_covers_name {name path : String} (name_ : '.' ∉ name.toList)
    (covers : Path.covers path name = true) : path = name := by
  rw [← isAtOrBelow_eq_covers, isAtOrBelow, Bool.or_eq_true] at covers
  rcases covers with same | below
  · exact (beq_iff_eq.mp same).symm
  · obtain ⟨rest, split⟩ := List.isPrefixOf_iff_prefix.mp below
    rw [← split] at name_
    simp at name_

/-- The segments of a path determine it. -/
theorem Path.segments_injective : Function.Injective segments := by
  intro p q same
  have ofList_injective : Function.Injective String.ofList := fun xs ys same => by
    rw [← String.toList_ofList (l := xs), same, String.toList_ofList]
  rw [segments, segments, Text.splitOnChar, Text.splitOnChar, Text.pieces_eq_splitOn,
    Text.pieces_eq_splitOn] at same
  have pieces := List.map_injective_iff.mpr ofList_injective same
  have joined := congrArg ['.'].intercalate pieces
  rw [List.intercalate_splitOn, List.intercalate_splitOn] at joined
  exact String.toList_inj.mp joined

theorem Path.covers_trans {above between path : String} (first : covers above between = true)
    (second : covers between path = true) : covers above path = true :=
  covers_iff.mpr ((covers_iff.mp first).trans (covers_iff.mp second))

theorem Path.eq_of_covers {p q : String} (first : covers p q = true) (second : covers q p = true) :
    p = q :=
  segments_injective ((covers_iff.mp first).eq_of_length_le (covers_iff.mp second).length_le)

theorem Path.ne_of_covers {above between path : String} (first : covers above between = true)
    (second : covers between path = true) (differ : above ≠ between) : above ≠ path :=
  fun same => differ (eq_of_covers first (same ▸ second))

theorem Path.root_eq_of_covers {above path : String} (covers : Path.covers above path = true) :
    root above = root path := by
  rw [covers_iff, segments_eq_cons above, segments_eq_cons path, List.cons_prefix_cons] at covers
  exact covers.1

namespace Document

variable {doc out : Document} {key : String} {value old : Json}
  {path above rest : List String}

/-! ### Writing back -/

theorem insert_own (found : doc.get? key = some value) : doc.insert key value = doc := by
  induction doc with
  | nil => cases found
  | cons member rest ih =>
      obtain ⟨k, v⟩ := member
      rw [get?_cons] at found
      rw [insert]
      split at found
      · next same => rw [if_pos same, Option.some.inj found]
      · next other => rw [if_neg other, ih found]

theorem childAt_of_object {members : Document} (found : doc.get? key = some (.object members)) :
    doc.childAt key = members := by
  rw [childAt, found]

/-- Writing the value that stands at a place changes nothing. -/
theorem write_own (found : doc.descend? path = some value) : doc.write path value = doc := by
  induction path generalizing doc with
  | nil => cases found
  | cons s rest ih =>
      by_cases last : rest = []
      · subst last
        exact insert_own found
      · rw [descend?_cons last] at found
        obtain ⟨v, here, inside⟩ := Option.bind_eq_some_iff.mp found
        obtain ⟨members, rfl, deeper⟩ := Json.below?_eq_some_iff.mp inside
        rw [write_cons last, childAt_of_object here, ih deeper, insert_own here]

/-- Of two writes at one place the second counts. -/
theorem write_write : (doc.write path old).write path value = doc.write path value := by
  induction path generalizing doc with
  | nil => rfl
  | cons s rest ih =>
      by_cases last : rest = []
      · subst last
        exact insert_insert_self value
      · rw [write_cons last, write_cons last, write_cons last,
          childAt_of_object (get?_insert_self _ _ _), ih, insert_insert_self]

theorem setPath_own {path : String} (found : doc.getPath? path = some value) :
    doc.setPath path value = doc :=
  write_own found

theorem setPath_setPath {path : String} :
    (doc.setPath path old).setPath path value = doc.setPath path value :=
  write_write

/-- Another field is no place on the way. -/
theorem getPath?_insert_of_ne {path : String} (other : key ≠ Path.root path) :
    (doc.insert key value).getPath? path = doc.getPath? path := by
  rw [getPath?, getPath?, Path.segments_eq_cons]
  have kept := get?_insert_of_ne doc value other.symm
  by_cases last : (Path.segments path).tail = []
  · rw [last, descend?, descend?, kept]
  · rw [descend?_cons last, descend?_cons last, kept]

/-! ### A write inside the value at a place -/

/-- A write below a place that holds an object is a write of the object, written inside. -/
theorem write_append {members : Document} (more : rest ≠ [])
    (found : doc.descend? above = some (.object members)) :
    doc.write (above ++ rest) value = doc.write above (.object (members.write rest value)) := by
  induction above generalizing doc with
  | nil => cases found
  | cons s above ih =>
      rw [List.cons_append, write_cons (List.append_ne_nil_of_right_ne_nil _ more)]
      by_cases last : above = []
      · subst last
        rw [childAt_of_object found]
        rfl
      · rw [descend?_cons last] at found
        obtain ⟨v, here, inside⟩ := Option.bind_eq_some_iff.mp found
        obtain ⟨child, rfl, deeper⟩ := Json.below?_eq_some_iff.mp inside
        rw [childAt_of_object here, ih deeper, write_cons last, childAt_of_object here]

/-- Above a written place there are objects only. -/
theorem exists_object_of_write_append (nonempty : above ≠ []) (more : rest ≠ []) :
    ∃ members, (doc.write (above ++ rest) value).descend? above = some (.object members) := by
  induction above generalizing doc with
  | nil => exact absurd rfl nonempty
  | cons s above ih =>
      rw [List.cons_append, write_cons (List.append_ne_nil_of_right_ne_nil _ more)]
      by_cases last : above = []
      · subst last
        exact ⟨_, get?_insert_self _ _ _⟩
      · rw [descend?_cons last, get?_insert_self]
        exact ih last

/-- A write at a place that has a value brings no new key. -/
theorem keys_write (found : doc.descend? path = some old) : (doc.write path value).keys = doc.keys := by
  cases path with
  | nil => cases found
  | cons s rest => rw [write_eq_insert, keys_insert, if_pos (mem_keys_of_descend? found)]

/-- What a path can read after a value is written at a place that has one, by where the path lies. -/
inductive ReadAfterWrite (doc : Document) (place : String) (value : Json) (path : String) :
    Option Json → Prop where
  /-- At the place there is the written value. -/
  | here (same : path = place) : ReadAfterWrite doc place value path (some value)
  /-- Above the place there is an object, with the keys that it has had before. -/
  | above (differ : path ≠ place) (covers : Path.covers path place = true)
      (members written : Document) (before : doc.getPath? path = some (.object members))
      (sameKeys : written.keys = members.keys) :
      ReadAfterWrite doc place value path (some (.object written))
  /-- Below the place there is what the written value has there. -/
  | below (differ : path ≠ place) (covers : Path.covers place path = true) (rest : List String) :
      ReadAfterWrite doc place value path (value.below? rest)
  /-- Elsewhere there is what has been there before. -/
  | apart : ReadAfterWrite doc place value path (doc.getPath? path)

theorem readAfterWrite {place : String} (found : doc.getPath? place = some old) (value : Json)
    (path : String) : ReadAfterWrite doc place value path ((doc.setPath place value).getPath? path) := by
  by_cases same : path = place
  · subst same
    rw [getPath?, setPath, descend?_write_self (Path.segments_ne_nil path)]
    exact .here rfl
  · have more : ∀ {p q : String} {rest : List String}, p ≠ q →
        Path.segments p ++ rest = Path.segments q → rest ≠ [] := by
      rintro p q _ differ split rfl
      rw [List.append_nil] at split
      exact differ (Path.segments_injective split)
    cases above : Path.covers path place with
    | true =>
        obtain ⟨rest, split⟩ := Path.covers_iff.mp above
        have more := more same split
        rw [getPath?, ← split, descend?_append (Path.segments_ne_nil path) more] at found
        obtain ⟨v, before, inside⟩ := Option.bind_eq_some_iff.mp found
        obtain ⟨members, rfl, deeper⟩ := Json.below?_eq_some_iff.mp inside
        rw [getPath?, setPath, ← split, write_append more before,
          descend?_write_self (Path.segments_ne_nil path)]
        exact .above same above members _ before (keys_write deeper)
    | false =>
        cases below : Path.covers place path with
        | true =>
            obtain ⟨rest, split⟩ := Path.covers_iff.mp below
            rw [getPath?, setPath, ← split, descend?_write_append (Path.segments_ne_nil place)
              (more (Ne.symm same) split)]
            exact .below same below rest
        | false =>
            have unchanged : (doc.setPath place value).getPath? path = doc.getPath? path := by
              refine descend?_write_of_apart ?_ ?_
              · rw [← Path.covers_iff, below]
                decide
              · rw [← Path.covers_iff, above]
                decide
            rw [unchanged]
            exact .apart

/-- Above a value there are objects. -/
theorem exists_object_of_covers {path above : String} (found : doc.getPath? path = some value)
    (covers : Path.covers above path = true) (differ : above ≠ path) :
    ∃ members, doc.getPath? above = some (.object members) := by
  have notBelow : Path.covers path above = false :=
    Bool.eq_false_iff.mpr fun back => differ (Path.eq_of_covers covers back)
  obtain ⟨rest, -, -, reads⟩ := getPath?_of_covers doc covers notBelow
  rw [reads] at found
  obtain ⟨u, here, inside⟩ := Option.bind_eq_some_iff.mp found
  obtain ⟨members, rfl, -⟩ := Json.below?_eq_some_iff.mp inside
  exact ⟨members, here⟩

/-! ### Values that filters reach -/

theorem spread_of_below {v value : Json} (more : path ≠ []) (found : v.below? path = some value) :
    spread [v] path = [value] := by
  induction path generalizing v with
  | nil => exact absurd rfl more
  | cons s rest ih =>
      obtain ⟨members, rfl, inside⟩ := Json.below?_eq_some_iff.mp found
      rw [spread, List.flatMap_singleton, childrenAt]
      by_cases last : rest = []
      · subst last
        rw [descend?] at inside
        rw [inside]
        rfl
      · rw [descend?_cons last] at inside
        obtain ⟨w, here, deeper⟩ := Option.bind_eq_some_iff.mp inside
        rw [here, Option.toList_some]
        exact ih last deeper

/-- A value that is reached without entering arrays is the only one that a filter sees. -/
theorem lookup_of_getPath? {path : String} {value : Json} (found : doc.getPath? path = some value) :
    doc.lookup path = [value] := by
  rw [getPath?, Path.segments_eq_cons] at found
  rw [lookup, Path.segments_eq_cons]
  dsimp only
  by_cases last : (Path.segments path).tail = []
  · rw [last, descend?] at found
    rw [last, found]
    rfl
  · rw [descend?_cons last] at found
    obtain ⟨v, here, inside⟩ := Option.bind_eq_some_iff.mp found
    rw [here, Option.toList_some]
    exact spread_of_below last inside

end Document

end DocQuery
