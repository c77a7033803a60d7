import DocQuery.Collection.Restriction
import DocQuery.Document.Path
import DocQuery.Proofs.Json.Keys
import DocQuery.Proofs.Text.Split
import Mathlib.Data.List.Infix

/-!
# Reading and writing along paths

What a path reaches after a write at another path.  Only how the two paths overlap matters: one may
be a prefix of the other, or they part at some segment.

## Main definitions

* `Path.root`: the first segment of a path
* `Json.below?`: the value reached inside a value
* `Document.descend?_write_append`, `Document.descend?_write_of_apart`
-/

namespace DocQuery

namespace Path

/-! ### Segments -/

theorem segments_ne_nil (path : String) : segments path ≠ [] := Text.splitOnChar_ne_nil _ _

/-- A name without points is its own only segment. -/
theorem segments_of_name {name : String} (name_ : '.' ∉ name.toList) : segments name = [name] :=
  Text.splitOnChar_of_notMem name_

/-- The first segments of a path, joined again, are the segments of a path. -/
theorem segments_join {path : String} {front : List String} (some : front ≠ [])
    (begins : front <+: segments path) : segments (Text.join (.singleton '.') front) = front :=
  Text.splitOnChar_join some fun _ mem => Text.notMem_of_mem_splitOnChar (begins.subset mem)

/-- The first segment of a path. -/
def root (path : String) : String := (segments path).headD ""

theorem segments_eq_cons (path : String) : segments path = root path :: (segments path).tail := by
  obtain ⟨s, rest, split⟩ := List.exists_cons_of_ne_nil (segments_ne_nil path)
  rw [root, split]
  rfl

theorem covers_iff {above path : String} :
    covers above path = true ↔ segments above <+: segments path :=
  List.isPrefixOf_iff_prefix

theorem covers_of_name {name path : String} (name_ : '.' ∉ name.toList) :
    covers name path = true ↔ root path = name := by
  rw [covers_iff, segments_of_name name_, segments_eq_cons path, List.cons_prefix_cons]
  simp [eq_comm]

end Path

/-- The textual test for a place below a field is the one on segments. -/
theorem isAtOrBelow_eq_covers (field path : String) :
    isAtOrBelow field path = Path.covers field path := by
  have injective : Function.Injective String.ofList := fun xs ys same => by
    rw [← String.toList_ofList (l := xs), same, String.toList_ofList]
  rw [Bool.eq_iff_iff, Path.covers_iff, Path.segments, Path.segments, Text.splitOnChar,
    Text.splitOnChar, List.prefix_map_iff_of_injective injective, Text.pieces_eq_splitOn,
    Text.pieces_eq_splitOn, Text.splitOn_prefix_iff, isAtOrBelow, Bool.or_eq_true, beq_iff_eq,
    List.isPrefixOf_iff_prefix, String.toList_inj, eq_comm]

theorem isRestricted_eq_false_iff {restricted : List String} {path : String} :
    isRestricted restricted path = false ↔ ∀ field ∈ restricted, Path.covers field path = false := by
  simp only [isRestricted, List.any_eq_false, isAtOrBelow_eq_covers, Bool.not_eq_true]

/-! ### Descending -/

/-- The value reached inside a value along segments. -/
def Json.below? (v : Json) (segments : List String) : Option Json :=
  v.object?.bind fun doc => Document.descend? doc segments

namespace Document

variable {doc : Document} {s : String} {above path rest : List String} {value : Json}

theorem descend?_cons (more : rest ≠ []) :
    doc.descend? (s :: rest) = (doc.get? s).bind fun v => v.below? rest := by
  obtain ⟨t, rest, rfl⟩ := List.exists_cons_of_ne_nil more
  rw [descend?]
  · cases doc.get? s with
    | none => rfl
    | some v => cases v <;> rfl
  · exact more

/-- Where a path leads to a value, its first key is present. -/
theorem mem_keys_of_descend? (found : doc.descend? (s :: rest) = some value) : s ∈ doc.keys := by
  by_contra absent
  have missing := get?_eq_none_iff.mpr absent
  by_cases last : rest = []
  · rw [last, descend?, missing] at found
    cases found
  · rw [descend?_cons last, missing] at found
    cases found

theorem getPath?_nil (path : String) : getPath? [] path = none := by
  rw [getPath?, Path.segments_eq_cons]
  cases (Path.segments path).tail <;> rfl

theorem descend?_append (nonempty : above ≠ []) (more : rest ≠ []) :
    doc.descend? (above ++ rest) = (doc.descend? above).bind fun v => v.below? rest := by
  induction above generalizing doc with
  | nil => exact absurd rfl nonempty
  | cons s above ih =>
      rw [List.cons_append, descend?_cons (List.append_ne_nil_of_right_ne_nil _ more)]
      by_cases last : above = []
      · subst last
        rfl
      · rw [descend?_cons last, Option.bind_assoc]
        refine Option.bind_congr fun v _ => ?_
        rw [Json.below?, Json.below?, Option.bind_assoc]
        exact Option.bind_congr fun child _ => ih last

/-! ### Writing -/

/-- The members of the object at a key, none if there is no object. -/
def childAt (doc : Document) (s : String) : Document :=
  match doc.get? s with
  | some (.object members) => members
  | _ => []

theorem descend?_childAt (path : List String) :
    (doc.childAt s).descend? path = (doc.get? s).bind fun v => v.below? path := by
  have empty : descend? [] path = none := by
    cases path with
    | nil => rfl
    | cons t rest => cases rest <;> rfl
  rw [childAt]
  cases doc.get? s with
  | none => exact empty
  | some v => cases v <;> first | exact empty | rfl

theorem write_cons (more : rest ≠ []) :
    doc.write (s :: rest) value = doc.insert s (.object ((doc.childAt s).write rest value)) := by
  obtain ⟨t, rest, rfl⟩ := List.exists_cons_of_ne_nil more
  rfl

/-- A write along a path is a write at its first key. -/
theorem write_eq_insert (doc : Document) (s : String) (rest : List String) (value : Json) :
    doc.write (s :: rest) value =
      doc.insert s (if rest = [] then value else .object ((doc.childAt s).write rest value)) := by
  by_cases last : rest = []
  · subst last
    rfl
  · rw [write_cons last, if_neg last]

theorem exists_setPath_eq_insert (doc : Document) (path : String) (value : Json) :
    ∃ v, doc.setPath path value = doc.insert (Path.root path) v := by
  rw [setPath, Path.segments_eq_cons, write_eq_insert]
  exact ⟨_, rfl⟩

theorem descend?_write_self (nonempty : path ≠ []) :
    (doc.write path value).descend? path = some value := by
  induction path generalizing doc with
  | nil => exact absurd rfl nonempty
  | cons s rest ih =>
      by_cases last : rest = []
      · subst last
        exact get?_insert_self doc s value
      · rw [write_cons last, descend?_cons last, get?_insert_self]
        exact ih last

/-- Below a written place there is what the written value has there. -/
theorem descend?_write_append (nonempty : above ≠ []) (more : rest ≠ []) :
    (doc.write above value).descend? (above ++ rest) = value.below? rest := by
  rw [descend?_append nonempty more, descend?_write_self nonempty, Option.bind_some]

/-- A write leaves alone what lies neither above nor below it. -/
theorem descend?_write_of_apart (notBelow : ¬above <+: path) (notAbove : ¬path <+: above) :
    (doc.write above value).descend? path = doc.descend? path := by
  induction above generalizing doc path with
  | nil => exact absurd List.nil_prefix notBelow
  | cons s above ih =>
      cases path with
      | nil => exact absurd List.nil_prefix notAbove
      | cons t path =>
          rw [List.cons_prefix_cons] at notBelow notAbove
          by_cases same : s = t
          · -- the paths go on inside the same member
            subst same
            have notBelow : ¬above <+: path := fun h => notBelow ⟨rfl, h⟩
            have notAbove : ¬path <+: above := fun h => notAbove ⟨rfl, h⟩
            have more : path ≠ [] := fun h => notAbove (h ▸ List.nil_prefix)
            have more' : above ≠ [] := fun h => notBelow (h ▸ List.nil_prefix)
            rw [write_cons more', descend?_cons more, descend?_cons more, get?_insert_self,
              ← descend?_childAt]
            exact ih notBelow notAbove
          · -- the paths part here, and the write changes the member of `s` only
            have kept : ∀ v, (doc.insert s v).get? t = doc.get? t := fun v =>
              get?_insert_of_ne doc v (Ne.symm same)
            rw [write_eq_insert]
            by_cases last : path = []
            · rw [last]
              exact kept _
            · rw [descend?_cons last, descend?_cons last, kept]

end Document

end DocQuery
