import DocQuery.Proofs.Document.Path

/-!
# Removing along paths

A removal goes down through objects, and where it meets a list it goes on in every object of the
list.  A filter reaches values on the same ways, so what a removal takes away no filter can reach,
and what lies apart from the removed place both readings of a path find unchanged.  Only the
elements that a filter picks out by a numeral are no place for a removal: it looks for a key there.

A removal erases a field or changes the value of one, and what it changes are records
(`Json.mapRecords`).  Every lemma on `Document.remove` goes through that step
(`Document.remove_cons`), by induction on the segments.

## Main definitions

* `Json.records`, `Json.mapRecords`: the records in a value
* `Document.reached`: what a filter reaches along segments
* `Document.descend?_remove_below`, `Document.descend?_remove_append`,
  `Document.descend?_remove_of_apart`: what a path reads after a removal
* `Document.reached_remove_below`, `Document.reached_remove_append`,
  `Document.reached_remove_of_apart`: what a filter reaches after a removal
* `Document.remove_comm`, `Document.remove_remove`: removals in another order
-/

namespace DocQuery

/-! ### The records in a value -/

namespace Json

variable {f g : Document → Document} {v : Json}

/-- The records in a value: the value itself, or the elements of a list, as far as they are
objects. -/
def records : Json → List Document
  | .object members => [members]
  | .array items => items.filterMap object?
  | _ => []

/-- A value with its records changed. -/
def mapRecords (f : Document → Document) : Json → Json
  | .object members => .object (f members)
  | .array items =>
    .array (items.map fun item =>
      match item with
      | .object members => .object (f members)
      | other => other)
  | other => other

theorem records_mapRecords : (v.mapRecords f).records = v.records.map f := by
  cases v with
  | array items =>
      rw [mapRecords, records, records, List.filterMap_map, List.map_filterMap]
      refine List.filterMap_congr fun item _ => ?_
      cases item <;> rfl
  | _ => rfl

theorem mapRecords_mapRecords : (v.mapRecords g).mapRecords f = v.mapRecords (f ∘ g) := by
  cases v with
  | array items =>
      rw [mapRecords, mapRecords, mapRecords, List.map_map]
      refine congrArg array (List.map_congr_left fun item _ => ?_)
      cases item <;> rfl
  | _ => rfl

theorem object?_mapRecords : (v.mapRecords f).object? = v.object?.map f := by
  cases v <;> rfl

theorem below?_mapRecords (path : List String) :
    (v.mapRecords f).below? path = v.object?.bind fun members => (f members).descend? path := by
  rw [below?, object?_mapRecords, Option.bind_map]
  rfl

end Json

namespace Document

variable {doc other : Document} {s t : String} {above path rest : List String}

/-! ### One step of a removal -/

/-- A removal below a key goes on in the records at the key. -/
theorem remove_cons (more : rest ≠ []) :
    remove (s :: rest) doc = doc.adjust s (Json.mapRecords (remove rest)) := by
  obtain ⟨t, rest, rfl⟩ := List.exists_cons_of_ne_nil more
  rfl

theorem get?_adjust (key : String) (f : Json → Json) (other : String) :
    (doc.adjust key f).get? other =
      if key = other then (doc.get? other).map f else doc.get? other := by
  induction doc with
  | nil => simp [adjust]
  | cons member more ih =>
      obtain ⟨k, v⟩ := member
      rw [adjust, List.map_cons, ← adjust]
      grind [get?_cons]

theorem get?_erase (key other : String) :
    (doc.erase key).get? other = if key = other then none else doc.get? other := by
  rw [erase, get?_filter fun k => k ≠ key]
  grind

/-- A removal at or below a field leaves the other fields alone. -/
theorem get?_remove_of_ne (differ : s ≠ t) : (remove (s :: above) doc).get? t = doc.get? t := by
  by_cases last : above = []
  · rw [last, remove, get?_erase, if_neg differ]
  · rw [remove_cons last, get?_adjust, if_neg differ]

/-! ### What a path reads -/

theorem descend?_congr (same : doc.get? s = other.get? s) :
    doc.descend? (s :: rest) = other.descend? (s :: rest) := by
  by_cases last : rest = []
  · rw [last]
    exact same
  · rw [descend?_cons last, descend?_cons last, same]

/-- A removal inside a field, read inside the same field. -/
theorem descend?_remove_cons (more : above ≠ []) (more' : path ≠ []) :
    (remove (s :: above) doc).descend? (s :: path) =
      (doc.get? s).bind fun v => v.object?.bind fun members =>
        (remove above members).descend? path := by
  rw [remove_cons more, descend?_cons more', get?_adjust, if_pos rfl, Option.bind_map]
  exact Option.bind_congr fun v _ => Json.below?_mapRecords path

/-- Removing a place removes everything below it. -/
theorem descend?_remove_below (nonempty : above ≠ []) (below : above <+: path) :
    (remove above doc).descend? path = none := by
  induction above generalizing doc path with
  | nil => exact absurd rfl nonempty
  | cons s above ih =>
      cases path with
      | nil => exact absurd (List.prefix_nil.mp below) nonempty
      | cons t path =>
          obtain ⟨rfl, inside⟩ := List.cons_prefix_cons.mp below
          by_cases last : above = []
          · subst last
            have gone : (remove [s] doc).get? s = get? [] s := by
              rw [remove, get?_erase, if_pos rfl, get?_nil]
            rw [descend?_congr gone]
            cases path <;> rfl
          · have more : path ≠ [] := by
              rintro rfl
              exact last (List.prefix_nil.mp inside)
            rw [descend?_remove_cons last more]
            refine Option.bind_eq_none_iff.mpr fun v _ => ?_
            exact Option.bind_eq_none_iff.mpr fun members _ => ih last inside

/-- Above a removed place the value is still there, with the removal carried on inside it. -/
theorem descend?_remove_append (nonempty : path ≠ []) (more : rest ≠ []) :
    (remove (path ++ rest) doc).descend? path =
      (doc.descend? path).map (Json.mapRecords (remove rest)) := by
  induction path generalizing doc with
  | nil => exact absurd rfl nonempty
  | cons s path ih =>
      rw [List.cons_append]
      by_cases last : path = []
      · rw [last, List.nil_append, remove_cons more, descend?, descend?, get?_adjust, if_pos rfl]
      · rw [descend?_remove_cons (List.append_ne_nil_of_left_ne_nil last rest) last,
          descend?_cons last, Option.map_bind]
        refine Option.bind_congr fun v _ => ?_
        rw [Function.comp_apply, Json.below?, Option.map_bind]
        exact Option.bind_congr fun members _ => ih last

/-- A removal leaves alone what lies neither above nor below the removed place. -/
theorem descend?_remove_of_apart (notBelow : ¬above <+: path) (notAbove : ¬path <+: above) :
    (remove above doc).descend? path = doc.descend? path := by
  induction above generalizing doc path with
  | nil => exact absurd List.nil_prefix notBelow
  | cons s above ih =>
      cases path with
      | nil => exact absurd List.nil_prefix notAbove
      | cons t path =>
          rw [List.cons_prefix_cons] at notBelow notAbove
          by_cases same : s = t
          · subst same
            have notBelow : ¬above <+: path := fun h => notBelow ⟨rfl, h⟩
            have notAbove : ¬path <+: above := fun h => notAbove ⟨rfl, h⟩
            have more : path ≠ [] := fun h => notAbove (h ▸ List.nil_prefix)
            have more' : above ≠ [] := fun h => notBelow (h ▸ List.nil_prefix)
            rw [descend?_remove_cons more' more, descend?_cons more]
            refine Option.bind_congr fun v _ => ?_
            exact Option.bind_congr fun members _ => ih notBelow notAbove
          · exact descend?_congr (get?_remove_of_ne same)

/-- A removal brings no value to a place that has none. -/
theorem descend?_remove_eq_none (absent : doc.descend? path = none) :
    (remove above doc).descend? path = none := by
  by_cases start : above = []
  · rw [start, remove]
    exact absent
  · by_cases nowhere : path = []
    · rw [nowhere, descend?]
    · by_cases below : above <+: path
      · exact descend?_remove_below start below
      · by_cases covers : path <+: above
        · obtain ⟨rest, rfl⟩ := covers
          have more : rest ≠ [] := by
            rintro rfl
            exact below (by rw [List.append_nil])
          rw [descend?_remove_append nowhere more, absent, Option.map_none]
        · rw [descend?_remove_of_apart below covers]
          exact absent

/-! ### What a filter reaches -/

/-- The values that a filter reaches along segments. -/
def reached (doc : Document) : List String → List Json
  | [] => []
  | s :: rest => spread (doc.get? s).toList rest

theorem lookup_eq_reached (path : String) : doc.lookup path = doc.reached (Path.segments path) := by
  rw [lookup, Path.segments_eq_cons]
  rfl

theorem spread_eq_flatMap (values : List Json) (rest : List String) :
    spread values rest = values.flatMap fun v => spread [v] rest := by
  induction rest generalizing values with
  | nil => simp only [spread, List.flatMap_singleton']
  | cons s rest ih =>
      rw [spread, ih, List.flatMap_assoc]
      refine List.flatMap_congr fun v _ => ?_
      rw [spread, List.flatMap_singleton, ← ih]

/-- A segment that is no numeral leads into records only. -/
theorem childrenAt_of_index?_eq_none {v : Json} (named : Path.index? s = none) :
    childrenAt s v = v.records.filterMap (get? · s) := by
  cases v with
  | object members =>
      rw [childrenAt, Json.records]
      cases found : Document.get? members s <;> simp [found]
  | array items =>
      rw [childrenAt, named, Json.records, List.filterMap_filterMap]
      rfl
  | _ => rfl

/-- Below a field a filter goes on in the records at the field. -/
theorem reached_cons (more : rest ≠ []) (named : ∀ t ∈ rest, Path.index? t = none) :
    doc.reached (s :: rest) =
      (doc.get? s).toList.flatMap fun v => v.records.flatMap (·.reached rest) := by
  obtain ⟨t, rest, rfl⟩ := List.exists_cons_of_ne_nil more
  rw [reached, spread_eq_flatMap]
  refine List.flatMap_congr fun v _ => ?_
  rw [spread, List.flatMap_singleton, childrenAt_of_index?_eq_none (named t List.mem_cons_self),
    spread_eq_flatMap, List.filterMap_eq_flatMap_toList, List.flatMap_assoc]
  refine List.flatMap_congr fun members _ => ?_
  rw [reached, ← spread_eq_flatMap]

theorem reached_congr (same : doc.get? s = other.get? s) :
    doc.reached (s :: rest) = other.reached (s :: rest) := by
  rw [reached, reached, same]

/-- A removal inside a field, for a filter that goes on inside the same field. -/
theorem reached_remove_cons (more : above ≠ []) (more' : path ≠ [])
    (named : ∀ t ∈ path, Path.index? t = none) :
    (remove (s :: above) doc).reached (s :: path) =
      (doc.get? s).toList.flatMap fun v => v.records.flatMap fun members =>
        (remove above members).reached path := by
  rw [remove_cons more, reached_cons more' named, get?_adjust, if_pos rfl]
  cases doc.get? s with
  | none => rfl
  | some v =>
      rw [Option.map_some, Option.toList_some, Option.toList_some, List.flatMap_singleton,
        List.flatMap_singleton, Json.records_mapRecords, List.flatMap_map]

/-- At and below a removed place a filter reaches nothing. -/
theorem reached_remove_below (nonempty : above ≠ []) (below : above <+: path)
    (named : ∀ t ∈ path.tail, Path.index? t = none) : (remove above doc).reached path = [] := by
  induction above generalizing doc path with
  | nil => exact absurd rfl nonempty
  | cons s above ih =>
      cases path with
      | nil => rfl
      | cons t path =>
          obtain ⟨rfl, inside⟩ := List.cons_prefix_cons.mp below
          by_cases last : above = []
          · subst last
            have gone : (remove [s] doc).get? s = get? [] s := by
              rw [remove, get?_erase, if_pos rfl, get?_nil]
            rw [reached_congr gone, reached, get?_nil, Option.toList_none, spread_eq_flatMap,
              List.flatMap_nil]
          · have more : path ≠ [] := by
              rintro rfl
              exact last (List.prefix_nil.mp inside)
            rw [reached_remove_cons last more named]
            refine List.flatMap_eq_nil_iff.mpr fun v _ => ?_
            exact List.flatMap_eq_nil_iff.mpr fun members _ =>
              ih last inside fun t mem => named t (List.mem_of_mem_tail mem)

/-- Above a removed place a filter reaches the same values, with the removal carried on inside
them. -/
theorem reached_remove_append (nonempty : path ≠ []) (more : rest ≠ [])
    (named : ∀ t ∈ path.tail, Path.index? t = none) :
    (remove (path ++ rest) doc).reached path =
      (doc.reached path).map (Json.mapRecords (remove rest)) := by
  induction path generalizing doc with
  | nil => exact absurd rfl nonempty
  | cons s path ih =>
      rw [List.cons_append]
      by_cases last : path = []
      · subst last
        rw [List.nil_append, remove_cons more, reached, reached, get?_adjust, if_pos rfl, spread,
          spread]
        cases doc.get? s <;> rfl
      · rw [reached_remove_cons (List.append_ne_nil_of_left_ne_nil last rest) last named,
          reached_cons last named, List.map_flatMap]
        refine List.flatMap_congr fun v _ => ?_
        rw [List.map_flatMap]
        exact List.flatMap_congr fun members _ =>
          ih last fun t mem => named t (List.mem_of_mem_tail mem)

/-- A filter that goes apart from a removed place reaches what it has reached before. -/
theorem reached_remove_of_apart (notBelow : ¬above <+: path) (notAbove : ¬path <+: above)
    (named : ∀ t ∈ path.tail, Path.index? t = none) :
    (remove above doc).reached path = doc.reached path := by
  induction above generalizing doc path with
  | nil => exact absurd List.nil_prefix notBelow
  | cons s above ih =>
      cases path with
      | nil => rfl
      | cons t path =>
          rw [List.cons_prefix_cons] at notBelow notAbove
          by_cases same : s = t
          · subst same
            have notBelow : ¬above <+: path := fun h => notBelow ⟨rfl, h⟩
            have notAbove : ¬path <+: above := fun h => notAbove ⟨rfl, h⟩
            have more : path ≠ [] := fun h => notAbove (h ▸ List.nil_prefix)
            have more' : above ≠ [] := fun h => notBelow (h ▸ List.nil_prefix)
            rw [reached_remove_cons more' more named, reached_cons more named]
            refine List.flatMap_congr fun v _ => ?_
            exact List.flatMap_congr fun members _ =>
              ih notBelow notAbove fun t mem => named t (List.mem_of_mem_tail mem)
          · exact reached_congr (get?_remove_of_ne same)

/-- A removal brings nothing into the reach of a filter that has reached nothing. -/
theorem reached_remove_eq_nil (named : ∀ t ∈ path.tail, Path.index? t = none)
    (absent : doc.reached path = []) : (remove above doc).reached path = [] := by
  by_cases start : above = []
  · rw [start, remove]
    exact absent
  · by_cases nowhere : path = []
    · rw [nowhere, reached]
    · by_cases below : above <+: path
      · exact reached_remove_below start below named
      · by_cases covers : path <+: above
        · obtain ⟨rest, rfl⟩ := covers
          have more : rest ≠ [] := by
            rintro rfl
            exact below (by rw [List.append_nil])
          rw [reached_remove_append nowhere more named, absent, List.map_nil]
        · rw [reached_remove_of_apart below covers named]
          exact absent

/-! ### The order of removals -/

theorem adjust_adjust_self (f g : Json → Json) :
    (doc.adjust s g).adjust s f = doc.adjust s (f ∘ g) := by
  rw [adjust, adjust, adjust, List.map_map]
  refine List.map_congr_left fun member _ => ?_
  obtain ⟨k, v⟩ := member
  by_cases same : k = s <;> simp [same]

theorem adjust_comm (differ : s ≠ t) (f g : Json → Json) :
    (doc.adjust t g).adjust s f = (doc.adjust s f).adjust t g := by
  rw [adjust, adjust, adjust, adjust, List.map_map, List.map_map]
  refine List.map_congr_left fun member _ => ?_
  obtain ⟨k, v⟩ := member
  by_cases isS : k = s <;> by_cases isT : k = t <;> simp_all

theorem erase_adjust (f : Json → Json) : (doc.adjust t f).erase s = (doc.erase s).adjust t f := by
  rw [erase, erase, adjust, adjust, List.filter_map]
  congr 2
  funext member
  obtain ⟨k, v⟩ := member
  by_cases same : k = t <;> simp [same]

/-- Erasing a field and removing a place can be done in either order. -/
theorem erase_remove : (remove above doc).erase s = remove above (doc.erase s) := by
  cases above with
  | nil => rfl
  | cons t above =>
      by_cases last : above = []
      · rw [last, remove, remove, erase, erase, erase, erase, List.filter_comm]
      · rw [remove_cons last, remove_cons last, erase_adjust]

/-- **Removals can be done in any order.** -/
theorem remove_comm : remove above (remove path doc) = remove path (remove above doc) := by
  induction above generalizing path doc with
  | nil => rfl
  | cons s above ih =>
      by_cases single : above = []
      · rw [single, remove, remove, erase_remove]
      · cases path with
        | nil => rfl
        | cons t path =>
            by_cases single' : path = []
            · rw [single', remove, remove, erase_remove]
            · rw [remove_cons single, remove_cons single', remove_cons single,
                remove_cons single']
              by_cases same : s = t
              · subst same
                -- both go on inside the same field
                have swap : ∀ v : Json, (v.mapRecords (remove path)).mapRecords (remove above) =
                    (v.mapRecords (remove above)).mapRecords (remove path) := by
                  intro v
                  rw [Json.mapRecords_mapRecords, Json.mapRecords_mapRecords]
                  exact congrArg v.mapRecords (funext fun members => ih)
                rw [adjust_adjust_self, adjust_adjust_self]
                exact congrArg (adjust s · doc) (funext swap)
              · exact adjust_comm same _ _

/-- A second removal of a place finds nothing more. -/
theorem remove_remove : remove path (remove path doc) = remove path doc := by
  induction path generalizing doc with
  | nil => rfl
  | cons s path ih =>
      by_cases single : path = []
      · rw [single, remove, remove, erase, erase, List.filter_filter]
        simp only [Bool.and_self]
      · rw [remove_cons single, remove_cons single, adjust_adjust_self]
        refine congrArg (adjust s · doc) (funext fun v => ?_)
        rw [Function.comp_apply, Json.mapRecords_mapRecords]
        exact congrArg v.mapRecords (funext fun members => ih)

end Document

end DocQuery
