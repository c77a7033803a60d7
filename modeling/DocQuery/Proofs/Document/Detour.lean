import DocQuery.Proofs.Document.Exclusion
import DocQuery.Proofs.Document.Kept

/-!
# A place that is kept in for a while

A projection is asked to keep a place in, and the place is removed afterwards.  For an exclusion
that is a removal at another time, and removals can be done in any order, so no trace is left.  For
an inclusion it is a write and a removal.  The write makes objects on the way to the place and
overwrites what is there, and the removal takes back neither: the record is as it was before exactly
if there was room for the place (`Document.HasRoom`), objects all the way and nothing at its end.
An inclusion has room for a place of the record if it lists nothing at or above the place and
something else inside the object that holds it.

An object keeps its members apart only as long as its keys are distinct.  The record in the making
starts empty, so on the way to the place it has distinct keys as long as no listed place on the way
is copied as a whole (`Document.DistinctOnWay`).

## Main definitions

* `Path.parent`: the place of the object that holds a field
* `Document.DistinctOnWay`, `Document.HasRoom`
* `Document.remove_write`, `Document.hasRoom_remove_write`: a write and its removal
* `Document.removePath_keep_include_iff`, `Document.removePath_keep_exclude`
-/

namespace DocQuery

/-! ### The object that holds a field -/

namespace Path

variable {path : String}

/-- The place of the object that holds a field: the path without its last segment. -/
def parent (path : String) : String := Text.join (.singleton '.') (segments path).dropLast

/-- A dotted path leads on from its parent by one more segment. -/
theorem exists_segments_eq (dotted : '.' ∈ path.toList) :
    ∃ key, segments path = segments (parent path) ++ [key] := by
  have more : (segments path).dropLast ≠ [] := by
    intro single
    obtain ⟨s, only⟩ : ∃ s, segments path = [s] := by
      refine List.length_eq_one_iff.mp ?_
      have short := congrArg List.length single
      have some := List.length_pos_iff.mpr (segments_ne_nil path)
      rw [List.length_dropLast, List.length_nil] at short
      omega
    have mem : s ∈ segments path := only ▸ List.mem_cons_self
    have plain : '.' ∉ s.toList := Text.notMem_of_mem_splitOnChar mem
    have same : path = s := segments_injective (only.trans (segments_of_name plain).symm)
    exact plain (same ▸ dotted)
  have whole : segments (parent path) = (segments path).dropLast :=
    segments_join more (List.dropLast_prefix _)
  exact ⟨_, by rw [whole, List.dropLast_append_getLast (segments_ne_nil path)]⟩

theorem covers_parent (dotted : '.' ∈ path.toList) : covers (parent path) path = true := by
  obtain ⟨key, split⟩ := exists_segments_eq dotted
  exact covers_iff.mpr (split ▸ List.prefix_append _ _)

end Path

namespace Document

variable {doc : Document} {s key : String} {place above rest : List String} {value : Json}

/-! ### Distinct keys on the way -/

/-- No key stands twice in the record, nor in an object on the way to a place. -/
def DistinctOnWay : Document → List String → Prop
  | _, [] => True
  | doc, s :: rest =>
    doc.DistinctKeys ∧ ∀ child, doc.get? s = some (.object child) → DistinctOnWay child rest

theorem distinctOnWay_nil (place : List String) : DistinctOnWay [] place := by
  cases place with
  | nil => trivial
  | cons s rest => exact ⟨distinctKeys_nil, fun child found => nomatch found⟩

theorem DistinctOnWay.childAt (distinct : doc.DistinctOnWay (s :: rest)) :
    (doc.childAt s).DistinctOnWay rest := by
  unfold Document.childAt
  split
  · next child found => exact distinct.2 child found
  · exact distinctOnWay_nil rest

/-- A write that is neither at a place nor above it puts no object with repeated keys on the way. -/
theorem DistinctOnWay.write (distinct : doc.DistinctOnWay place) (notAbove : ¬above <+: place) :
    (doc.write above value).DistinctOnWay place := by
  induction above generalizing doc place with
  | nil => exact absurd List.nil_prefix notAbove
  | cons s above ih =>
      cases place with
      | nil => trivial
      | cons t place =>
          rw [List.cons_prefix_cons] at notAbove
          by_cases last : above = []
          · subst last
            have other : t ≠ s := fun same => notAbove ⟨same.symm, List.nil_prefix⟩
            refine ⟨distinct.1.insert s value, fun child found => distinct.2 child ?_⟩
            rwa [Document.write, get?_insert_of_ne doc value other] at found
          · rw [write_cons last]
            refine ⟨distinct.1.insert s _, fun child found => ?_⟩
            by_cases same : t = s
            · subst same
              rw [get?_insert_self] at found
              obtain rfl := Json.object.inj (Option.some.inj found)
              exact ih distinct.childAt fun inside => notAbove ⟨rfl, inside⟩
            · rw [get?_insert_of_ne doc _ same] at found
              exact distinct.2 child found

/-! ### Room for a place -/

/-- Objects lead to a place, and there is nothing at the place. -/
def HasRoom : Document → List String → Prop
  | _, [] => False
  | doc, [s] => doc.get? s = none
  | doc, s :: rest => ∃ child, doc.get? s = some (.object child) ∧ HasRoom child rest

theorem hasRoom_cons (more : rest ≠ []) : doc.HasRoom (s :: rest) ↔
    ∃ child, doc.get? s = some (.object child) ∧ HasRoom child rest := by
  obtain ⟨t, rest, rfl⟩ := List.exists_cons_of_ne_nil more
  rfl

/-- There is room inside an object for a field that it does not have. -/
theorem hasRoom_append_iff (nonempty : above ≠ []) : doc.HasRoom (above ++ [key]) ↔
    (∃ members, doc.descend? above = some (.object members)) ∧
      doc.descend? (above ++ [key]) = none := by
  induction above generalizing doc with
  | nil => exact absurd rfl nonempty
  | cons s above ih =>
      have more : above ++ [key] ≠ [] := by simp
      rw [List.cons_append, hasRoom_cons more, descend?_cons more]
      by_cases last : above = []
      · subst last
        rw [descend?]
        constructor
        · rintro ⟨child, found, absent⟩
          refine ⟨⟨child, found⟩, ?_⟩
          rw [found]
          exact absent
        · rintro ⟨⟨child, found⟩, absent⟩
          rw [found] at absent
          exact ⟨child, found, absent⟩
      · rw [descend?_cons last]
        constructor
        · rintro ⟨child, found, room⟩
          rw [found]
          exact (ih last).mp room
        · rintro ⟨⟨members, inside⟩, absent⟩
          obtain ⟨v, found, below⟩ := Option.bind_eq_some_iff.mp inside
          obtain ⟨child, rfl, deeper⟩ := Json.below?_eq_some_iff.mp below
          rw [found] at absent
          exact ⟨child, found, (ih last).mpr ⟨⟨members, deeper⟩, absent⟩⟩

theorem adjust_insert (distinct : doc.DistinctKeys) (f : Json → Json) :
    (doc.insert s value).adjust s f = doc.insert s (f value) := by
  induction doc with
  | nil => simp [insert, adjust]
  | cons member more ih =>
      obtain ⟨k, v⟩ := member
      obtain ⟨fresh, distinct⟩ := distinctKeys_cons.mp distinct
      by_cases same : k = s
      · subst same
        have others : adjust k f more = more := by
          conv_rhs => rw [← List.map_id more]
          refine List.map_congr_left fun entry mem => ?_
          have other : entry.1 ≠ k := fun same => fresh (same ▸ mem_keys_of_mem mem)
          simp [other]
        rw [insert, insert, if_pos rfl, if_pos rfl, adjust, List.map_cons, ← adjust, others]
        simp
      · rw [insert, insert, if_neg same, if_neg same, adjust, List.map_cons, ← adjust, ih distinct]
        simp [same]

/-- **Where there is room**, a write and the removal of its place leave no trace. -/
theorem remove_write (distinct : doc.DistinctOnWay place) (room : doc.HasRoom place) :
    remove place (doc.write place value) = doc := by
  induction place generalizing doc with
  | nil => exact room.elim
  | cons s rest ih =>
      by_cases last : rest = []
      · subst last
        have fresh : s ∉ doc.keys := get?_eq_none_iff.mp room
        rw [Document.write, remove, insert_of_notMem fresh, erase, List.filter_append, ← erase,
          erase_eq_without, without_eq_self fun name mem => List.mem_singleton.mp mem ▸ fresh]
        simp
      · obtain ⟨child, found, room⟩ := (hasRoom_cons last).mp room
        rw [write_cons last, remove_cons last, adjust_insert distinct.1, childAt_of_object found,
          Json.mapRecords, ih (distinct.2 child found) room, insert_own found]

/-- A write and the removal of its place leave room for the place. -/
theorem hasRoom_remove_write (nonempty : place ≠ []) :
    (remove place (doc.write place value)).HasRoom place := by
  induction place generalizing doc with
  | nil => exact absurd rfl nonempty
  | cons s rest ih =>
      by_cases last : rest = []
      · subst last
        show get? (erase _ s) s = none
        rw [get?_erase, if_pos rfl]
      · rw [hasRoom_cons last, write_cons last, remove_cons last, get?_adjust, if_pos rfl,
          get?_insert_self]
        exact ⟨_, rfl, ih last⟩

/-! ### Inclusions -/

variable {path : String} {paths : List String}

theorem keep_include_append (found : doc.getPath? path = some value) :
    doc.keep (.include (paths ++ [path])) = (doc.keep (.include paths)).setPath path value := by
  rw [keep_include, List.foldl_append, ← keep_include, List.foldl_cons, List.foldl_nil, copyPath,
    found]

/-- On the way to a place that is not inside a copied one all objects are made while copying. -/
theorem distinctOnWay_keep_include
    (apart : ∀ p ∈ paths, doc.getPath? p ≠ none → Path.covers p path = false) :
    (doc.keep (.include paths)).DistinctOnWay (Path.segments path) := by
  rw [keep_include]
  refine List.foldlRecOn paths doc.copyPath
    (motive := fun out => out.DistinctOnWay (Path.segments path)) (distinctOnWay_nil _) ?_
  intro out distinct p mem
  unfold copyPath
  cases found : doc.getPath? p with
  | none => exact distinct
  | some value =>
      refine distinct.write fun above => ?_
      have notAbove := apart p mem (by simp [found])
      rw [Path.covers_iff.mpr above] at notAbove
      cases notAbove

/-- **When an inclusion has room** for a place with a value that is no object: it lists neither the
place nor a place above it, and the object that holds the place is shown for something else. -/
theorem hasRoom_keep_include_iff (dotted : '.' ∈ path.toList)
    (found : doc.getPath? path = some value) (scalar : value.object? = none) :
    (doc.keep (.include paths)).HasRoom (Path.segments path) ↔
      (∀ p ∈ paths, Path.covers p path = false) ∧
        ∃ p ∈ paths, Path.covers (Path.parent path) p = true ∧ doc.getPath? p ≠ none := by
  obtain ⟨key, split⟩ := Path.exists_segments_eq dotted
  rw [split, hasRoom_append_iff (Path.segments_ne_nil _), ← split]
  show (∃ members, (doc.keep (.include paths)).getPath? (Path.parent path) =
      some (.object members)) ∧ (doc.keep (.include paths)).getPath? path = none ↔ _
  constructor
  · rintro ⟨⟨members, inside⟩, absent⟩
    have unlisted : ∀ p ∈ paths, Path.covers p path = false := by
      intro p mem
      rw [Bool.eq_false_iff]
      intro covers
      rw [getPath?_keep_include_of_covers mem covers, found] at absent
      cases absent
    refine ⟨unlisted, ?_⟩
    cases showsOnly_keep_include doc paths _ _ inside with
    | own _ _ below =>
        obtain ⟨p, mem, covers⟩ := below
        have covers := Path.covers_trans covers (Path.covers_parent dotted)
        rw [unlisted p mem] at covers
        cases covers
    | onTheWay _ above =>
        obtain ⟨p, mem, -, covers, some⟩ := above
        exact ⟨p, mem, covers, some⟩
  · rintro ⟨unlisted, p, mem, covers, some⟩
    have differ : Path.parent path ≠ p := by
      rintro rfl
      have listed := unlisted _ mem
      rw [Path.covers_parent dotted] at listed
      cases listed
    exact ⟨exists_object_keep_include mem some covers differ,
      getPath?_keep_include_eq_none unlisted found scalar⟩

/-- **A place that is added to an inclusion and removed again** leaves the inclusion as it was exactly
if there is room for it. -/
theorem removePath_keep_include_iff (dotted : '.' ∈ path.toList)
    (found : doc.getPath? path = some value) (scalar : value.object? = none) :
    (doc.keep (.include (paths ++ [path]))).removePath path = doc.keep (.include paths) ↔
      (∀ p ∈ paths, Path.covers p path = false) ∧
        ∃ p ∈ paths, Path.covers (Path.parent path) p = true ∧ doc.getPath? p ≠ none := by
  rw [← hasRoom_keep_include_iff dotted found scalar, keep_include_append found, removePath, setPath]
  constructor
  · intro same
    rw [← same]
    exact hasRoom_remove_write (Path.segments_ne_nil path)
  · intro room
    have unlisted := ((hasRoom_keep_include_iff dotted found scalar).mp room).1
    exact remove_write (distinctOnWay_keep_include fun p mem _ => unlisted p mem) room

/-- A name that is added to an inclusion and removed again leaves no trace, if its value is no
object: the record itself has room for it. -/
theorem removePath_keep_include_of_name (name : '.' ∉ path.toList) (unlisted : path ∉ paths)
    (found : doc.getPath? path = some value) (scalar : value.object? = none) :
    (doc.keep (.include (paths ++ [path]))).removePath path = doc.keep (.include paths) := by
  have notCovered : ∀ p ∈ paths, Path.covers p path = false := fun p mem =>
    Bool.eq_false_iff.mpr fun covers => unlisted (Path.eq_of_covers_name name covers ▸ mem)
  have absent := getPath?_keep_include_eq_none notCovered found scalar
  rw [keep_include_append found, removePath, setPath]
  refine remove_write (distinctOnWay_keep_include fun p mem _ => notCovered p mem) ?_
  rw [getPath?, Path.segments_of_name name] at absent
  rw [Path.segments_of_name name]
  exact absent

/-! ### Exclusions -/

theorem removePath_comm (p q : String) :
    (doc.removePath p).removePath q = (doc.removePath q).removePath p := remove_comm

/-- Further removals and the removal of one more place can be done in either order. -/
theorem foldl_removePath_comm (paths : List String) (path : String) :
    paths.foldl removePath (doc.removePath path) = (paths.foldl removePath doc).removePath path := by
  induction paths generalizing doc with
  | nil => rfl
  | cons p rest ih => rw [List.foldl_cons, List.foldl_cons, removePath_comm, ih]

/-- Once a place is removed, its further removals do nothing. -/
theorem foldl_removePath_filter (paths : List String) (path : String) :
    (paths.filter (· ≠ path)).foldl removePath (doc.removePath path) =
      paths.foldl removePath (doc.removePath path) := by
  induction paths generalizing doc with
  | nil => rfl
  | cons p rest ih =>
      by_cases same : p = path
      · subst same
        have twice : (doc.removePath p).removePath p = doc.removePath p := remove_remove
        rw [List.filter_cons_of_neg (by simp), List.foldl_cons, twice, ih]
      · rw [List.filter_cons_of_pos (by simpa using same), List.foldl_cons, List.foldl_cons,
          removePath_comm, ih]

/-- A listed place has been removed already. -/
theorem removePath_keep_exclude_of_mem (mem : path ∈ paths) :
    (doc.keep (.exclude paths)).removePath path = doc.keep (.exclude paths) := by
  obtain ⟨before, after, rfl⟩ := List.append_of_mem mem
  rw [keep_exclude, List.foldl_append, List.foldl_cons, foldl_removePath_comm]
  exact remove_remove

/-- A place that is taken out of an exclusion and removed instead leaves the exclusion as it was. -/
theorem removePath_keep_exclude (mem : path ∈ paths) :
    (doc.keep (.exclude (paths.filter (· ≠ path)))).removePath path = doc.keep (.exclude paths) :=
  calc (doc.keep (.exclude (paths.filter (· ≠ path)))).removePath path
      = (paths.filter (· ≠ path)).foldl removePath (doc.removePath path) :=
        (foldl_removePath_comm _ _).symm
    _ = paths.foldl removePath (doc.removePath path) := foldl_removePath_filter paths path
    _ = (doc.keep (.exclude paths)).removePath path := foldl_removePath_comm paths path
    _ = doc.keep (.exclude paths) := removePath_keep_exclude_of_mem mem

end Document

end DocQuery
