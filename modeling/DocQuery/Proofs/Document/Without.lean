import DocQuery.Proofs.Document.Projection

/-!
# Records without some of their fields

Two records that agree once some fields are taken away are told apart by no path that starts at
another field, and by no projection that either copies such paths only or takes those fields away
itself.

## Main definitions

* `Document.without`: a record without some fields
* `Document.lookup_without`, `Document.getPath?_without`
* `Projection.Blind`, `Projection.blind_include`, `Projection.blind_exclude`: projections that do
  not tell such records apart
-/

namespace DocQuery

/-- A record without the fields of the given names. -/
def Document.without (names : List String) (doc : Document) : Document :=
  doc.filter fun member => !names.contains member.1

/-- A projection that keeps the same of a record whether or not it has the named fields. -/
def Projection.Blind (names : List String) (p : Projection) : Prop :=
  ∀ doc : Document, (doc.without names).keep p.fields = doc.keep p.fields

namespace Document

variable {names : List String} {doc : Document} {key path : String}

/-! ### Reading -/

theorem get?_without (visible : key ∉ names) : (doc.without names).get? key = doc.get? key := by
  rw [without, get?_filter fun k => !names.contains k]
  simp [visible]

theorem lookup_without (visible : Path.root path ∉ names) :
    (doc.without names).lookup path = doc.lookup path := by
  rw [lookup, lookup, Path.segments_eq_cons]
  simp only [get?_without visible]

theorem getPath?_without (visible : Path.root path ∉ names) :
    (doc.without names).getPath? path = doc.getPath? path := by
  rw [getPath?, getPath?, Path.segments_eq_cons]
  cases rest : (Path.segments path).tail with
  | nil => exact get?_without visible
  | cons s more => rw [descend?_cons (by simp), descend?_cons (by simp), get?_without visible]

/-! ### Removing -/

theorem erase_eq_without (key : String) : doc.erase key = doc.without [key] := by
  rw [erase, without]
  refine List.filter_congr fun member _ => ?_
  simp

theorem without_erase (key : String) :
    (doc.erase key).without names = (doc.without names).erase key := by
  rw [without, without, erase, erase, List.filter_filter, List.filter_filter]
  simp only [Bool.and_comm]

theorem without_adjust (key : String) (f : Json → Json) :
    (doc.adjust key f).without names = (doc.without names).adjust key f := by
  rw [without, without, adjust, adjust, List.filter_map]
  congr 2
  funext member
  obtain ⟨k, v⟩ := member
  by_cases same : k = key <;> simp [same]

/-- Removing a path and taking fields away can be done in either order. -/
theorem without_removePath (path : String) :
    (doc.removePath path).without names = (doc.without names).removePath path := by
  rw [removePath, removePath, Path.segments_eq_cons]
  -- a removal erases a field or rewrites the value of one, whichever fields are there
  by_cases last : (Path.segments path).tail = []
  · rw [last]
    exact without_erase _
  · rw [remove_cons last, remove_cons last, without_adjust]

theorem without_foldl_removePath (paths : List String) :
    (paths.foldl removePath doc).without names = paths.foldl removePath (doc.without names) := by
  induction paths generalizing doc with
  | nil => rfl
  | cons path rest ih => rw [List.foldl_cons, List.foldl_cons, ih, without_removePath]

/-- An exclusion takes away the fields that it names. -/
theorem notMem_keys_keep_exclude {paths : List String} (name : '.' ∉ key.toList)
    (mem : key ∈ paths) : key ∉ (doc.keep (.exclude paths)).keys := by
  have hidden : (doc.keep (.exclude paths)).getPath? key = none :=
    getPath?_keep_exclude ⟨key, mem, Path.covers_iff.mpr List.prefix_rfl⟩
  rw [getPath?, Path.segments_of_name name] at hidden
  exact get?_eq_none_iff.mp hidden

theorem without_eq_self (absent : ∀ name ∈ names, name ∉ doc.keys) : doc.without names = doc := by
  refine List.filter_eq_self.mpr fun member mem => ?_
  have notNamed : member.1 ∉ names := fun named => absent _ named (mem_keys_of_mem mem)
  simpa using notNamed

end Document

/-! ### Projections -/

namespace Projection

variable {names paths : List String} {score : Option String}

/-- An inclusion of paths that start at other fields is blind. -/
theorem blind_include (visible : ∀ path ∈ paths, Path.root path ∉ names) :
    Blind names ⟨.include paths, score⟩ := by
  intro doc
  rw [Document.keep_include, Document.keep_include]
  refine List.foldl_ext _ _ _ fun out path mem => ?_
  rw [Document.copyPath, Document.copyPath, Document.getPath?_without (visible path mem)]

/-- An exclusion of all the named fields is blind. -/
theorem blind_exclude (plain : ∀ name ∈ names, '.' ∉ name.toList) (all : names ⊆ paths) :
    Blind names ⟨.exclude paths, score⟩ := by
  intro doc
  -- the listed fields are gone either way, and taking them away first changes nothing
  have gone : (doc.keep (.exclude paths)).without names = doc.keep (.exclude paths) :=
    Document.without_eq_self fun name mem =>
      Document.notMem_keys_keep_exclude (plain name mem) (all mem)
  rw [← gone]
  exact (Document.without_foldl_removePath paths).symm

theorem blind_nil (p : Projection) : Blind [] p := by
  intro doc
  rw [Document.without_eq_self (by simp)]

end Projection

end DocQuery
