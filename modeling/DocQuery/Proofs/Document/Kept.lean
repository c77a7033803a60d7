import DocQuery.Proofs.Document.Inclusion
import DocQuery.Proofs.Document.Without

/-!
# What a projection leaves at a place

A projection brings nothing new: what it leaves at a place is what the whole record has there,
perhaps with something taken out (`Json.Trimmed`), and its keys are those that the listed places
start with.

## Main definitions

* `Json.Trimmed`, `Document.exists_trimmed_of_keep`: what a projection leaves at a place
* `Document.mem_keys_keep_include`: the keys that an inclusion brings
-/

namespace DocQuery

/-! ### What a removal leaves at a place -/

/-- What a removal inside a value can leave of it; a list without objects loses nothing. -/
inductive Json.Trimmed : Json → Json → Prop where
  | same (v : Json) : Trimmed v v
  | object (members left : Document) : Trimmed (.object members) (.object left)
  | array (items left : List Json) (flat : (∀ item ∈ items, item.object? = none) → left = items) :
      Trimmed (.array items) (.array left)

theorem Json.Trimmed.trans {u v w : Json} (first : Trimmed u v) (second : Trimmed v w) :
    Trimmed u w := by
  cases first with
  | same => exact second
  | object members left => cases second <;> constructor
  | array items left flat =>
      cases second with
      | same => exact .array items left flat
      | array _ rest flat' =>
          refine .array items rest fun none => ?_
          obtain rfl := flat none
          exact flat' none

theorem Json.Trimmed.option_trans {a b c : Option Json} (first : Option.Rel Trimmed a b)
    (second : Option.Rel Trimmed b c) : Option.Rel Trimmed a c := by
  cases first with
  | none => exact second
  | some here =>
      cases second with
      | some there => exact .some (here.trans there)

/-- A change of the records in a value takes nothing out of a list without records. -/
theorem Json.trimmed_mapRecords (f : Document → Document) (v : Json) : v.Trimmed (v.mapRecords f) := by
  cases v with
  | object members => exact .object _ _
  | array items =>
      refine .array _ _ fun flat => ?_
      conv_rhs => rw [← List.map_id items]
      refine List.map_congr_left fun item mem => ?_
      have notObject := flat item mem
      cases item <;> first | rfl | cases notObject
  | _ => exact .same _

namespace Document

variable {doc : Document} {path above : List String} {key : String}

/-- A removal that is neither at a place nor above it leaves a trimmed value there, and none where
there was none. -/
theorem trimmed_remove (notBelow : ¬above <+: path) :
    Option.Rel Json.Trimmed (doc.descend? path) ((remove above doc).descend? path) := by
  by_cases nowhere : path = []
  · rw [nowhere, descend?, descend?]
    exact .none
  · by_cases covers : path <+: above
    · -- the removal goes on inside the value
      obtain ⟨rest, rfl⟩ := covers
      have more : rest ≠ [] := by
        rintro rfl
        exact notBelow (by rw [List.append_nil])
      rw [descend?_remove_append nowhere more]
      cases doc.descend? path with
      | none => exact .none
      | some v => exact .some (v.trimmed_mapRecords _)
    · rw [descend?_remove_of_apart notBelow covers]
      cases doc.descend? path with
      | none => exact .none
      | some v => exact .some (.same v)

/-- What an exclusion leaves at a place that it does not hide. -/
theorem trimmed_keep_exclude {path : String} {paths : List String}
    (shown : ∀ p ∈ paths, Path.covers p path = false) :
    Option.Rel Json.Trimmed (doc.getPath? path) ((doc.keep (.exclude paths)).getPath? path) := by
  suffices general : ∀ out : Document,
      Option.Rel Json.Trimmed (doc.getPath? path) (out.getPath? path) →
      Option.Rel Json.Trimmed (doc.getPath? path) ((paths.foldl removePath out).getPath? path) by
    refine general doc ?_
    cases doc.getPath? path with
    | none => exact .none
    | some v => exact .some (.same v)
  induction paths with
  | nil => exact fun out before => before
  | cons p rest ih =>
      intro out before
      refine ih (fun q mem => shown q (List.mem_cons_of_mem _ mem)) _ ?_
      have notBelow : ¬Path.segments p <+: Path.segments path := by
        rw [← Path.covers_iff, shown p List.mem_cons_self]
        decide
      have step : Option.Rel Json.Trimmed (out.getPath? path) ((out.removePath p).getPath? path) :=
        trimmed_remove notBelow
      exact Json.Trimmed.option_trans before step

/-- **A projection brings nothing new**: what it leaves at a place is what the whole record has
there, perhaps with something left out. -/
theorem exists_trimmed_of_keep {path : String} {fields : Projection.Fields} {value : Json}
    (found : (doc.keep fields).getPath? path = some value) :
    ∃ whole, doc.getPath? path = some whole ∧ whole.Trimmed value := by
  cases fields with
  | all => exact ⟨value, found, .same value⟩
  | «include» paths =>
      cases showsOnly_keep_include doc paths path value found with
      | own _ whole below => exact ⟨value, whole, .same value⟩
      | onTheWay members above =>
          obtain ⟨p, -, differ, covers, some⟩ := above
          obtain ⟨v, copied⟩ := Option.ne_none_iff_exists'.mp some
          obtain ⟨whole, here⟩ := exists_object_of_covers copied covers differ
          exact ⟨_, here, .object whole members⟩
  | exclude paths =>
      by_cases hidden : ∃ p ∈ paths, Path.covers p path = true
      · rw [getPath?_keep_exclude hidden] at found
        cases found
      · have shown : ∀ p ∈ paths, Path.covers p path = false := by simpa using hidden
        have related := @trimmed_keep_exclude doc path paths shown
        rw [found] at related
        generalize doc.getPath? path = whole at related ⊢
        cases related with
        | some trimmed => exact ⟨_, rfl, trimmed⟩

/-! ### The keys that an inclusion brings -/

/-- Copying a place brings no key but the first one of its path, and that one only if the place has
a value. -/
theorem mem_keys_copyPath {out : Document} {other : String} (mem : key ∈ (doc.copyPath out other).keys) :
    key ∈ out.keys ∨ Path.root other = key ∧ doc.getPath? other ≠ none := by
  unfold copyPath at mem
  cases found : doc.getPath? other with
  | none =>
      rw [found] at mem
      exact .inl mem
  | some value =>
      rw [found] at mem
      dsimp only at mem
      obtain ⟨v, written⟩ := out.exists_setPath_eq_insert other value
      rw [written, mem_keys_insert] at mem
      rcases mem with rfl | before
      · exact .inr ⟨rfl, by simp⟩
      · exact .inl before

/-- The keys that an inclusion brings are those that the listed places start with. -/
theorem mem_keys_keep_include {paths : List String} (mem : key ∈ (doc.keep (.include paths)).keys) :
    ∃ p ∈ paths, Path.root p = key ∧ doc.getPath? p ≠ none := by
  suffices general : ∀ out : Document, key ∈ (paths.foldl doc.copyPath out).keys →
      key ∈ out.keys ∨ ∃ p ∈ paths, Path.root p = key ∧ doc.getPath? p ≠ none by
    rcases general [] mem with empty | listed
    · cases empty
    · exact listed
  clear mem
  induction paths with
  | nil => exact fun out mem => .inl mem
  | cons p rest ih =>
      intro out mem
      rcases ih _ mem with before | ⟨q, inRest, starts⟩
      · rcases mem_keys_copyPath before with before | starts
        · exact .inl before
        · exact .inr ⟨p, List.mem_cons_self, starts⟩
      · exact .inr ⟨q, List.mem_cons_of_mem _ inRest, starts⟩

end Document

end DocQuery
