import DocQuery.Proofs.Query.RereadSelection

/-!
# Selections in canonical form

The canonical form of a selection is a list of texts, which is a selection again, and bringing it
into canonical form once more should change nothing.  Two of the three steps cannot do harm: an
entry that is listed once stays so (`Selection.distinct_eq_self`), and where the exclusions beside
an inclusion have been dropped, none is left to drop (`Selection.prune_prune`).

What remains is the splitting of texts.  What it finds once it finds again
(`Selection.splitFields_of_mem`), so the entries of a text or of a list of texts are stable.  The
entries of a map are not found by splitting: they are its keys.  A key with a comma is one entry at
first and several later, and an entry that is a lone dash is one at first and none later.  These are
the only two ways in which a canonical form can change.

## Main definitions

* `Selection.prune`: what bringing entries into canonical form drops
* `Selection.IsPlainKey`: the keys of a map that are read as what they are
* `SelectSpec.normalize_normalize`
-/

namespace DocQuery

namespace Selection

open Projection

variable {entries : List String} {entry text idField : String}

/-! ### Pointless exclusions -/

/-- Entries without the exclusions that inclusions make pointless. -/
def prune (idField : String) (entries : List String) : List String :=
  if hasInclusion entries then
    entries.filter fun entry => !isExclusion entry || entry == "-" ++ idField
  else entries

theorem prune_sublist (idField : String) (entries : List String) :
    (prune idField entries).Sublist entries := by
  unfold prune
  split
  · exact List.filter_sublist
  · exact List.Sublist.refl entries

theorem prune_prune (idField : String) (entries : List String) :
    prune idField (prune idField entries) = prune idField entries := by
  cases inclusion : hasInclusion entries with
  | false =>
      have all : prune idField entries = entries := by simp [prune, inclusion]
      rw [all, all]
  | true =>
      have kept : prune idField entries =
          entries.filter fun entry => !isExclusion entry || entry == "-" ++ idField := if_pos inclusion
      -- the inclusion itself is not dropped
      obtain ⟨shown, mem, plain⟩ := hasInclusion_iff.mp inclusion
      have still : hasInclusion (prune idField entries) = true := by
        refine hasInclusion_iff.mpr ⟨shown, ?_, plain⟩
        rw [kept]
        exact List.mem_filter.mpr ⟨mem, by simp [plain]⟩
      rw [prune, if_pos still, kept, List.filter_filter]
      simp only [Bool.and_self]

/-! ### Entries that splitting finds -/

/-- What splitting finds once it finds again. -/
theorem splitFields_of_mem (mem : entry ∈ splitFields text) : splitFields entry = [entry] := by
  have counts : entry ≠ "-" := by
    rintro rfl
    exact absurd (List.mem_filter.mp mem).2 (by decide)
  rw [(isAtomic_of_mem_splitFields mem).splitFields_eq, if_neg counts]

/-- A trimmed entry is read as itself unless it has a comma or is a lone dash. -/
theorem splitFields_eq_self_iff (trimmed : Text.trim entry = entry) (nonempty : entry ≠ "") :
    splitFields entry = [entry] ↔ ',' ∉ entry.toList ∧ entry ≠ "-" := by
  constructor
  · intro found
    have mem : entry ∈ splitFields entry := by simp [found]
    refine ⟨(isAtomic_of_mem_splitFields mem).whole, ?_⟩
    rintro rfl
    exact absurd found (by decide)
  · rintro ⟨whole, counts⟩
    rw [IsAtomic.splitFields_eq ⟨whole, trimmed, nonempty⟩, if_neg counts]

theorem flatMap_splitFields_eq_self (found : ∀ entry ∈ entries, splitFields entry = [entry]) :
    entries.flatMap splitFields = entries := by
  rw [List.flatMap_congr found, List.flatMap_singleton']

/-- A key without commas in which there is more than dashes, if there is anything but blanks. -/
structure IsPlainKey (key : String) : Prop where
  whole : ',' ∉ key.toList
  named : Text.trim key ≠ "" → excludedPath (Text.trim key) ≠ ""

/-- The entry of a plain key is not a lone dash. -/
theorem IsPlainKey.entry_ne_dash {member : String × Json} (plain : IsPlainKey member.1)
    (read : entryOfFlag member = some entry) : entry ≠ "-" := by
  unfold entryOfFlag at read
  dsimp only at read
  split at read
  · cases read
  · next nonempty =>
      have named := plain.named (by simpa using nonempty)
      split at read
      · obtain rfl := Option.some.inj read
        intro dash
        rw [dash] at named
        exact named (by decide)
      · obtain rfl := Option.some.inj read
        intro dash
        have chars := congrArg String.toList dash
        rw [toList_dash] at chars
        exact named (String.toList_eq_nil_iff.mp (List.cons.inj chars).2)

end Selection

namespace SelectSpec

open Selection

variable {spec : SelectSpec} {entry idField : String}

theorem normalize_eq_prune (spec : SelectSpec) (idField : String) :
    spec.normalize idField = prune idField spec.entries := rfl

theorem nodup_normalize : (spec.normalize idField).Nodup :=
  (nodup_distinct _).sublist (prune_sublist idField spec.entries)

/-- The entries of a selection of any form are trimmed, and there is something in them. -/
theorem trim_of_mem_entries (mem : entry ∈ spec.entries) : Text.trim entry = entry ∧ entry ≠ "" := by
  replace mem := mem_distinct.mp mem
  cases spec with
  | text s =>
      have atomic := isAtomic_of_mem_splitFields mem
      exact ⟨atomic.trimmed, atomic.nonempty⟩
  | list texts =>
      obtain ⟨text, -, mem⟩ := List.mem_flatMap.mp mem
      have atomic := isAtomic_of_mem_splitFields mem
      exact ⟨atomic.trimmed, atomic.nonempty⟩
  | map flags =>
      obtain ⟨member, -, read⟩ := List.mem_filterMap.mp mem
      exact trim_of_entryOfFlag read

/-- The entries of a list of texts are found by splitting. -/
theorem splitFields_of_mem_normalize_list {texts : List String}
    (mem : entry ∈ (SelectSpec.list texts).normalize idField) : splitFields entry = [entry] := by
  have listed : entry ∈ (SelectSpec.list texts).entries := (prune_sublist idField _).subset mem
  obtain ⟨text, -, found⟩ := List.mem_flatMap.mp (mem_distinct.mp listed)
  exact splitFields_of_mem found

/-- Entries without repetitions that are read as themselves are the entries of their list. -/
theorem entries_list_eq_self {entries : List String} (nodup : entries.Nodup)
    (found : ∀ entry ∈ entries, splitFields entry = [entry]) :
    (SelectSpec.list entries).entries = entries := by
  show distinct (entries.flatMap splitFields) = entries
  rw [flatMap_splitFields_eq_self found, distinct_eq_self nodup]

/-- A canonical form stays as it is exactly if splitting leaves each of its entries as it is. -/
theorem normalize_list_normalize_iff (spec : SelectSpec) (idField : String) :
    (SelectSpec.list (spec.normalize idField)).normalize idField = spec.normalize idField ↔
      ∀ entry ∈ spec.normalize idField, splitFields entry = [entry] := by
  constructor
  · intro stable entry mem
    rw [← stable] at mem
    exact splitFields_of_mem_normalize_list mem
  · intro found
    calc (SelectSpec.list (spec.normalize idField)).normalize idField
        = prune idField (SelectSpec.list (spec.normalize idField)).entries :=
          normalize_eq_prune _ idField
      _ = prune idField (spec.normalize idField) := by
          rw [entries_list_eq_self nodup_normalize found]
      _ = spec.normalize idField := prune_prune idField spec.entries

/-- **When canonical forms are stable.**  Bringing a canonical form into canonical form changes it
exactly if one of its entries has a comma or is a lone dash.  Neither happens for a text or a list of
texts, nor for a map of plain keys. -/
theorem normalize_normalize (spec : SelectSpec) (idField : String) :
    let again := (SelectSpec.list (spec.normalize idField)).normalize idField
    (again = spec.normalize idField ↔
        ∀ entry ∈ spec.normalize idField, ',' ∉ entry.toList ∧ entry ≠ "-") ∧
      ((∀ key ∈ spec.keys, IsPlainKey key) → again = spec.normalize idField) := by
  intro again
  have stable_iff : again = spec.normalize idField ↔
      ∀ entry ∈ spec.normalize idField, ',' ∉ entry.toList ∧ entry ≠ "-" := by
    refine (normalize_list_normalize_iff spec idField).trans (forall₂_congr fun entry mem => ?_)
    obtain ⟨trimmed, nonempty⟩ := trim_of_mem_entries ((prune_sublist idField _).subset mem)
    exact splitFields_eq_self_iff trimmed nonempty
  refine ⟨stable_iff, fun plain => stable_iff.mpr fun entry mem => ?_⟩
  have listed : entry ∈ spec.entries := (prune_sublist idField _).subset mem
  refine ⟨(isAtomic_of_mem_entries (fun key inKeys => (plain key inKeys).whole) listed).whole, ?_⟩
  cases spec with
  | text s =>
      rintro rfl
      exact absurd (splitFields_of_mem (mem_distinct.mp listed)) (by decide)
  | list texts =>
      rintro rfl
      exact absurd (splitFields_of_mem_normalize_list mem) (by decide)
  | map flags =>
      obtain ⟨member, inFlags, read⟩ := List.mem_filterMap.mp (mem_distinct.mp listed)
      exact (plain member.1 (List.mem_map_of_mem inFlags)).entry_ne_dash read

/-- A text and a map whose canonical forms are stable, a map with two names in one key, and a map
with a dash for a key. -/
theorem normalize_normalize_names :
    let again (spec : SelectSpec) := (SelectSpec.list (spec.normalize "_id")).normalize "_id"
    let flags (keys : List String) : SelectSpec := .map (keys.map fun key => (key, .bool true))
    again (.text "b,a,-_id,-c,a") = ["b", "a", "-_id"] ∧
      again (flags [" name ", "email"]) = (flags [" name ", "email"]).normalize "_id" ∧
      again (flags ["name,email"]) ≠ (flags ["name,email"]).normalize "_id" ∧
      again (flags ["-"]) ≠ (flags ["-"]).normalize "_id" := by
  intro again flags
  refine ⟨?_, ?_, ?_, ?_⟩
  · exact (normalize_normalize (.text "b,a,-_id,-c,a") "_id").2 nofun
  · refine (normalize_normalize (flags [" name ", "email"]) "_id").2 fun key listed => ?_
    rcases List.mem_pair.mp listed with rfl | rfl
    · exact ⟨by decide, by decide⟩
    · exact ⟨by decide, by decide⟩
  · intro stable
    have alone := (normalize_normalize (flags ["name,email"]) "_id").1.mp stable "name,email"
    exact absurd (alone (by decide)).1 (by decide)
  · intro stable
    have alone := (normalize_normalize (flags ["-"]) "_id").1.mp stable "-"
    exact absurd rfl (alone (by decide)).2

end SelectSpec

end DocQuery
