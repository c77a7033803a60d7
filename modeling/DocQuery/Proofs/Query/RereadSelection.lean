import DocQuery.Proofs.Query.Selection
import DocQuery.Proofs.Text.Trim
import DocQuery.Query.Request

/-!
# Rewritten selections, read again

The guard of a request reads its selection, takes the inclusions of restricted fields out of it,
adds exclusions where no inclusion is left, and puts a list of texts in its place.  When the request
is brought into canonical form, the texts of that list are split at commas and trimmed once more.
The rewrite promises that no inclusion of a restricted field is found then, and that every
restricted field is excluded where no inclusion is found at all (`Selection.Hides`).

The entries of a text or of a list of texts have been split and trimmed before the guard sees them,
and are read as themselves again (`Selection.IsAtomic`).  The keys of a map have only been trimmed.
A key with a comma is one entry to the guard and several to the second reading, so that an inclusion
of a restricted field can pass the guard beside another name, or an inclusion can turn out to be
none.  The promise is kept exactly if what is found in the kept entries keeps it.

## Main definitions

* `Selection.Hides`: the promise
* `Selection.kept`: the entries that the guard keeps
* `Selection.IsEntryName`: the names whose exclusions are read as themselves
* `guarded_selection_hides`
-/

namespace DocQuery

namespace Selection

open Projection

variable {entries entries' restricted : List String} {entry part field text : String}

/-- A selection hides restricted fields: it includes none of them, and where it includes nothing it
excludes each of them. -/
structure Hides (entries restricted : List String) : Prop where
  unrestricted : ∀ entry ∈ entries, isExclusion entry = false → isRestricted restricted entry = false
  excluded : hasInclusion entries = false → ∀ field ∈ restricted, "-" ++ field ∈ entries

/-- The entries that the guard keeps: exclusions, and inclusions that are not restricted. -/
def kept (entries restricted : List String) : List String :=
  entries.filter fun entry => isExclusion entry || !isRestricted restricted entry

/-- A name of a restricted field whose exclusion is read as itself: there is something to exclude,
and neither a comma nor a blank at the end is lost. -/
structure IsEntryName (name : String) : Prop where
  nonempty : name ≠ ""
  whole : ',' ∉ name.toList
  unpadded : ∀ c ∈ name.toList.getLast?, Text.isBlank c = false

theorem hasInclusion_iff :
    hasInclusion entries = true ↔ ∃ entry ∈ entries, isExclusion entry = false := by
  simp [hasInclusion]

/-! ### The promise -/

/-- What a selection hides does not depend on the order of its entries. -/
theorem hides_congr (same : ∀ entry, entry ∈ entries ↔ entry ∈ entries') :
    Hides entries restricted ↔ Hides entries' restricted := by
  have inclusion : hasInclusion entries = hasInclusion entries' := by
    rw [Bool.eq_iff_iff, hasInclusion_iff, hasInclusion_iff]
    simp only [same]
  constructor
  · rintro ⟨unrestricted, excluded⟩
    refine ⟨fun entry mem => unrestricted entry ((same entry).mpr mem), fun none field listed => ?_⟩
    exact (same _).mp (excluded (inclusion.trans none) field listed)
  · rintro ⟨unrestricted, excluded⟩
    refine ⟨fun entry mem => unrestricted entry ((same entry).mp mem), fun none field listed => ?_⟩
    exact (same _).mpr (excluded (inclusion.symm.trans none) field listed)

/-- Dropping the exclusions that inclusions make pointless makes no difference. -/
theorem hides_normalize_iff {spec : SelectSpec} {idField : String} :
    Hides (spec.normalize idField) restricted ↔ Hides spec.entries restricted := by
  unfold SelectSpec.normalize
  dsimp only
  split
  · next inclusion =>
      obtain ⟨shown, mem, plain⟩ := hasInclusion_iff.mp inclusion
      have stays : ∀ entry ∈ spec.entries, isExclusion entry = false →
          entry ∈ spec.entries.filter fun e => !isExclusion e || e == "-" ++ idField := by
        intro entry mem plain
        refine List.mem_filter.mpr ⟨mem, ?_⟩
        rw [plain]
        rfl
      constructor
      · rintro ⟨unrestricted, -⟩
        refine ⟨fun entry mem plain => unrestricted entry (stays entry mem plain) plain, ?_⟩
        rw [inclusion]
        nofun
      · rintro ⟨unrestricted, -⟩
        refine ⟨fun entry mem => unrestricted entry (List.mem_filter.mp mem).1, ?_⟩
        rw [hasInclusion_iff.mpr ⟨shown, stays shown mem plain, plain⟩]
        nofun
  · exact Iff.rfl

theorem mem_restrict_iff (some : restricted ≠ []) :
    entry ∈ restrict entries restricted ↔
      entry ∈ kept entries restricted ∨
        (hasInclusion (kept entries restricted) = false ∧
          ∃ field ∈ restricted, "-" ++ field = entry) := by
  rw [restrict, if_neg (by simpa using some)]
  change entry ∈ (if hasInclusion (kept entries restricted) = true then _ else _) ↔ _
  split
  · next inclusion =>
      rw [inclusion]
      simp only [Bool.true_eq_false, false_and, or_false]
      exact Iff.rfl
  · next inclusion =>
      rw [Bool.not_eq_true] at inclusion
      rw [inclusion, mem_foldl_addMissing (fun field => "-" ++ field)]
      simp only [true_and]
      exact Iff.rfl

/-- What is found in rewritten entries: what is found in the kept ones, and the exclusions that have
been added. -/
theorem mem_reread_restrict_iff (some : restricted ≠ [])
    (names : ∀ field ∈ restricted, splitFields ("-" ++ field) = ["-" ++ field]) :
    part ∈ (restrict entries restricted).flatMap splitFields ↔
      part ∈ (kept entries restricted).flatMap splitFields ∨
        (hasInclusion (kept entries restricted) = false ∧
          ∃ field ∈ restricted, "-" ++ field = part) := by
  simp only [List.mem_flatMap, mem_restrict_iff some]
  constructor
  · rintro ⟨entry, inKept | ⟨none, field, listed, rfl⟩, mem⟩
    · exact .inl ⟨entry, inKept, mem⟩
    · rw [names field listed] at mem
      exact .inr ⟨none, field, listed, (List.mem_singleton.mp mem).symm⟩
  · rintro (⟨entry, inKept, mem⟩ | ⟨none, field, listed, rfl⟩)
    · exact ⟨entry, .inl inKept, mem⟩
    · refine ⟨_, .inr ⟨none, field, listed, rfl⟩, ?_⟩
      rw [names field listed]
      exact List.mem_singleton_self _

/-- **When the rewrite keeps its promise**: what is found in the kept entries includes no restricted
field, and where an inclusion is kept, an inclusion is found or every restricted field is excluded
all the same. -/
theorem hides_reread_restrict_iff (some : restricted ≠ [])
    (names : ∀ field ∈ restricted, splitFields ("-" ++ field) = ["-" ++ field]) :
    Hides ((restrict entries restricted).flatMap splitFields) restricted ↔
      (∀ part ∈ (kept entries restricted).flatMap splitFields,
          isExclusion part = false → isRestricted restricted part = false) ∧
        (hasInclusion (kept entries restricted) = true →
          hasInclusion ((kept entries restricted).flatMap splitFields) = true ∨
            ∀ field ∈ restricted, "-" ++ field ∈ (kept entries restricted).flatMap splitFields) := by
  have found := fun part => @mem_reread_restrict_iff entries restricted part some names
  cases inclusion : hasInclusion (kept entries restricted) with
  | false =>
      constructor
      · rintro ⟨unrestricted, -⟩
        exact ⟨fun part mem => unrestricted part ((found part).mpr (.inl mem)), nofun⟩
      · rintro ⟨unrestricted, -⟩
        refine ⟨fun part mem plain => ?_, fun _ field listed => ?_⟩
        · rcases (found part).mp mem with mem | ⟨-, field, -, rfl⟩
          · exact unrestricted part mem plain
          · rw [isExclusion_dash] at plain
            cases plain
        · exact (found _).mpr (.inr ⟨inclusion, field, listed, rfl⟩)
  | true =>
      have same : ∀ part, part ∈ (restrict entries restricted).flatMap splitFields ↔
          part ∈ (kept entries restricted).flatMap splitFields := by
        intro part
        rw [found, inclusion]
        simp only [Bool.true_eq_false, false_and, or_false]
      rw [hides_congr same]
      constructor
      · rintro ⟨unrestricted, excluded⟩
        refine ⟨unrestricted, fun _ => ?_⟩
        cases shown : hasInclusion ((kept entries restricted).flatMap splitFields) with
        | false => exact .inr (excluded shown)
        | true => exact .inl rfl
      · rintro ⟨unrestricted, shown⟩
        refine ⟨unrestricted, fun none => (shown rfl).resolve_left ?_⟩
        rw [none]
        exact Bool.false_ne_true

/-! ### Entries that are read as themselves -/

/-- An entry that splitting and trimming leave as it is. -/
structure IsAtomic (entry : String) : Prop where
  whole : ',' ∉ entry.toList
  trimmed : Text.trim entry = entry
  nonempty : entry ≠ ""

/-- An atomic entry is read as itself, but for a lone dash, which counts for nothing. -/
theorem IsAtomic.splitFields_eq (atomic : IsAtomic entry) :
    splitFields entry = if entry = "-" then [] else [entry] := by
  rw [splitFields, Text.splitOnChar_of_notMem atomic.whole, List.map_singleton, atomic.trimmed]
  by_cases dash : entry = "-" <;> simp [dash, atomic.nonempty]

theorem isAtomic_of_mem_splitFields (mem : entry ∈ splitFields text) : IsAtomic entry := by
  obtain ⟨inParts, counts⟩ := List.mem_filter.mp mem
  obtain ⟨piece, inPieces, rfl⟩ := List.mem_map.mp inParts
  refine ⟨?_, Text.trim_trim piece, ?_⟩
  · rw [Text.trim, String.toList_ofList, Text.mem_trimChars_iff (by decide)]
    exact Text.notMem_of_mem_splitOnChar inPieces
  · intro empty
    rw [empty] at counts
    exact absurd counts (by decide)

theorem toList_dash (name : String) : ("-" ++ name).toList = '-' :: name.toList := by
  rw [String.toList_append]
  rfl

theorem dash_ne_empty : "-" ++ field ≠ "" := by
  intro empty
  have chars := congrArg String.toList empty
  rw [toList_dash] at chars
  cases chars

theorem toList_trim (text : String) : (Text.trim text).toList = Text.trimChars text.toList :=
  String.toList_ofList

/-- An exclusion is trimmed if the excluded name does not end with a blank. -/
theorem trim_dash (unpadded : ∀ c ∈ field.toList.getLast?, Text.isBlank c = false) :
    Text.trim ("-" ++ field) = "-" ++ field := by
  have chars : Text.trimChars ('-' :: field.toList) = '-' :: field.toList := by
    refine Text.trimChars_eq_self ?_ ?_
    · rintro c ⟨⟩
      decide
    · intro c last
      cases rest : field.toList with
      | nil =>
          rw [rest] at last
          obtain rfl : '-' = c := Option.some.inj last
          decide
      | cons d more =>
          rw [rest, List.getLast?_cons_cons] at last
          exact unpadded c (rest ▸ last)
  rw [Text.trim, toList_dash, chars, ← toList_dash, String.ofList_toList]

theorem isAtomic_dash (whole : ',' ∉ field.toList)
    (unpadded : ∀ c ∈ field.toList.getLast?, Text.isBlank c = false) :
    IsAtomic ("-" ++ field) := by
  refine ⟨?_, trim_dash unpadded, dash_ne_empty⟩
  rw [toList_dash, List.mem_cons, not_or]
  exact ⟨by decide, whole⟩

theorem IsEntryName.splitFields_dash (name : IsEntryName field) :
    splitFields ("-" ++ field) = ["-" ++ field] := by
  rw [(isAtomic_dash name.whole name.unpadded).splitFields_eq, if_neg]
  intro dash
  have chars := congrArg String.toList dash
  rw [toList_dash] at chars
  exact name.nonempty (String.toList_eq_nil_iff.mp (List.cons.inj chars).2)

/-- What is found in atomic entries: the entries, but for lone dashes. -/
theorem mem_flatMap_splitFields (atomic : ∀ entry ∈ entries, IsAtomic entry) :
    part ∈ entries.flatMap splitFields ↔ part ∈ entries ∧ part ≠ "-" := by
  rw [List.mem_flatMap]
  constructor
  · rintro ⟨entry, mem, found⟩
    rw [(atomic entry mem).splitFields_eq] at found
    split at found
    · cases found
    · next counts =>
        obtain rfl := List.mem_singleton.mp found
        exact ⟨mem, counts⟩
  · rintro ⟨mem, counts⟩
    refine ⟨part, mem, ?_⟩
    rw [(atomic part mem).splitFields_eq, if_neg counts]
    exact List.mem_singleton_self part

/-- Atomic entries are read as the guard has read them, so that the rewrite keeps its promise. -/
theorem hides_reread_restrict_of_isAtomic (some : restricted ≠ [])
    (names : ∀ field ∈ restricted, IsEntryName field)
    (atomic : ∀ entry ∈ entries, IsAtomic entry) :
    Hides ((restrict entries restricted).flatMap splitFields) restricted := by
  have atomicKept : ∀ entry ∈ kept entries restricted, IsAtomic entry :=
    fun entry mem => atomic entry (List.mem_filter.mp mem).1
  rw [hides_reread_restrict_iff some fun field listed => (names field listed).splitFields_dash]
  constructor
  · intro part found plain
    obtain ⟨inKept, -⟩ := (mem_flatMap_splitFields atomicKept).mp found
    have passed := (List.mem_filter.mp inKept).2
    rw [plain, Bool.false_or, Bool.not_eq_true'] at passed
    exact passed
  · intro inclusion
    obtain ⟨shown, inKept, plain⟩ := hasInclusion_iff.mp inclusion
    have counts : shown ≠ "-" := by
      rintro rfl
      exact absurd plain (by decide)
    exact .inl (hasInclusion_iff.mpr
      ⟨shown, (mem_flatMap_splitFields atomicKept).mpr ⟨inKept, counts⟩, plain⟩)

/-- The entry of a flag is trimmed, and there is something in it. -/
theorem trim_of_entryOfFlag {member : String × Json} (read : entryOfFlag member = some entry) :
    Text.trim entry = entry ∧ entry ≠ "" := by
  unfold entryOfFlag at read
  dsimp only at read
  split at read
  · cases read
  · next nonempty =>
      split at read
      · obtain rfl := Option.some.inj read
        exact ⟨Text.trim_trim _, by simpa using nonempty⟩
      · obtain rfl := Option.some.inj read
        refine ⟨trim_dash ?_, dash_ne_empty⟩
        -- the excluded name is the end of a trimmed key
        obtain ⟨dashes, split⟩ := List.dropWhile_suffix (l := (Text.trim member.1).toList) (· = '-')
        intro c last
        rw [excludedPath, String.toList_ofList] at last
        have trimmedLast : c ∈ (Text.trimChars member.1.toList).getLast? := by
          rw [← toList_trim, ← split, List.getLast?_append, Option.mem_def.mp last]
          rfl
        exact Text.isBlank_getLast?_trimChars c trimmedLast

/-- The entry of a flag is atomic if the key of the flag has no comma. -/
theorem isAtomic_of_entryOfFlag {member : String × Json} (whole : ',' ∉ member.1.toList)
    (read : entryOfFlag member = some entry) : IsAtomic entry := by
  obtain ⟨trimmed, nonempty⟩ := trim_of_entryOfFlag read
  refine ⟨?_, trimmed, nonempty⟩
  have trimmedWhole : ',' ∉ (Text.trim member.1).toList := by
    rw [toList_trim, Text.mem_trimChars_iff (by decide)]
    exact whole
  unfold entryOfFlag at read
  dsimp only at read
  split at read
  · cases read
  · split at read
    · obtain rfl := Option.some.inj read
      exact trimmedWhole
    · obtain rfl := Option.some.inj read
      rw [toList_dash, excludedPath, String.toList_ofList, List.mem_cons, not_or]
      exact ⟨by decide, fun mem => trimmedWhole ((List.dropWhile_sublist _).subset mem)⟩

end Selection

/-- The keys of a selection, if it is a map. -/
def SelectSpec.keys : SelectSpec → List String
  | .map flags => flags.keys
  | _ => []

/-- The entries of a selection are atomic, unless it is a map with a comma in one of its keys. -/
theorem SelectSpec.isAtomic_of_mem_entries {spec : SelectSpec}
    (whole : ∀ key ∈ spec.keys, ',' ∉ key.toList) {entry : String} (mem : entry ∈ spec.entries) :
    Selection.IsAtomic entry := by
  replace mem := Selection.mem_distinct.mp mem
  cases spec with
  | text s => exact Selection.isAtomic_of_mem_splitFields mem
  | list texts =>
      obtain ⟨text, -, mem⟩ := List.mem_flatMap.mp mem
      exact Selection.isAtomic_of_mem_splitFields mem
  | map flags =>
      obtain ⟨member, inFlags, read⟩ := List.mem_filterMap.mp mem
      exact Selection.isAtomic_of_entryOfFlag
        (whole member.1 (List.mem_map_of_mem inFlags)) read

/-- **What the selection of a guarded request hides when it is brought into canonical form.**  A
selection without commas in the keys of a map hides every restricted field.  Any other one does
exactly if the entries that the guard keeps, read again, include no restricted field and, where the
guard has seen an inclusion and added no exclusions, still include something or exclude every
restricted field as they are. -/
theorem guarded_selection_hides {c : Collection} {request : Request} {restricted : List String}
    (fields : Request.unionFields request.restrictedFields c.restrictedFields = restricted)
    (nonempty : restricted ≠ []) (names : ∀ field ∈ restricted, Selection.IsEntryName field)
    (idField : String) :
    let kept := Selection.kept ((request.fields.map SelectSpec.entries).getD []) restricted
    let found := kept.flatMap Selection.splitFields
    ∃ spec, (request.enforceRestrictions c).fields = some spec ∧
      ((∀ asked ∈ request.fields, ∀ key ∈ asked.keys, ',' ∉ key.toList) →
        Selection.Hides (spec.normalize idField) restricted) ∧
      (Selection.Hides (spec.normalize idField) restricted ↔
        (∀ part ∈ found, Projection.isExclusion part = false → isRestricted restricted part = false) ∧
          (Selection.hasInclusion kept = true →
            Selection.hasInclusion found = true ∨ ∀ field ∈ restricted, "-" ++ field ∈ found)) := by
  intro kept found
  let entries := (request.fields.map SelectSpec.entries).getD []
  let spec := SelectSpec.list (Selection.restrict entries restricted)
  have reread : Selection.Hides (spec.normalize idField) restricted ↔
      Selection.Hides ((Selection.restrict entries restricted).flatMap Selection.splitFields)
        restricted :=
    Selection.hides_normalize_iff.trans (Selection.hides_congr fun _ => Selection.mem_distinct)
  refine ⟨spec, ?_, fun whole => reread.mpr ?_, reread.trans ?_⟩
  · unfold Request.enforceRestrictions
    dsimp only
    rw [fields, if_neg (by simpa using nonempty)]
  · refine Selection.hides_reread_restrict_of_isAtomic nonempty names fun entry mem => ?_
    cases asked : request.fields with
    | none =>
        rw [show entries = [] by simp only [entries, asked]; rfl] at mem
        cases mem
    | some original =>
        rw [show entries = original.entries by simp only [entries, asked]; rfl] at mem
        exact SelectSpec.isAtomic_of_mem_entries (whole original asked) mem
  · exact Selection.hides_reread_restrict_iff nonempty fun field listed =>
      (names field listed).splitFields_dash

/-- Users without their passwords.  A map with the keys for a name and a password hides the password;
a single key with both texts does not, because the guard takes it for the name of one field. -/
theorem guarded_selection_hides_users :
    let c : Collection := { Collection.named "users" with restrictedFields := ["password"] }
    let request (keys : List String) : Request := { Request.empty with
      fields := some (.map (keys.map fun key => (key, .bool true))) }
    let selection (keys : List String) : Option (List String) :=
      ((request keys).enforceRestrictions c).fields.map (·.normalize "_id")
    selection ["name,password"] = some ["name", "password"] ∧
      (∀ entries ∈ selection ["name,password"], ¬Selection.Hides entries ["password"]) ∧
      ∀ entries ∈ selection ["name", "password"], Selection.Hides entries ["password"] := by
  intro c request selection
  have names : ∀ field ∈ ["password"], Selection.IsEntryName field := by
    intro field listed
    obtain rfl := List.mem_singleton.mp listed
    refine ⟨by decide, by decide, ?_⟩
    intro c last
    obtain rfl : 'd' = c := Option.some.inj last
    rfl
  refine ⟨by decide, ?_, ?_⟩
  · obtain ⟨spec, guarded, -, hides⟩ := @guarded_selection_hides c (request ["name,password"])
      ["password"] rfl (by decide) names "_id"
    intro entries selected hidden
    obtain rfl : spec.normalize "_id" = entries := by
      simpa only [selection, guarded, Option.map_some, Option.mem_some_iff] using selected
    exact absurd ((hides.mp hidden).1 "password") (by decide)
  · obtain ⟨spec, guarded, hides, -⟩ := @guarded_selection_hides c (request ["name", "password"])
      ["password"] rfl (by decide) names "_id"
    intro entries selected
    obtain rfl : spec.normalize "_id" = entries := by
      simpa only [selection, guarded, Option.map_some, Option.mem_some_iff] using selected
    refine hides fun asked shape key listed => ?_
    obtain rfl := Option.some.inj shape
    revert key
    decide

end DocQuery
