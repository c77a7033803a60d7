import DocQuery.Proofs.Query.ExpansionEntries
import DocQuery.Proofs.Query.RereadSelection

/-!
# Expansions written as a text

Expansions can be written in the compact form, each as its path with the fields wanted of the
records in parentheses behind it, and with commas between them.  Reading the text gives them back.

Commas have two roles in it, and parentheses tell them apart.  An expansion is left in one piece by
the scan for top-level commas, since its path has no comma and the commas of its fields stand at
depth one, and it leaves nothing open.  Both follow from what a text without parentheses does to a
scan: nothing (`depthBehind_of_isFlat`, `isBalanced_append_of_isFlat`).

## Main definitions

* `Expansion.written`: an expansion as a part of a text
* `Expansion.IsWritable`: the expansions that can be read back
* `Expansion.IsWritable.ofPart_written`: one expansion
* `ExpandSpec.normalize_written`: all of them
-/

namespace DocQuery

namespace Expansion

variable {depth : Nat} {c : Char} {cs before after : List Char} {e : Expansion}
  {fields : List String}

/-! ### Scanning texts without parentheses -/

/-- A text without parentheses. -/
def IsFlat (cs : List Char) : Prop := ∀ c ∈ cs, c ≠ '(' ∧ c ≠ ')'

theorem depthAfter_of_flat (flat : c ≠ '(' ∧ c ≠ ')') : depthAfter depth c = depth := by
  rw [depthAfter, if_neg flat.1, if_neg flat.2]

theorem depthBehind_append (depth : Nat) (before after : List Char) :
    depthBehind depth (before ++ after) = depthBehind (depthBehind depth before) after :=
  List.foldl_append

theorem depthBehind_of_isFlat (flat : IsFlat cs) : depthBehind depth cs = depth := by
  induction cs with
  | nil => rfl
  | cons c rest ih =>
      obtain ⟨here, behind⟩ := List.forall_mem_cons.mp flat
      rw [depthBehind, List.foldl_cons, depthAfter_of_flat here]
      exact ih behind

theorem isUncut_append : IsUncut depth (before ++ after) ↔
    IsUncut depth before ∧ IsUncut (depthBehind depth before) after := by
  induction before generalizing depth with
  | nil => exact (iff_of_eq (true_and _)).symm
  | cons c rest ih => exact (and_congr_right fun _ => ih).trans and_assoc.symm

theorem isUncut_of_notMem (absent : ',' ∉ cs) : IsUncut depth cs := by
  induction cs generalizing depth with
  | nil => trivial
  | cons c rest ih =>
      rw [List.mem_cons, not_or] at absent
      exact ⟨fun comma => absent.1 comma.1.symm, ih absent.2⟩

/-- Inside parentheses no comma cuts. -/
theorem isUncut_of_isFlat (flat : IsFlat cs) : IsUncut (depth + 1) cs := by
  induction cs with
  | nil => trivial
  | cons c rest ih =>
      obtain ⟨here, behind⟩ := List.forall_mem_cons.mp flat
      refine ⟨fun comma => absurd comma.2 (Nat.succ_ne_zero depth), ?_⟩
      rw [depthAfter_of_flat here]
      exact ih behind

theorem isBalanced_cons_of_flat (flat : c ≠ '(' ∧ c ≠ ')') (rest : List Char) :
    isBalanced depth (c :: rest) = isBalanced depth rest := by
  cases depth <;> simp [isBalanced, flat.1, flat.2]

theorem isBalanced_append_of_isFlat (flat : IsFlat before) (after : List Char) :
    isBalanced depth (before ++ after) = isBalanced depth after := by
  induction before with
  | nil => rfl
  | cons c rest ih =>
      obtain ⟨here, behind⟩ := List.forall_mem_cons.mp flat
      rw [List.cons_append, isBalanced_cons_of_flat here]
      exact ih behind

/-! ### What can be written -/

/-- A field name that can stand in a sub-selection: it is not blank, nor a lone dash, which would
count for nothing, has no blanks around it, and none of the three separators in it. -/
structure IsFieldName (name : String) : Prop where
  trimmed : Text.trim name = name
  nonempty : name ≠ ""
  named : name ≠ "-"
  plain : ∀ c ∈ name.toList, c ≠ ',' ∧ c ≠ '(' ∧ c ≠ ')'

/-- A path of segments, none of them empty, of letters, digits and underscores. -/
def IsRelationPath (path : String) : Prop :=
  ∀ segment ∈ Path.segments path,
    segment ≠ "" ∧ ∀ c ∈ segment.toList, c.isAlphanum = true ∨ c = '_'

/-- An expansion that can be written: the sub-selection, if there is one, lists some field names and
none of them twice. -/
structure IsWritable (e : Expansion) : Prop where
  path : IsRelationPath e.path
  names : ∀ fields ∈ e.select, ∀ name ∈ fields, IsFieldName name
  nonempty : ∀ fields ∈ e.select, fields ≠ []
  nodup : ∀ fields ∈ e.select, fields.Nodup

/-- An expansion as a part of a text: `path` or `path(a,b)`. -/
def written (e : Expansion) : String :=
  match e.select with
  | none => e.path
  | some fields => e.path ++ "(" ++ Text.join "," fields ++ ")"

/-! ### Paths -/

theorem isPath_of_isRelationPath {path : String} (relation : IsRelationPath path) :
    isPath path = true := by
  refine List.all_eq_true.mpr fun segment mem => ?_
  obtain ⟨nonempty, chars⟩ := relation segment mem
  simpa [nonempty] using chars

theorem toNat_of_isAlphanum (alphanum : c.isAlphanum = true) : 0x30 ≤ c.toNat ∧ c.toNat ≤ 0x7A := by
  have ranges : (((c.val ≥ 'A'.val ∧ c.val ≤ 'Z'.val : Bool) ||
      (c.val ≥ 'a'.val && c.val ≤ 'z'.val)) || (c.val ≥ '0'.val && c.val ≤ '9'.val)) = true :=
    alphanum
  simp only [Bool.or_eq_true, Bool.and_eq_true, decide_eq_true_eq, ge_iff_le,
    UInt32.le_iff_toNat_le, Char.toNat_val] at ranges
  rcases ranges with (⟨low, high⟩ | ⟨low, high⟩) | ⟨low, high⟩ <;>
    exact ⟨le_trans (by decide) low, le_trans high (by decide)⟩

/-- A character that neither is trimmed nor separates anything in a compact text. -/
structure IsPlain (c : Char) : Prop where
  dark : Text.isBlank c = false
  noComma : c ≠ ','
  flat : c ≠ '(' ∧ c ≠ ')'

theorem isPlain_of_isAlphanum (alphanum : c.isAlphanum = true) : IsPlain c := by
  obtain ⟨low, high⟩ := toNat_of_isAlphanum alphanum
  refine ⟨Text.isBlank_eq_false (by omega) (by omega), ?_, ?_, ?_⟩ <;>
    · rintro rfl
      exact absurd low (by decide)

/-- A path has plain characters only. -/
theorem IsRelationPath.isPlain {path : String} (relation : IsRelationPath path)
    (mem : c ∈ path.toList) : IsPlain c := by
  rcases @Text.mem_splitOnChar '.' c path mem with rfl | ⟨segment, inSegments, inside⟩
  · exact ⟨by decide, by decide, by decide⟩
  · rcases (relation segment inSegments).2 c inside with alphanum | rfl
    · exact isPlain_of_isAlphanum alphanum
    · exact ⟨by decide, by decide, by decide⟩

theorem IsRelationPath.toList_ne_nil {path : String} (relation : IsRelationPath path) :
    path.toList ≠ [] := by
  intro empty
  obtain rfl := String.toList_eq_nil_iff.mp empty
  exact (relation "" (by decide)).1 rfl

theorem IsRelationPath.isFlat {path : String} (relation : IsRelationPath path) :
    IsFlat path.toList :=
  fun _ mem => (relation.isPlain mem).flat

theorem IsRelationPath.notMem {path : String} (relation : IsRelationPath path) :
    ',' ∉ path.toList :=
  fun mem => (relation.isPlain mem).noComma rfl

/-- A path is trimmed, and so is a text that begins with one and does not end with a blank. -/
theorem trimChars_path_append {path : String} (relation : IsRelationPath path) {rest : List Char}
    (last : ∀ c ∈ rest.getLast?, Text.isBlank c = false) :
    Text.trimChars (path.toList ++ rest) = path.toList ++ rest := by
  refine Text.trimChars_eq_self ?_ ?_
  · intro c first
    rw [List.head?_append_of_ne_nil _ relation.toList_ne_nil] at first
    exact (relation.isPlain (List.mem_of_mem_head? first)).dark
  · intro c final
    rw [List.getLast?_append] at final
    cases rest : rest.getLast? with
    | none =>
        rw [rest] at final
        exact (relation.isPlain (List.mem_of_getLast? final)).dark
    | some d =>
        rw [rest] at final
        obtain rfl : d = c := Option.some.inj final
        exact last d rest

theorem IsRelationPath.trimChars_eq_self {path : String} (relation : IsRelationPath path) :
    Text.trimChars path.toList = path.toList := by
  simpa using @trimChars_path_append path relation [] nofun

/-! ### Sub-selections -/

/-- Field names with commas between them have no parentheses. -/
theorem isFlat_join (names : ∀ name ∈ fields, IsFieldName name) :
    IsFlat (Text.join "," fields).toList := by
  intro c mem
  rcases @Text.mem_join ',' c fields mem with rfl | ⟨name, listed, inside⟩
  · decide
  · exact ((names name listed).plain c inside).2

/-- Field names with commas between them are found again. -/
theorem splitFields_join (names : ∀ name ∈ fields, IsFieldName name) (nonempty : fields ≠ []) :
    Selection.splitFields (Text.join "," fields) = fields := by
  have cut : Text.splitOnChar ',' (Text.join "," fields) = fields :=
    Text.splitOnChar_join nonempty fun name listed mem => ((names name listed).plain ',' mem).1 rfl
  have trimmed : fields.map Text.trim = fields := by
    conv_rhs => rw [← List.map_id fields]
    exact List.map_congr_left fun name listed => (names name listed).trimmed
  rw [Selection.splitFields, cut, trimmed]
  refine List.filter_eq_self.mpr fun name listed => ?_
  simp [(names name listed).nonempty, (names name listed).named]

/-! ### One expansion -/

theorem written_of_none (bare : e.select = none) : e.written = e.path := by
  rw [written, bare]

theorem toList_written_of_some (selected : e.select = some fields) :
    e.written.toList = e.path.toList ++ '(' :: ((Text.join "," fields).toList ++ [')']) := by
  rw [written, selected]
  dsimp only
  rw [String.toList_append, String.toList_append, String.toList_append, List.append_assoc,
    List.append_assoc]
  rfl

/-- A written expansion is left in one piece, and leaves nothing open. -/
theorem IsWritable.isUncut_written (writable : e.IsWritable) :
    IsUncut 0 e.written.toList ∧ depthBehind 0 e.written.toList = 0 := by
  have path : IsUncut 0 e.path.toList := isUncut_of_notMem writable.path.notMem
  have flat : depthBehind 0 e.path.toList = 0 := depthBehind_of_isFlat writable.path.isFlat
  cases selected : e.select with
  | none =>
      rw [written_of_none selected]
      exact ⟨path, flat⟩
  | some fields =>
      have inner : IsFlat (Text.join "," fields).toList :=
        isFlat_join (writable.names fields selected)
      rw [toList_written_of_some selected, isUncut_append, depthBehind_append, flat]
      refine ⟨⟨path, by decide, ?_⟩, ?_⟩
      · show IsUncut 1 _
        rw [isUncut_append, depthBehind_of_isFlat inner]
        exact ⟨isUncut_of_isFlat inner, by decide, trivial⟩
      · show depthBehind 1 _ = 0
        rw [depthBehind_append, depthBehind_of_isFlat inner]
        rfl

/-- A path by itself is read as itself. -/
theorem ofPart_path {path : String} (relation : IsRelationPath path) :
    ofPart path.toList = .ok (some ⟨path, none⟩) := by
  have balanced : isBalanced 0 path.toList = true := by
    rw [← List.append_nil path.toList, isBalanced_append_of_isFlat relation.isFlat]
    rfl
  have nonblank : path.toList.isEmpty = false := List.isEmpty_eq_false_iff.mpr relation.toList_ne_nil
  have unsplit : Text.splitOnce '(' path.toList = none :=
    Text.splitOnce_of_notMem fun mem => (relation.isFlat '(' mem).1 rfl
  rw [ofPart]
  dsimp only
  rw [balanced, relation.trimChars_eq_self, nonblank, unsplit, String.ofList_toList]
  dsimp only
  rw [isPath_of_isRelationPath relation]
  rfl

/-- A path with field names in parentheses is read as itself. -/
theorem ofPart_path_fields {path : String} (relation : IsRelationPath path)
    (names : ∀ name ∈ fields, IsFieldName name) (nonempty : fields ≠ []) (nodup : fields.Nodup) :
    ofPart (path.toList ++ '(' :: ((Text.join "," fields).toList ++ [')'])) =
      .ok (some ⟨path, some fields⟩) := by
  have inner : IsFlat (Text.join "," fields).toList := isFlat_join names
  generalize text : path.toList ++ '(' :: ((Text.join "," fields).toList ++ [')']) = part
  have balanced : isBalanced 0 part = true := by
    rw [← text, isBalanced_append_of_isFlat relation.isFlat]
    show isBalanced 1 _ = true
    rw [isBalanced_append_of_isFlat inner]
    rfl
  have trimmed : Text.trimChars part = part := by
    rw [← text]
    refine trimChars_path_append relation fun c last => ?_
    rw [← List.cons_append, List.getLast?_concat] at last
    obtain rfl := Option.some.inj last
    decide
  have nonblank : part.isEmpty = false := by
    rw [← text]
    simp
  have split : Text.splitOnce '(' part =
      some (path.toList, (Text.join "," fields).toList ++ [')']) := by
    rw [← text]
    exact Text.splitOnce_append (fun mem => (relation.isFlat '(' mem).1 rfl) _
  have closing : (Text.trimEnd ((Text.join "," fields).toList ++ [')'])).reverse =
      ')' :: (Text.join "," fields).toList.reverse := by
    rw [Text.trimEnd_append_cons (by decide), List.reverse_append]
    rfl
  have flat : ((Text.join "," fields).toList.reverse.any fun c => c = '(' || c = ')') = false := by
    refine List.any_eq_false.mpr fun c mem => ?_
    simpa using inner c (List.mem_reverse.mp mem)
  rw [ofPart]
  dsimp only
  rw [balanced, trimmed, nonblank, split]
  dsimp only
  rw [closing]
  show (if ((Text.join "," fields).toList.reverse.any fun c => c = '(' || c = ')') = true then _
    else if (!isPath (String.ofList (Text.trimChars path.toList))) = true then _ else _) = _
  rw [flat, relation.trimChars_eq_self, String.ofList_toList, isPath_of_isRelationPath relation,
    List.reverse_reverse, String.ofList_toList, splitFields_join names nonempty,
    Selection.distinct_eq_self nodup, List.isEmpty_eq_false_iff.mpr nonempty]
  rfl

/-- **A written expansion is read as itself.** -/
theorem IsWritable.ofPart_written (writable : e.IsWritable) :
    ofPart e.written.toList = .ok (some e) := by
  obtain ⟨path, select⟩ := e
  cases select with
  | none => exact ofPart_path writable.path
  | some fields =>
      rw [toList_written_of_some rfl]
      exact ofPart_path_fields writable.path (writable.names fields rfl)
        (writable.nonempty fields rfl) (writable.nodup fields rfl)

/-! ### All expansions -/

/-- Expansions of different paths are not brought together. -/
theorem foldl_add_eq_self {expansions : List Expansion}
    (apart : (expansions.map Expansion.path).Nodup) : expansions.foldl add [] = expansions := by
  refine foldl_eq_append Expansion.path (fun done next absent => ?_) expansions [] apart
  exact add_of_apart fun e mem same => absent (same ▸ List.mem_map_of_mem mem)

/-- The parts of a written text are the written expansions. -/
theorem topLevelParts_written {expansions : List Expansion} (nonempty : expansions ≠ [])
    (writable : ∀ e ∈ expansions, e.IsWritable) :
    topLevelParts 0 (Text.join "," (expansions.map written)).toList =
      expansions.map fun e => e.written.toList := by
  have scanned : ∀ part ∈ (expansions.map written).map String.toList,
      IsUncut 0 part ∧ depthBehind 0 part = 0 := by
    intro part mem
    rw [List.map_map] at mem
    obtain ⟨e, listed, rfl⟩ := List.mem_map.mp mem
    exact (writable e listed).isUncut_written
  have entries : AreEntries ((expansions.map written).map String.toList) :=
    ⟨fun part mem => (scanned part mem).1,
      List.pairwise_of_forall_mem_list fun part mem _ _ => (scanned part mem).2⟩
  rw [topLevelParts_join entries (by simpa using nonempty), List.map_map]
  rfl

/-- What a written text asks for. -/
theorem ofText_written {expansions : List Expansion} (nonempty : expansions ≠ [])
    (writable : ∀ e ∈ expansions, e.IsWritable) :
    ofText (Text.join "," (expansions.map written)) = expansions.map fun e => .ok (some e) := by
  rw [ofText, topLevelParts_written nonempty writable, List.map_map]
  exact List.map_congr_left fun e listed => (writable e listed).ofPart_written

end Expansion

/-- **What is written is read back.**  Expansions of different paths, written as one text, are read
as the same expansions in the same order, and nothing is reported. -/
theorem ExpandSpec.normalize_written {expansions : List Expansion}
    (apart : (expansions.map Expansion.path).Nodup)
    (writable : ∀ e ∈ expansions, e.IsWritable) :
    (ExpandSpec.text (Text.join "," (expansions.map Expansion.written))).normalize =
      (expansions, []) := by
  by_cases none : expansions = []
  · subst none
    rfl
  · have parts : (ExpandSpec.text (Text.join "," (expansions.map Expansion.written))).parts =
        expansions.map fun e => .ok (some e) := Expansion.ofText_written none writable
    refine Prod.ext ?_ ?_
    · rw [ExpandSpec.normalize_fst, parts, List.filterMap_map]
      show (expansions.filterMap some).foldl Expansion.add [] = expansions
      rw [List.filterMap_some]
      exact Expansion.foldl_add_eq_self apart
    · show (ExpandSpec.parts _).filterMap _ = []
      rw [parts, List.filterMap_map]
      exact List.filterMap_eq_nil_iff.mpr fun e _ => rfl

/-- Authors with two of their fields, one of them with a blank inside and one that looks like an
exclusion, and tags as they are. -/
theorem ExpandSpec.normalize_written_authors :
    let expansions : List Expansion :=
      [⟨"author.team_2", some ["first name", "-bio"]⟩, ⟨"tags", none⟩]
    Text.join "," (expansions.map Expansion.written) = "author.team_2(first name,-bio),tags" ∧
      (expansions.map Expansion.path).Nodup ∧
      (∀ e ∈ expansions, e.IsWritable) ∧
      (ExpandSpec.text "author.team_2(first name,-bio),tags").normalize = (expansions, []) := by
  intro expansions
  have text : Text.join "," (expansions.map Expansion.written) =
      "author.team_2(first name,-bio),tags" := by decide
  have apart : (expansions.map Expansion.path).Nodup := by decide
  have author : Expansion.IsRelationPath "author.team_2" := by
    have segments : Path.segments "author.team_2" = ["author", "team_2"] := by decide
    simp [Expansion.IsRelationPath, segments]
  have tags : Expansion.IsRelationPath "tags" := by
    have segments : Path.segments "tags" = ["tags"] := by decide
    simp [Expansion.IsRelationPath, segments]
  have names : ∀ name ∈ ["first name", "-bio"], Expansion.IsFieldName name := by
    intro name mem
    rcases List.mem_pair.mp mem with rfl | rfl
    · exact ⟨by decide, by decide, by decide, by simp⟩
    · exact ⟨by decide, by decide, by decide, by simp⟩
  have writable : ∀ e ∈ expansions, e.IsWritable := by
    intro e mem
    rcases List.mem_pair.mp mem with rfl | rfl
    · refine ⟨author, ?_, ?_, ?_⟩
      · rintro fields ⟨⟩
        exact names
      · rintro fields ⟨⟩
        decide
      · rintro fields ⟨⟩
        decide
    · exact ⟨tags, nofun, nofun, nofun⟩
  exact ⟨text, apart, writable, text ▸ normalize_written apart writable⟩

end DocQuery
