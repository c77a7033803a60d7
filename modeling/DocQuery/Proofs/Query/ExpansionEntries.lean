import DocQuery.Proofs.Text.Trim
import DocQuery.Query.Expansion
import Mathlib.Data.List.Basic

/-!
# Expansion requests without blocked paths

The guard of a request cuts a compact expansion text at its top-level commas, drops the entries on
blocked paths and joins the others again, and the joined text is scanned once more when it is read.
What makes the second scan find the entries of the first is the depth at which entries end: an entry
that is followed by another one leaves no parenthesis open, because the comma behind it would not
have been seen otherwise.  A stray closing parenthesis opens nothing, and an entry that leaves
parentheses open is the last one and stays the last.  So the kept entries are uncut at depth zero
and closed but for the last one (`AreEntries`), which holds of every sublist, and that is all that
scanning needs to undo joining (`topLevelParts_intercalate`).

The guard and the reader name the path of an entry by different means, but name the same one
(`path_of_ofPart`).  All mentions of a path share its fate, so it makes no difference whether they
are dropped before or after the last sub-selection of a path has replaced the others.

## Main definitions

* `Expansion.IsUncut`, `Expansion.depthBehind`: a scan of characters
* `Expansion.AreEntries`: what a scan leaves of a text
* `ExpandSpec.normalize_restrict`
-/

namespace DocQuery

namespace Expansion

/-! ### Scanning for top-level commas -/

/-- The number of open parentheses behind a character. -/
def depthAfter (depth : Nat) (c : Char) : Nat :=
  if c = '(' then depth + 1 else if c = ')' then depth - 1 else depth

/-- The number of open parentheses behind a text. -/
def depthBehind (depth : Nat) (cs : List Char) : Nat := cs.foldl depthAfter depth

/-- Whether a text is left in one piece when it is scanned. -/
def IsUncut : Nat → List Char → Prop
  | _, [] => True
  | depth, c :: rest => ¬(c = ',' ∧ depth = 0) ∧ IsUncut (depthAfter depth c) rest

variable {depth : Nat} {c : Char} {cs part : List Char} {parts : List (List Char)}

theorem topLevelParts_comma (rest : List Char) :
    topLevelParts 0 (',' :: rest) = [] :: topLevelParts 0 rest := rfl

theorem topLevelParts_cons (inside : ¬(c = ',' ∧ depth = 0))
    (scanned : topLevelParts (depthAfter depth c) cs = part :: parts) :
    topLevelParts depth (c :: cs) = (c :: part) :: parts := by
  rw [topLevelParts, if_neg inside]
  dsimp only
  rw [show (if c = '(' then depth + 1 else if c = ')' then depth - 1 else depth) =
    depthAfter depth c from rfl, scanned]

theorem topLevelParts_of_isUncut (uncut : IsUncut depth part) :
    topLevelParts depth part = [part] := by
  induction part generalizing depth with
  | nil => rfl
  | cons c rest ih => exact topLevelParts_cons uncut.1 (ih uncut.2)

/-- A scan cuts at a comma behind an entry that leaves nothing open. -/
theorem topLevelParts_append (uncut : IsUncut depth part) (closed : depthBehind depth part = 0)
    (rest : List Char) :
    topLevelParts depth (part ++ ',' :: rest) = part :: topLevelParts 0 rest := by
  induction part generalizing depth with
  | nil =>
      obtain rfl : depth = 0 := closed
      exact topLevelParts_comma rest
  | cons c more ih => exact topLevelParts_cons uncut.1 (ih uncut.2 closed)

/-! ### What a scan leaves of a text -/

/-- Entries of a text: each is left in one piece, and leaves nothing open where another one
follows. -/
structure AreEntries (parts : List (List Char)) : Prop where
  uncut : ∀ part ∈ parts, IsUncut 0 part
  closed : parts.Pairwise fun part _ => depthBehind 0 part = 0

/-- The first part of a scan continues what was open before it; the others are entries. -/
theorem exists_entries (depth : Nat) (cs : List Char) :
    ∃ part parts, topLevelParts depth cs = part :: parts ∧ IsUncut depth part ∧
      (parts ≠ [] → depthBehind depth part = 0) ∧ AreEntries parts := by
  induction cs generalizing depth with
  | nil =>
      refine ⟨[], [], rfl, trivial, ?_, ?_, List.Pairwise.nil⟩
      · intro absurd
        exact (absurd rfl).elim
      · simp
  | cons c rest ih =>
      by_cases comma : c = ',' ∧ depth = 0
      · obtain ⟨rfl, rfl⟩ := comma
        obtain ⟨part, parts, scanned, uncut, closed, entries⟩ := ih 0
        refine ⟨[], part :: parts, ?_, trivial, fun _ => rfl, ?_, ?_⟩
        · rw [topLevelParts_comma, scanned]
        · exact List.forall_mem_cons.mpr ⟨uncut, entries.uncut⟩
        · exact List.pairwise_cons.mpr
            ⟨fun next mem => closed (List.ne_nil_of_mem mem), entries.closed⟩
      · obtain ⟨part, parts, scanned, uncut, closed, entries⟩ := ih (depthAfter depth c)
        exact ⟨c :: part, parts, topLevelParts_cons comma scanned, ⟨comma, uncut⟩, closed, entries⟩

theorem areEntries_topLevelParts (cs : List Char) : AreEntries (topLevelParts 0 cs) := by
  obtain ⟨part, parts, scanned, uncut, closed, entries⟩ := exists_entries 0 cs
  rw [scanned]
  constructor
  · exact List.forall_mem_cons.mpr ⟨uncut, entries.uncut⟩
  · exact List.pairwise_cons.mpr
      ⟨fun next mem => closed (List.ne_nil_of_mem mem), entries.closed⟩

theorem AreEntries.sublist (entries : AreEntries parts) {kept : List (List Char)}
    (sublist : kept.Sublist parts) : AreEntries kept :=
  ⟨fun part mem => entries.uncut part (sublist.subset mem), entries.closed.sublist sublist⟩

/-- **Scanning undoes joining**: entries with commas between them are found again. -/
theorem topLevelParts_intercalate (entries : AreEntries parts) (some : parts ≠ []) :
    topLevelParts 0 ([','].intercalate parts) = parts := by
  induction parts with
  | nil => exact absurd rfl some
  | cons part rest ih =>
      have uncut := entries.uncut part List.mem_cons_self
      by_cases last : rest = []
      · rw [last, List.intercalate_singleton]
        exact topLevelParts_of_isUncut uncut
      · obtain ⟨next, more, split⟩ := List.exists_cons_of_ne_nil last
        have closed : depthBehind 0 part = 0 :=
          (List.pairwise_cons.mp entries.closed).1 next (split ▸ List.mem_cons_self)
        rw [List.intercalate_cons_of_ne_nil last, List.append_assoc, List.singleton_append,
          topLevelParts_append uncut closed, ih (entries.sublist (List.sublist_cons_self _ _)) last]

/-- The entries of a text that is joined from them. -/
theorem topLevelParts_join {texts : List String} (entries : AreEntries (texts.map String.toList))
    (some : texts ≠ []) :
    topLevelParts 0 (Text.join "," texts).toList = texts.map String.toList := by
  have joined : (Text.join "," texts).toList = [','].intercalate (texts.map String.toList) :=
    @Text.toList_join ',' texts
  rw [joined]
  exact topLevelParts_intercalate entries (by simpa using some)

/-- A text of some entries of a text has these entries and no others. -/
theorem topLevelParts_kept (cs : List Char) (keep : List Char → Bool) :
    let kept := (topLevelParts 0 cs).filter keep
    topLevelParts 0 (Text.join "," (kept.map String.ofList)).toList =
      if kept.isEmpty then [[]] else kept := by
  intro kept
  split
  · next none =>
      rw [List.isEmpty_iff.mp none]
      rfl
  · next some =>
      have texts : (kept.map String.ofList).map String.toList = kept := by simp
      have entries : AreEntries ((kept.map String.ofList).map String.toList) := by
        rw [texts]
        exact (areEntries_topLevelParts cs).sublist List.filter_sublist
      rw [topLevelParts_join entries (by simpa using some), texts]

/-! ### The path of an entry -/

theorem takeWhile_trimChars (cs : List Char) :
    Text.trimChars ((Text.trimChars cs).takeWhile (· ≠ '(')) =
      Text.trimChars (cs.takeWhile (· ≠ '(')) := by
  refine Text.trimChars_takeWhile ?_ cs
  intro c blank
  have notOpen : c ≠ '(' := by
    rintro rfl
    revert blank
    decide
  simpa using notOpen

/-- An entry stands for the path that the guard reads in it. -/
theorem path_of_ofPart {e : Expansion} (read : ofPart part = .ok (some e)) :
    e.path = ExpandSpec.pathOfPart part := by
  unfold ofPart at read
  dsimp only at read
  rw [ExpandSpec.pathOfPart, ← takeWhile_trimChars]
  split at read
  · cases read
  · split at read
    · cases read
    · split at read
      · next unsplit =>
          rw [Text.splitOnce_eq_none unsplit, Text.trimChars_trimChars]
          split at read
          · rw [← Option.some.inj (Except.ok.inj read)]
          · cases read
      · next before after split =>
          rw [← Text.splitOnce_eq_some split]
          split at read
          · split at read
            · cases read
            · split at read
              · cases read
              · rw [← Option.some.inj (Except.ok.inj read)]
          · cases read

theorem path_of_ofRecord {e : Expansion} {path : String} {select : Option SelectSpec}
    (read : ofRecord path select = .ok (some e)) : e.path = Text.trim path := by
  unfold ofRecord at read
  dsimp only at read
  split at read
  · cases read
  · split at read
    · cases read
    · rw [← Option.some.inj (Except.ok.inj read)]

/-! ### Expansions of the same path -/

/-- The expansion that a part asks for, if it is well formed and not blank. -/
def asked : Except Diagnostic (Option Expansion) → Option Expansion
  | .ok expansion => expansion
  | .error _ => none

/-- Whether an expansion is left when some paths are blocked. -/
def isFree (blocked : String → Bool) (e : Expansion) : Bool := !blocked e.path

/-- An expansion after one of perhaps the same path has been added. -/
def updatedBy (next e : Expansion) : Expansion :=
  if e.path = next.path then { e with select := next.select <|> e.select } else e

variable {blocked : String → Bool} {done : List Expansion} {next e : Expansion}

theorem path_updatedBy : (updatedBy next e).path = e.path := by
  unfold updatedBy
  split <;> rfl

theorem isFree_congr (same : e.path = next.path) : isFree blocked e = isFree blocked next := by
  rw [isFree, isFree, same]

theorem add_of_mem (mem : e ∈ done) (same : e.path = next.path) :
    add done next = done.map (updatedBy next) :=
  if_pos (List.any_eq_true.mpr ⟨e, mem, decide_eq_true same⟩)

theorem add_of_apart (apart : ∀ e ∈ done, e.path ≠ next.path) : add done next = done ++ [next] := by
  refine if_neg fun present => ?_
  obtain ⟨e, mem, same⟩ := List.any_eq_true.mp present
  exact apart e mem (of_decide_eq_true same)

/-- An update does not change what is blocked. -/
theorem filter_map_updatedBy (next : Expansion) (done : List Expansion) :
    (done.map (updatedBy next)).filter (isFree blocked) =
      (done.filter (isFree blocked)).map (updatedBy next) := by
  rw [List.filter_map]
  exact congrArg _ (List.filter_congr fun e _ => isFree_congr path_updatedBy)

/-- Adding an expansion and dropping what is blocked may be done in either order. -/
theorem filter_add (done : List Expansion) (next : Expansion) :
    (add done next).filter (isFree blocked) =
      if isFree blocked next then add (done.filter (isFree blocked)) next
      else done.filter (isFree blocked) := by
  by_cases present : ∃ e ∈ done, e.path = next.path
  · obtain ⟨e, mem, same⟩ := present
    rw [add_of_mem mem same, filter_map_updatedBy]
    by_cases free : isFree blocked next = true
    · have kept : e ∈ done.filter (isFree blocked) :=
        List.mem_filter.mpr ⟨mem, (isFree_congr same).trans free⟩
      rw [if_pos free, add_of_mem kept same]
    · -- all mentions of the path are dropped, and the update was meant for them only
      rw [if_neg free]
      have untouched : ∀ other ∈ done.filter (isFree blocked), updatedBy next other = id other := by
        intro other kept
        refine if_neg fun again => free ?_
        exact (isFree_congr again).symm.trans (List.mem_filter.mp kept).2
      rw [List.map_congr_left untouched, List.map_id]
  · have apart : ∀ e ∈ done, e.path ≠ next.path := fun e mem same => present ⟨e, mem, same⟩
    rw [add_of_apart apart, List.filter_append]
    by_cases free : isFree blocked next = true
    · rw [if_pos free, List.filter_cons_of_pos free, List.filter_nil,
        add_of_apart fun e kept => apart e (List.mem_filter.mp kept).1]
    · rw [if_neg free, List.filter_cons_of_neg free, List.filter_nil, List.append_nil]

/-- What is blocked may be dropped before or after repeated paths are brought together. -/
theorem filter_foldl_add (blocked : String → Bool) (expansions done : List Expansion) :
    (expansions.foldl add done).filter (isFree blocked) =
      (expansions.filter (isFree blocked)).foldl add (done.filter (isFree blocked)) := by
  induction expansions generalizing done with
  | nil => rfl
  | cons next rest ih =>
      rw [List.foldl_cons, ih, filter_add]
      by_cases free : isFree blocked next = true
      · rw [if_pos free, List.filter_cons_of_pos free, List.foldl_cons]
      · rw [if_neg free, List.filter_cons_of_neg free]

end Expansion

/-! ### Guarded requests -/

namespace ExpandSpec

open Expansion

variable {blocked : String → Bool}

/-- The guard drops the expansions on blocked paths from what a compact text asks for. -/
theorem filterMap_asked_ofText (blocked : String → Bool) (text : String) :
    (ofText (restrictText blocked text)).filterMap asked =
      ((ofText text).filterMap asked).filter (isFree blocked) := by
  have kept := topLevelParts_kept text.toList fun part => !blocked (pathOfPart part)
  dsimp only at kept
  have free : ∀ part, (if (!blocked (pathOfPart part)) = true then asked (ofPart part) else none) =
      (asked (ofPart part)).filter (isFree blocked) := by
    intro part
    cases read : ofPart part with
    | error diagnostic => cases blocked (pathOfPart part) <;> rfl
    | ok expansion =>
        cases expansion with
        | none => cases blocked (pathOfPart part) <;> rfl
        | some e =>
            rw [← path_of_ofPart read, asked, Option.filter_some]
            rfl
  have dropped : (((topLevelParts 0 text.toList).filter fun part =>
      !blocked (pathOfPart part)).map ofPart).filterMap asked =
        ((ofText text).filterMap asked).filter (isFree blocked) := by
    rw [ofText, List.filterMap_map, List.filterMap_map, List.filterMap_filter,
      List.filter_filterMap]
    exact List.filterMap_congr fun part _ => free part
  rw [← dropped, ofText, restrictText, kept]
  split
  · next none =>
      rw [List.isEmpty_iff.mp none]
      rfl
  · rfl

/-- An entry of a guarded list, if anything is left of it. -/
def guardedEntry (blocked : String → Bool) : ExpandEntry → Option ExpandEntry
  | .text s => some (.text (restrictText blocked s))
  | .record path select => if blocked (Text.trim path) then none else some (.record path select)

/-- The guard keeps an entry of a list as far as its expansions are free. -/
theorem filterMap_asked_guardedEntry (blocked : String → Bool) (entry : ExpandEntry) :
    ((guardedEntry blocked entry).toList.flatMap ExpandEntry.parts).filterMap asked =
      (entry.parts.filterMap asked).filter (isFree blocked) := by
  cases entry with
  | text s =>
      rw [ExpandEntry.parts, ← filterMap_asked_ofText, guardedEntry, Option.toList_some,
        List.flatMap_singleton, ExpandEntry.parts]
  | record path select =>
      have named : ∀ e ∈ (ExpandEntry.record path select).parts.filterMap asked,
          isFree blocked e = !blocked (Text.trim path) := by
        intro e mem
        obtain ⟨part, inParts, read⟩ := List.mem_filterMap.mp mem
        obtain rfl := List.mem_singleton.mp inParts
        cases record : ofRecord path select with
        | error diagnostic => rw [record] at read; cases read
        | ok expansion =>
            rw [record] at read
            obtain rfl : expansion = some e := read
            rw [isFree, path_of_ofRecord record]
      rw [guardedEntry]
      by_cases drops : blocked (Text.trim path) = true
      · rw [if_pos drops]
        refine (List.filter_eq_nil_iff.mpr fun e mem => ?_).symm
        simp [named e mem, drops]
      · rw [if_neg drops, Option.toList_some, List.flatMap_singleton]
        refine (List.filter_eq_self.mpr fun e mem => ?_).symm
        simp [named e mem, drops]

/-- The guard drops the expansions on blocked paths from what a request asks for. -/
theorem filterMap_asked_parts (blocked : String → Bool) (spec : ExpandSpec) :
    (spec.restrict blocked).parts.filterMap asked =
      (spec.parts.filterMap asked).filter (isFree blocked) := by
  cases spec with
  | text s => exact filterMap_asked_ofText blocked s
  | list entries =>
      show ((entries.filterMap (guardedEntry blocked)).flatMap ExpandEntry.parts).filterMap asked =
        ((entries.flatMap ExpandEntry.parts).filterMap asked).filter (isFree blocked)
      rw [List.filterMap_eq_flatMap_toList (guardedEntry blocked), List.flatMap_assoc,
        List.filterMap_flatMap, List.filterMap_flatMap, List.filter_flatMap]
      exact List.flatMap_congr fun entry _ => filterMap_asked_guardedEntry blocked entry

theorem normalize_fst (spec : ExpandSpec) :
    spec.normalize.1 = (spec.parts.filterMap asked).foldl add [] := by
  rfl

/-- **Taking blocked paths out of a request takes their expansions out of its meaning**, and leaves
the other expansions, their order and their sub-selections as they are.  A compact text made of some
entries of another one is read as these entries, whatever else stood between them. -/
theorem normalize_restrict (spec : ExpandSpec) (restricted : List String) :
    (spec.restrict (isRestricted restricted)).normalize.1 =
        spec.normalize.1.filter (fun e => !isRestricted restricted e.path) ∧
      ∀ (text : String) (keep : List Char → Bool),
        let kept := (topLevelParts 0 text.toList).filter keep
        ofText (Text.join "," (kept.map String.ofList)) =
          if kept.isEmpty then [.ok none] else kept.map ofPart := by
  constructor
  · rw [normalize_fst, normalize_fst, filterMap_asked_parts]
    exact (filter_foldl_add (isRestricted restricted) _ []).symm
  · intro text keep kept
    rw [ofText, topLevelParts_kept]
    split <;> rfl

end ExpandSpec

end DocQuery
