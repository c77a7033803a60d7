import DocQuery.Proofs.Text.Trim
import DocQuery.Query.Sort
import Mathlib.Data.List.Nodup

/-!
# The forms of a sort request

A list of fields with tokens for their directions can be sent as one text, `price:desc,name:asc`, as
a list of such texts or as a list of records.  Texts and records are read by different means: a part
of a text is trimmed, cut at its first colon and trimmed again, and a record has its field and its
order apart.  Both come to one reading of a term (`SortTerm.reading`), in which only the spelling of
a refused token differs: a text shows it without the blanks around it, a record as a quoted text.

Since the entries of a request are collected in one way, whatever their form is, all three forms
have the same sort keys, which are the first mentions of the fields, and report the same fields.

## Main definitions

* `SortTerm`, `SortTerm.IsWritable`: a field and a token that may be sent in any form
* `SortTerm.reading`: what a term asks for
* `SortSpec.AreFirstMentions`: the keys that a request comes to
* `SortSpec.normalize_forms`
-/

namespace DocQuery

/-- The field that a diagnostic of a sort request names. -/
def Diagnostic.sortField? : Diagnostic → Option String
  | .malformedSort field _ => some field
  | _ => none

/-- A field to sort by and the token for its direction, as a client writes them. -/
structure SortTerm where
  field : String
  token : String

namespace SortTerm

/-- A term that can be written in a text: there is a field, and no separator is part of it or of the
token, where it would end them.  A token may have a colon. -/
structure IsWritable (term : SortTerm) : Prop where
  named : Text.isBlankText term.field = false
  fieldWhole : ',' ∉ term.field.toList
  fieldPlain : ':' ∉ term.field.toList
  tokenWhole : ',' ∉ term.token.toList

/-- A term as a part of a text. -/
def text (term : SortTerm) : String := term.field ++ ":" ++ term.token

/-- A term as a record. -/
def record (term : SortTerm) : SortEntry := .record term.field (some (.string term.token))

/-- The direction that a term asks for, if its token means one. -/
def direction? (term : SortTerm) : Option SortDirection :=
  if Text.isBlankText term.token then some .ascending else SortDirection.parse? term.token

/-- The sort key that a term asks for, if its token means a direction. -/
def key? (term : SortTerm) : Option SortField :=
  term.direction?.map fun direction => ⟨Text.trim term.field, direction⟩

/-- What a term asks for; a token that means no direction is shown as `shown`. -/
def reading (shown : SortTerm → String) (term : SortTerm) : Except Diagnostic (Option SortField) :=
  match term.key? with
  | some key => .ok (some key)
  | none => .error (.malformedSort (Text.trim term.field) (shown term))

variable {term : SortTerm} {terms : List SortTerm}

/-! ### One term -/

theorem toList_text (term : SortTerm) :
    term.text.toList = term.field.toList ++ ':' :: term.token.toList := by
  rw [text, String.toList_append, String.toList_append, List.append_assoc]
  rfl

/-- A term stands between two commas of a text as a whole. -/
theorem IsWritable.whole (writable : term.IsWritable) : ',' ∉ term.text.toList := by
  rw [toList_text, List.mem_append, List.mem_cons]
  rintro (mem | mem | mem)
  · exact writable.fieldWhole mem
  · exact absurd mem (by decide)
  · exact writable.tokenWhole mem

theorem parse?_trim (token : String) :
    SortDirection.parse? (Text.trim token) = SortDirection.parse? token := by
  rw [SortDirection.parse?, Text.trim_trim, SortDirection.parse?]

/-- A part of a text is read as its term. -/
theorem IsWritable.ofPart_text (writable : term.IsWritable) :
    SortEntry.ofPart term.text = term.reading fun term => Text.trim term.token := by
  have colon : Text.isBlank ':' = false := by decide
  have absent : ':' ∉ Text.trimStart term.field.toList := fun mem =>
    writable.fieldPlain ((List.dropWhile_sublist _).subset mem)
  unfold SortEntry.ofPart
  dsimp only
  rw [toList_text, Text.trimChars_around colon, Text.splitOnce_append absent]
  dsimp only
  rw [Text.trimChars_trimEnd, Text.trimChars_trimStart, Text.isEmpty_trimChars,
    Text.isEmpty_trimChars, writable.named, ← Text.trim, ← Text.trim, parse?_trim]
  unfold reading key? direction?
  by_cases blank : Text.isBlankText term.token = true
  · rw [if_pos blank, if_pos blank]
    rfl
  · rw [if_neg blank, if_neg blank]
    cases SortDirection.parse? term.token <;> rfl

/-- A record is read as its term. -/
theorem IsWritable.ofRecord (writable : term.IsWritable) :
    SortEntry.ofRecord term.field (some (.string term.token)) =
      term.reading fun term => (Json.string term.token).text := by
  have read : SortEntry.directionOf? (some (.string term.token)) = term.direction? := rfl
  unfold SortEntry.ofRecord
  dsimp only
  rw [Text.isEmpty_trim, writable.named, read]
  unfold reading key?
  cases term.direction? <;> rfl

end SortTerm

namespace SortSpec

open SortTerm

variable {asked before keys : List SortField} {next : SortField} {terms : List SortTerm}

/-! ### First mentions -/

/-- The first mentions of the fields that are asked for, in the order in which they are asked for. -/
structure AreFirstMentions (asked keys : List SortField) : Prop where
  sublist : keys.Sublist asked
  nodup : (keys.map SortField.field).Nodup
  first : ∀ key ∈ keys, asked.find? (·.field = key.field) = some key
  all : ∀ key ∈ asked, key.field ∈ keys.map SortField.field

theorem areFirstMentions_nil : AreFirstMentions [] [] := by
  constructor <;> simp

theorem addField_of_mem (present : next.field ∈ keys.map SortField.field) :
    addField keys next = keys :=
  if_pos (by simpa using present)

theorem addField_of_notMem (absent : next.field ∉ keys.map SortField.field) :
    addField keys next = keys ++ [next] :=
  if_neg (by simpa using absent)

/-- Adding a mention keeps the first mentions of all that has been asked for so far. -/
theorem AreFirstMentions.addField (first : AreFirstMentions before keys) (next : SortField) :
    AreFirstMentions (before ++ [next]) (addField keys next) := by
  have found : ∀ key ∈ keys, (before ++ [next]).find? (·.field = key.field) = some key := by
    intro key mem
    rw [List.find?_append, first.first key mem]
    rfl
  by_cases present : next.field ∈ keys.map SortField.field
  · rw [addField_of_mem present]
    refine ⟨first.sublist.trans (List.sublist_append_left _ _), first.nodup, found, ?_⟩
    intro key mem
    rcases List.mem_append.mp mem with mem | mem
    · exact first.all key mem
    · rw [List.mem_singleton.mp mem]
      exact present
  · have new : before.find? (·.field = next.field) = none := by
      refine List.find?_eq_none.mpr fun key mem same => present ?_
      rw [← of_decide_eq_true same]
      exact first.all key mem
    rw [addField_of_notMem present]
    refine ⟨first.sublist.append (List.Sublist.refl _), ?_, ?_, ?_⟩
    · rw [List.map_append]
      exact List.concat_eq_append ▸ List.Nodup.concat present first.nodup
    · intro key mem
      rcases List.mem_append.mp mem with mem | mem
      · exact found key mem
      · rw [List.mem_singleton.mp mem, List.find?_append, new]
        simp
    · intro key mem
      rw [List.map_append]
      rcases List.mem_append.mp mem with mem | mem
      · exact List.mem_append_left _ (first.all key mem)
      · rw [List.mem_singleton.mp mem]
        simp

/-- The keys that a request comes to are the first mentions. -/
theorem areFirstMentions_foldl_addField (asked : List SortField) :
    AreFirstMentions asked (asked.foldl SortSpec.addField []) := by
  suffices run : ∀ (asked before keys : List SortField), AreFirstMentions before keys →
      AreFirstMentions (before ++ asked) (asked.foldl SortSpec.addField keys) from
    run asked [] [] areFirstMentions_nil
  intro asked
  induction asked with
  | nil =>
      intro before keys first
      rw [List.append_nil]
      exact first
  | cons next rest ih =>
      intro before keys first
      rw [List.append_cons]
      exact ih _ _ (first.addField next)

/-! ### Three forms of one request -/

/-- Terms in one text, with commas between them. -/
def ofTerms (terms : List SortTerm) : SortSpec :=
  .text (Text.join "," (terms.map SortTerm.text))

/-- Terms in a list of texts. -/
def ofTermTexts (terms : List SortTerm) : SortSpec :=
  .list (terms.map fun term => .text term.text)

/-- Terms in a list of records. -/
def ofTermRecords (terms : List SortTerm) : SortSpec := .list (terms.map SortTerm.record)

/-- The sort key that a part asks for, if it is well formed and not blank. -/
def asked? : Except Diagnostic (Option SortField) → Option SortField
  | .ok key => key
  | .error _ => none

/-- The diagnostic of a part that is left out. -/
def refused? : Except Diagnostic (Option SortField) → Option Diagnostic
  | .ok _ => none
  | .error d => some d

/-- What is collected from the parts of a request. -/
def collect (parts : List (Except Diagnostic (Option SortField))) :
    List SortField × List Diagnostic :=
  ((parts.filterMap asked?).foldl addField [], parts.filterMap refused?)

theorem normalize_eq_collect (spec : SortSpec) : spec.normalize = collect spec.parts := rfl

/-- What is collected from terms. -/
theorem collect_reading (shown : SortTerm → String) (terms : List SortTerm) :
    collect (terms.map (reading shown)) =
      ((terms.filterMap key?).foldl addField [],
        (terms.filter fun term => term.key?.isNone).map fun term =>
          .malformedSort (Text.trim term.field) (shown term)) := by
  have keys : (terms.map (reading shown)).filterMap asked? = terms.filterMap key? := by
    rw [List.filterMap_map]
    refine List.filterMap_congr fun term _ => ?_
    rw [Function.comp_apply, reading]
    cases term.key? <;> rfl
  have diagnostics : (terms.map (reading shown)).filterMap refused? =
      (terms.filter fun term => term.key?.isNone).map fun term =>
        .malformedSort (Text.trim term.field) (shown term) := by
    rw [List.filterMap_map, ← List.filterMap_eq_map, List.filterMap_filter]
    refine List.filterMap_congr fun term _ => ?_
    rw [Function.comp_apply, reading]
    cases term.key? <;> rfl
  rw [collect, keys, diagnostics]

/-- The parts of a text are its terms. -/
theorem normalize_ofTerms (writable : ∀ term ∈ terms, term.IsWritable) :
    (ofTerms terms).normalize =
      collect (terms.map (reading fun term => Text.trim term.token)) := by
  by_cases none : terms = []
  · subst none
    rfl
  · have whole : ∀ part ∈ terms.map SortTerm.text, ',' ∉ part.toList := by
      intro part mem
      obtain ⟨term, inTerms, rfl⟩ := List.mem_map.mp mem
      exact (writable term inTerms).whole
    have cut : Text.splitOnChar ',' (Text.join "," (terms.map SortTerm.text)) =
        terms.map SortTerm.text :=
      Text.splitOnChar_join (by simpa using none) whole
    have parts : (ofTerms terms).parts = terms.map (reading fun term => Text.trim term.token) := by
      show SortEntry.ofText (Text.join "," (terms.map SortTerm.text)) = _
      rw [SortEntry.ofText, cut, List.map_map]
      exact List.map_congr_left fun term mem => (writable term mem).ofPart_text
    rw [normalize_eq_collect, parts]

/-- So are those of a list of texts. -/
theorem normalize_ofTermTexts (writable : ∀ term ∈ terms, term.IsWritable) :
    (ofTermTexts terms).normalize =
      collect (terms.map (reading fun term => Text.trim term.token)) := by
  have alone : ∀ term ∈ terms, SortEntry.parts (.text term.text) =
      [term.reading fun term => Text.trim term.token] := by
    intro term mem
    rw [SortEntry.parts, SortEntry.ofText, Text.splitOnChar_of_notMem (writable term mem).whole,
      List.map_singleton, (writable term mem).ofPart_text]
  have parts : (ofTermTexts terms).parts =
      terms.map (reading fun term => Text.trim term.token) := by
    show (terms.map fun term => SortEntry.text term.text).flatMap SortEntry.parts = _
    rw [List.flatMap_map, List.flatMap_congr alone, List.map_eq_flatMap]
  rw [normalize_eq_collect, parts]

/-- The parts of a list of records are its terms. -/
theorem normalize_ofTermRecords (writable : ∀ term ∈ terms, term.IsWritable) :
    (ofTermRecords terms).normalize =
      collect (terms.map (reading fun term => (Json.string term.token).text)) := by
  have alone : ∀ term ∈ terms, term.record.parts =
      [term.reading fun term => (Json.string term.token).text] := by
    intro term mem
    rw [record, SortEntry.parts, (writable term mem).ofRecord]
  have parts : (ofTermRecords terms).parts =
      terms.map (reading fun term => (Json.string term.token).text) := by
    show (terms.map SortTerm.record).flatMap SortEntry.parts = _
    rw [List.flatMap_map, List.flatMap_congr alone, List.map_eq_flatMap]
  rw [normalize_eq_collect, parts]

/-- **All forms of a sort request agree.**  Sent as one text, as a list of texts or as a list of
records, terms come to the same sort keys, which are the first mentions of their fields, and to
diagnostics that name the same fields, those of the terms whose tokens mean no direction. -/
theorem normalize_forms (terms : List SortTerm) (writable : ∀ term ∈ terms, term.IsWritable) :
    let answer := (ofTerms terms).normalize
    (ofTermTexts terms).normalize = answer ∧
      (ofTermRecords terms).normalize.1 = answer.1 ∧
      (ofTermRecords terms).normalize.2.map Diagnostic.sortField? =
        answer.2.map Diagnostic.sortField? ∧
      AreFirstMentions (terms.filterMap key?) answer.1 ∧
      answer.2.map Diagnostic.sortField? =
        (terms.filter fun term => term.key?.isNone).map fun term => some (Text.trim term.field) := by
  intro answer
  have asText : answer = collect (terms.map (reading fun term => Text.trim term.token)) :=
    normalize_ofTerms writable
  rw [asText, normalize_ofTermTexts writable, normalize_ofTermRecords writable, collect_reading,
    collect_reading]
  refine ⟨rfl, rfl, ?_, areFirstMentions_foldl_addField _, ?_⟩
  · rw [List.map_map, List.map_map]
    rfl
  · rw [List.map_map]
    rfl

/-- A field between blanks that is mentioned twice, a field that begins with a dash, a blank token,
and a token with a colon, which means no direction. -/
theorem normalize_forms_prices :
    let terms : List SortTerm :=
      [⟨" price ", "DESC"⟩, ⟨"-name", " "⟩, ⟨"price", "asc"⟩, ⟨"stock", "a:b"⟩]
    let keys : List SortField := [⟨"price", .descending⟩, ⟨"-name", .ascending⟩]
    (∀ term ∈ terms, term.IsWritable) ∧
      (ofTerms terms).normalize.1 = keys ∧
      (ofTermTexts terms).normalize.1 = keys ∧
      (ofTermRecords terms).normalize.1 = keys ∧
      (ofTermRecords terms).normalize.2.map Diagnostic.sortField? = [some "stock"] := by
  intro terms keys
  have writable : ∀ term ∈ terms, term.IsWritable := by
    intro term mem
    simp only [terms, List.mem_cons, List.not_mem_nil, or_false] at mem
    rcases mem with rfl | rfl | rfl | rfl <;>
      exact ⟨by decide, by decide, by decide, by decide⟩
  obtain ⟨texts, records, sameFields, -, refused⟩ := normalize_forms terms writable
  have asText : (ofTerms terms).normalize.1 = keys := by decide
  refine ⟨writable, asText, ?_, ?_, ?_⟩
  · rw [texts, asText]
  · rw [records, asText]
  · rw [sameFields, refused]
    decide

end SortSpec

end DocQuery
