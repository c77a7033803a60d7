import DocQuery.Proofs.Document.Path
import DocQuery.Proofs.Filter.Mapping
import DocQuery.Proofs.Json.Decode
import DocQuery.Proofs.Query.Selection
import DocQuery.Proofs.Text.Trim
import DocQuery.Query.Request

/-!
# Requests without restricted fields

Before a request of a client is answered, its tests and sort keys on restricted fields are left out.
The two guards read texts on their own, apart from the code that later reads them for good, so the
question is whether both readings name the same field.

A sort key is the delicate case.  The guard drops every sign in front of a part, the later reading
one dash or all plus signs.  They disagree only on a field that itself begins with a sign, and a
path at or below a restricted name does not.

## Main definitions

* `SortEntry.fieldOfPart_eq`: both readings of a sort part name the same field
* `IsUnsigned`: the paths on which the readings agree
* `SortSpec.not_isRestricted_of_mem_normalize`, `Request.not_isRestricted_of_mem_filters`
* `guarded_keys_unrestricted`: neither a test nor a sort key on a restricted field is left
* `Request.IsFromClient`: the requests that clients can make
-/

namespace DocQuery

/-! ### Readings of a sort part -/

/-- A character that the guard drops in front of a sort part. -/
def isSign (c : Char) : Bool := c = '-' || c = '+'

/-- A path that begins with no sign; the empty path is one. -/
def IsUnsigned (path : String) : Prop := ∀ c ∈ path.toList.head?, isSign c = false

namespace SortEntry

variable {cs : List Char} {part : String}

theorem isBlank_of_isSign {c : Char} (sign : isSign c = true) : Text.isBlank c = false := by
  rcases (by simpa [isSign] using sign : c = '-' ∨ c = '+') with rfl | rfl <;> decide

/-- A text whose trimmed form begins with no sign begins with none itself. -/
theorem dropWhile_isSign_of_trimChars {c : Char} {rest : List Char}
    (trimmed : Text.trimChars cs = c :: rest) (plain : isSign c = false) :
    cs.dropWhile isSign = cs := by
  cases cs with
  | nil => rfl
  | cons d more =>
      refine List.dropWhile_cons_of_neg fun sign => ?_
      obtain ⟨rest', kept⟩ := Text.trimChars_cons more (isBlank_of_isSign sign)
      rw [trimmed] at kept
      rw [(List.cons.inj kept).1, sign] at plain
      cases plain

/-- The characters from which a part's field is trimmed: what is behind a dash, what is behind plus
signs, or what is before a colon. -/
theorem ofPart_eq_some {f : SortField} (h : ofPart part = .ok (some f)) :
    ∃ xs, f.field = String.ofList (Text.trimChars xs) ∧ Text.trimChars xs ≠ [] ∧
      ((∀ c ∈ Text.trimChars part.toList, c ≠ ':') ∧
          (Text.trimChars part.toList = '-' :: xs ∨
            xs = (Text.trimChars part.toList).dropWhile (· = '+')) ∨
        xs = (Text.trimChars part.toList).takeWhile (· ≠ ':')) := by
  have field : ∀ {xs : List Char} {direction : SortDirection},
      (if (Text.trimChars xs).isEmpty then none
        else some (⟨String.ofList (Text.trimChars xs), direction⟩ : SortField)) = some f →
      f.field = String.ofList (Text.trimChars xs) ∧ Text.trimChars xs ≠ [] := by
    intro xs direction h
    split at h
    · cases h
    · next nonempty => exact ⟨(Option.some.inj h) ▸ rfl, by simpa using nonempty⟩
  rw [ofPart] at h
  dsimp only at h
  cases split : Text.splitOnce ':' (Text.trimChars part.toList) with
  | none =>
      have noColon : ∀ c ∈ Text.trimChars part.toList, c ≠ ':' := fun c mem => by
        simpa using List.takeWhile_eq_self_iff.mp (Text.splitOnce_eq_none split) c mem
      rw [split] at h
      dsimp only at h
      split at h
      · next rest dash =>
          obtain ⟨named, nonempty⟩ := field (Except.ok.inj h)
          exact ⟨rest, named, nonempty, .inl ⟨noColon, .inl dash⟩⟩
      · obtain ⟨named, nonempty⟩ := field (Except.ok.inj h)
        exact ⟨_, named, nonempty, .inl ⟨noColon, .inr rfl⟩⟩
  | some parts =>
      obtain ⟨before, after⟩ := parts
      rw [split] at h
      dsimp only at h
      rw [← Text.splitOnce_eq_some split]
      have fromBefore : ∃ direction : SortDirection,
          (if (Text.trimChars before).isEmpty then none
            else some (⟨String.ofList (Text.trimChars before), direction⟩ : SortField)) = some f := by
        split at h
        · exact ⟨_, Except.ok.inj h⟩
        · split at h
          · exact ⟨_, Except.ok.inj h⟩
          · split at h <;> cases h
      obtain ⟨direction, known⟩ := fromBefore
      obtain ⟨named, nonempty⟩ := field known
      exact ⟨before, named, nonempty, .inr rfl⟩

theorem dropWhile_isSign_dropWhile (cs : List Char) :
    (cs.dropWhile (· = '+')).dropWhile isSign = cs.dropWhile isSign := by
  induction cs with
  | nil => rfl
  | cons c rest ih =>
      by_cases plus : c = '+'
      · subst plus
        rw [List.dropWhile_cons_of_pos (by decide), List.dropWhile_cons_of_pos (by decide), ih]
      · rw [List.dropWhile_cons_of_neg (by simpa using plus)]

/-- **Both readings of a sort part name the same field**, unless that begins with a sign. -/
theorem fieldOfPart_eq {f : SortField} (h : ofPart part = .ok (some f))
    (plain : IsUnsigned f.field) : SortSpec.fieldOfPart part = f.field := by
  obtain ⟨xs, named, nonempty, origin⟩ := ofPart_eq_some h
  obtain ⟨c, rest, trimmed⟩ := List.exists_cons_of_ne_nil nonempty
  have plain : isSign c = false := by
    refine plain c ?_
    rw [named, String.toList_ofList, trimmed]
    rfl
  have kept : xs.dropWhile isSign = xs := dropWhile_isSign_of_trimChars trimmed plain
  have guarded : ((Text.trimChars part.toList).dropWhile isSign).takeWhile (· ≠ ':') = xs := by
    rcases origin with ⟨noColon, dash | plus⟩ | colon
    · have whole : ∀ d ∈ xs, d ≠ ':' := fun d mem => noColon d (dash ▸ List.mem_cons_of_mem _ mem)
      rw [dash, List.dropWhile_cons_of_pos (by decide), kept]
      exact List.takeWhile_eq_self_iff.mpr (by simpa using whole)
    · have whole : ∀ d ∈ xs, d ≠ ':' := fun d mem =>
        noColon d ((List.dropWhile_sublist _).subset (plus ▸ mem))
      rw [← dropWhile_isSign_dropWhile, ← plus, kept]
      exact List.takeWhile_eq_self_iff.mpr (by simpa using whole)
    · -- the field stands at the very start, so nothing is dropped in front of it
      have start : (Text.trimChars part.toList).dropWhile isSign = Text.trimChars part.toList := by
        cases chars : Text.trimChars part.toList with
        | nil => rfl
        | cons d more =>
            refine List.dropWhile_cons_of_neg fun sign => ?_
            have head : xs = d :: more.takeWhile (· ≠ ':') := by
              rw [colon, chars]
              refine List.takeWhile_cons_of_pos ?_
              rcases (by simpa [isSign] using sign : d = '-' ∨ d = '+') with rfl | rfl <;> decide
            rw [head, List.dropWhile_cons_of_pos sign] at kept
            have shorter := congrArg List.length kept
            have bound := (List.dropWhile_sublist isSign (l := more.takeWhile (· ≠ ':'))).length_le
            simp only [List.length_cons] at shorter
            omega
      rw [start, ← colon]
  rw [SortSpec.fieldOfPart, named]
  exact congrArg (fun cs => String.ofList (Text.trimChars cs)) guarded

end SortEntry

/-- A name that a path can begin with after the guard has dropped the signs in front. -/
def IsPlainName (name : String) : Prop := ∃ c rest, name.toList = c :: rest ∧ isSign c = false

theorem IsPlainName.isUnsigned {name : String} (plain : IsPlainName name) : IsUnsigned name := by
  obtain ⟨c, rest, chars, notSign⟩ := plain
  rw [IsUnsigned, chars]
  rintro d ⟨⟩
  exact notSign

/-- A path at or below an unsigned name is unsigned: below the empty name stands a point. -/
theorem IsUnsigned.of_covers {name path : String} (unsigned : IsUnsigned name)
    (below : isAtOrBelow name path = true) : IsUnsigned path := by
  rw [isAtOrBelow, Bool.or_eq_true, beq_iff_eq, List.isPrefixOf_iff_prefix] at below
  rcases below with rfl | ⟨more, split⟩
  · exact unsigned
  · unfold IsUnsigned at unsigned ⊢
    rw [← split]
    cases chars : name.toList with
    | nil =>
        rintro d ⟨⟩
        decide
    | cons c rest =>
        rw [chars] at unsigned
        exact unsigned

/-! ### Sort requests -/

namespace SortSpec

variable {blocked : String → Bool} {names : List String}

/-- The parts of a guarded text are empty or not blocked. -/
theorem of_mem_restrictText {text part : String}
    (mem : part ∈ Text.splitOnChar ',' (restrictText blocked text)) :
    part = "" ∨ blocked (fieldOfPart part) = false := by
  have comma : "," = String.singleton ',' := rfl
  rw [restrictText, comma] at mem
  by_cases none : (Text.splitOnChar ',' text).filter (fun part => !blocked (fieldOfPart part)) = []
  · rw [none, Text.join, String.intercalate_nil] at mem
    exact .inl (List.mem_singleton.mp mem)
  · rw [Text.splitOnChar_join none fun part h =>
      Text.notMem_of_mem_splitOnChar (List.mem_filter.mp h).1] at mem
    exact .inr (by simpa using (List.mem_filter.mp mem).2)

/-- A field that a guarded request sorts by is not restricted, if the guard blocks restricted
fields. -/
theorem not_isRestricted_of_mem_parts (unsigned : ∀ name ∈ names, IsUnsigned name)
    (blocks : ∀ path, isRestricted names path = true → blocked path = true) {spec : SortSpec}
    {f : SortField} (mem : .ok (some f) ∈ (spec.restrict blocked).parts) :
    isRestricted names f.field = false := by
  have fromText : ∀ text : String, .ok (some f) ∈ SortEntry.ofText (restrictText blocked text) →
      isRestricted names f.field = false := by
    intro text inText
    obtain ⟨part, inParts, asked⟩ := List.mem_map.mp inText
    rw [Bool.eq_false_iff]
    intro restricted
    obtain ⟨name, listed, below⟩ := List.any_eq_true.mp restricted
    -- the guard and the sort read a restricted field alike, since no sign stands before it
    have same := SortEntry.fieldOfPart_eq asked ((unsigned name listed).of_covers below)
    rcases of_mem_restrictText inParts with rfl | free
    · have nothing : SortEntry.ofPart "" = .ok none := by decide
      rw [nothing] at asked
      cases asked
    · rw [same, blocks _ restricted] at free
      cases free
  cases spec with
  | text s => exact fromText s mem
  | list entries =>
      obtain ⟨entry, inEntries, inParts⟩ := List.mem_flatMap.mp mem
      obtain ⟨original, -, kept⟩ := List.mem_filterMap.mp inEntries
      cases original with
      | text s =>
          obtain rfl := Option.some.inj kept
          exact fromText s inParts
      | record field order =>
          change (if blocked (Text.trim field) then none else some (SortEntry.record field order))
            = some entry at kept
          split at kept
          · cases kept
          · next free =>
              obtain rfl := Option.some.inj kept
              have asked := (List.mem_singleton.mp inParts).symm
              have named : f.field = Text.trim field := by
                rw [SortEntry.ofRecord] at asked
                split at asked
                · cases asked
                · split at asked
                  · rw [← Option.some.inj (Except.ok.inj asked)]
                  · cases asked
              rw [named, Bool.eq_false_iff]
              exact fun restricted => free (blocks _ restricted)

theorem mem_of_mem_foldl_addField {fields start : List SortField} {f : SortField}
    (mem : f ∈ fields.foldl addField start) : f ∈ start ∨ f ∈ fields := by
  induction fields generalizing start with
  | nil => exact .inl mem
  | cons next rest ih =>
      rcases ih mem with h | h
      · rw [addField] at h
        split at h
        · exact .inl h
        · rcases List.mem_append.mp h with h | h
          · exact .inl h
          · exact .inr (List.mem_singleton.mp h ▸ List.mem_cons_self)
      · exact .inr (List.mem_cons_of_mem _ h)

/-- **A guarded sort request sorts by no restricted field.** -/
theorem not_isRestricted_of_mem_normalize (unsigned : ∀ name ∈ names, IsUnsigned name)
    (blocks : ∀ path, isRestricted names path = true → blocked path = true) {spec : SortSpec}
    {f : SortField} (mem : f ∈ (spec.restrict blocked).normalize.1) :
    isRestricted names f.field = false := by
  rcases mem_of_mem_foldl_addField mem with h | h
  · cases h
  · obtain ⟨asked, inParts, isField⟩ := List.mem_filterMap.mp h
    have part : .ok (some f) ∈ (spec.restrict blocked).parts := by
      cases asked with
      | error d => cases isField
      | ok field => exact isField ▸ inParts
    exact not_isRestricted_of_mem_parts unsigned blocks part

end SortSpec

/-! ### Requests of clients -/

namespace Request

/-- A request that a client can make: of query-string parameters, or of a body, which has no default
filters. -/
def IsFromClient (c : Collection) (request : Request) : Prop :=
  (∃ parameters, request = ofParameters parameters c) ∨
    ∃ body, body.defaultFilters = [] ∧ request = ofBody body c

variable {c : Collection} {request : Request}

/-- A body that a client writes names no default filters. -/
theorem isFromClient_of_decode {draft : Draft} {body : Request} (decoded : decode draft = .ok body) :
    (body.ofBody c).IsFromClient c := by
  have noDefaults : body.defaultFilters = [] := by
    refine Decoder.record_induction (I := fun r : Request => r.defaultFilters = []) ?_ decoded rfl
    intro field mem
    simp only [List.mem_cons, List.not_mem_nil, or_false] at mem
    rcases mem with rfl | rfl | rfl | rfl | rfl | rfl <;>
      exact RecordField.keeps_defaulted fun _ _ h => h
  exact .inr ⟨body, noDefaults, rfl⟩

/-- Every request of a client has passed the guard. -/
theorem IsFromClient.exists_enforced (h : request.IsFromClient c) :
    ∃ original : Request, original.defaultFilters = [] ∧ request = original.enforceRestrictions c := by
  rcases h with ⟨parameters, rfl⟩ | ⟨body, noDefaults, rfl⟩
  · exact ⟨_, rfl, rfl⟩
  · exact ⟨body, noDefaults, rfl⟩

theorem isRestricted_mono {names more : List String} (subset : names ⊆ more) {path : String}
    (h : isRestricted names path = true) : isRestricted more path = true := by
  obtain ⟨name, listed, below⟩ := List.any_eq_true.mp h
  exact List.any_eq_true.mpr ⟨name, subset listed, below⟩

section Guarded

variable {names : List String}
  (subset : names ⊆ unionFields request.restrictedFields c.restrictedFields)
include subset

/-- A guarded request tests no restricted field. -/
theorem not_isRestricted_of_mem_filters {member : String × Json}
    (mem : member ∈ (request.enforceRestrictions c).filters) :
    isRestricted names (FilterKey.parse member.1).field = false := by
  by_cases none : unionFields request.restrictedFields c.restrictedFields = []
  · rw [none] at subset
    rw [List.subset_nil.mp subset]
    rfl
  · rw [enforceRestrictions, if_neg (by simpa using none)] at mem
    have kept := (List.mem_filter.mp mem).2
    rw [Bool.not_eq_true', testsRestricted, Bool.or_eq_false_iff] at kept
    rw [Bool.eq_false_iff]
    intro restricted
    rw [isRestricted_mono subset restricted] at kept
    cases kept.1

/-- A guarded request sorts by no restricted field. -/
theorem not_isRestricted_of_mem_sort (unsigned : ∀ name ∈ names, IsUnsigned name) {f : SortField}
    (mem : f ∈ (((request.enforceRestrictions c).sort.map SortSpec.normalize).getD ([], [])).1) :
    isRestricted names f.field = false := by
  by_cases none : unionFields request.restrictedFields c.restrictedFields = []
  · rw [none] at subset
    rw [List.subset_nil.mp subset]
    rfl
  · rw [enforceRestrictions, if_neg (by simpa using none)] at mem
    cases asked : request.sort with
    | none =>
        rw [asked] at mem
        cases mem
    | some spec =>
        rw [asked] at mem
        exact SortSpec.not_isRestricted_of_mem_normalize unsigned
          (fun path h => isRestricted_mono subset h) mem

end Guarded

theorem defaultFilters_enforceRestrictions :
    (request.enforceRestrictions c).defaultFilters = request.defaultFilters := by
  rw [enforceRestrictions]
  split <;> rfl

end Request

/-! ### The keys of a guarded request -/

/-- **Neither a test nor a sort key on a restricted field is left**, be it restricted by the request
or by the collection, once all keys of the guarded request are read. -/
theorem guarded_keys_unrestricted [PatternReader] {c : Collection} {request : Request}
    (unsigned : ∀ name ∈ request.restrictedFields ++ c.restrictedFields, IsUnsigned name) :
    let guarded := request.enforceRestrictions c
    let restricted := request.restrictedFields ++ c.restrictedFields
    (∀ member ∈ (mapFilters guarded.filters .untrusted).clauses,
        isRestricted restricted member.1 = false) ∧
      ∀ spec ∈ guarded.sort, ∀ f ∈ spec.normalize.1, isRestricted restricted f.field = false := by
  intro guarded restricted
  have subset : restricted ⊆ Request.unionFields request.restrictedFields c.restrictedFields := by
    intro name mem
    exact Request.mem_unionFields.mpr (List.mem_append.mp mem)
  constructor
  · intro member mem
    obtain ⟨-, entry, inFilters, field⟩ := exists_entry_of_mem_mapFilters mem
    rw [← field]
    exact Request.not_isRestricted_of_mem_filters subset inFilters
  · intro spec asked f mem
    refine Request.not_isRestricted_of_mem_sort subset unsigned ?_
    rw [show (request.enforceRestrictions c).sort = some spec from asked]
    exact mem

/-- A request that restricts notes itself and asks for notes and passwords in several ways. -/
theorem guarded_keys_unrestricted_users :
    let c : Collection := { Collection.named "users" with restrictedFields := ["password"] }
    let request : Request := { Request.empty with
      filters := [("password_regex", .string "^h"), ("notes.body", .null), ("name", .string "Ada")]
      sort := some (.list [.text " --password:desc, + notes.body ,name", .record " notes " none])
      restrictedFields := ["notes"] }
    let guarded := request.enforceRestrictions c
    (mapFilters guarded.filters .untrusted).clauses.keys = ["name"] ∧
      guarded.sort.map (·.normalize.1.map (·.field)) = some ["name"] ∧
      (∀ member ∈ (mapFilters guarded.filters .untrusted).clauses,
        isRestricted ["notes", "password"] member.1 = false) ∧
      ∀ spec ∈ guarded.sort, ∀ f ∈ spec.normalize.1,
        isRestricted ["notes", "password"] f.field = false := by
  intro c request guarded
  have unsigned : ∀ name ∈ request.restrictedFields ++ c.restrictedFields, IsUnsigned name := by
    intro name listed initial first
    change name ∈ ["notes", "password"] at listed
    rcases List.mem_pair.mp listed with rfl | rfl
    · obtain rfl : 'n' = initial := Option.some.inj first
      rfl
    · obtain rfl : 'p' = initial := Option.some.inj first
      rfl
  exact ⟨by decide, by decide, guarded_keys_unrestricted unsigned⟩

end DocQuery
