import DocQuery.Proofs.Filter.TestFold

/-!
# Entries for one field hold together

Several entries of a client's filter may test one field, and folding makes one clause of them.  That
clause asks for what the entries ask for, each on its own, as far as the fold keeps their tests
(`Foldable`) and no entry brings options for the pattern of another (`PatternsApart`).  The second
condition is there because an operator is not decided by itself: a pattern reads the options of the
clause that it stands in, while an entry with nothing but options asks for nothing alone.

The tests have to be foldable in the order of all entries together and for each entry alone, since a
test that an entry loses alone may be kept behind another entry.

## Main definitions

* `AskApart`, `PatternsApart`: two entries that do not get into each other's way
* `testsOn`, `FoldableOn`: the tests that a filter asks for on a field, and that they are foldable
* `clause_iff_entries`: one field
* `matchesDocument_mapFilters_iff`: a whole filter
-/

namespace DocQuery

/-! ### The clause of a field -/

section Field

variable {P : String × Json → Prop} {Q : String → Document → String × Json → Prop}
  {entries filters : Document} {field : String}

/-- The clause of a field asks for what its entries ask for, where these fold well. -/
theorem clause_iff_tests [PatternReader] (decided : Clause.TestWise P Q)
    (path : isDollarKey field = false) (own : ∀ entry ∈ entries, fieldOf entry = field)
    (well : FoldsWell (entries.flatMap nativeTests)) :
    (∀ clause, (mapFilters entries .untrusted).clauses.get? field = some clause →
        P (field, clause)) ↔
      ∀ test ∈ entries.flatMap nativeTests,
        Q field (entries.flatMap nativeTests).reverse test := by
  have parts : (entries.flatMap clientParts).flatMap (·.tests) = entries.flatMap nativeTests :=
    List.flatMap_assoc
  have fold : FoldOf (Q field (entries.flatMap nativeTests).reverse) (entries.flatMap nativeTests)
      (testsAt (mapFilters entries .untrusted).clauses field) := by
    have none : FoldOf (Q field (entries.flatMap nativeTests).reverse) [] (testsAt [] field) := .nil
    rw [clauses_mapFilters]
    rw [← parts] at well none ⊢
    refine none.foldl_addTo (decided.equalities _ _) ?_ ?_ well <;>
      intro part mem <;> obtain ⟨entry, inEntries, inParts⟩ := List.mem_flatMap.mp mem
    · exact (field_of_mem_clientParts inParts).trans (own entry inEntries)
    · exact isOfClient_of_mem_clientParts inParts
  rw [← fold.means]
  have options := fold.options
  cases found : (mapFilters entries .untrusted).clauses.get? field with
  | none =>
      rw [testsAt, found]
      simp
  | some clause =>
      rw [testsAt_of_get? found] at options ⊢
      have same : optionsOf clause.tests = optionsOf (entries.flatMap nativeTests).reverse := by
        rw [optionsOf, options, optionsOf]
      simp only [Option.some.injEq, forall_eq', decided.iff_tests path]
      exact forall₂_congr fun test _ => decided.congr fun _ => same

end Field

/-! ### Several entries -/

/-- Two entries ask for no operator both, equalities apart. -/
def AskApart [PatternReader] (entry other : String × Json) : Prop :=
  ∀ key ∈ (nativeTests entry).keys, key ∈ (nativeTests other).keys → key = "$eq"

/-- Neither of two entries brings options for a pattern of the other. -/
def PatternsApart [PatternReader] (entry other : String × Json) : Prop :=
  ("$regex" ∈ (nativeTests entry).keys → "$options" ∉ (nativeTests other).keys) ∧
    ("$regex" ∈ (nativeTests other).keys → "$options" ∉ (nativeTests entry).keys)

instance [PatternReader] (entry other : String × Json) : Decidable (AskApart entry other) :=
  inferInstanceAs (Decidable
    (∀ key ∈ (nativeTests entry).keys, key ∈ (nativeTests other).keys → key = "$eq"))

instance [PatternReader] (entry other : String × Json) : Decidable (PatternsApart entry other) :=
  inferInstanceAs (Decidable
    (("$regex" ∈ (nativeTests entry).keys → "$options" ∉ (nativeTests other).keys) ∧
      ("$regex" ∈ (nativeTests other).keys → "$options" ∉ (nativeTests entry).keys)))

/-- The tests that a filter asks for on a field. -/
def testsOn [PatternReader] (filters : Document) (field : String) : Document :=
  (filters.filter (fieldOf · = field)).flatMap nativeTests

/-- The tests that a filter asks for on a field are foldable, those of all its entries together and
those of each entry alone. -/
def FoldableOn [PatternReader] (filters : Document) (field : String) : Prop :=
  Foldable (testsOn filters field) ∧
    ∀ entry ∈ filters, fieldOf entry = field → Foldable (nativeTests entry)

instance [PatternReader] (filters : Document) (field : String) :
    Decidable (FoldableOn filters field) :=
  inferInstanceAs (Decidable (Foldable (testsOn filters field) ∧
    ∀ entry ∈ filters, fieldOf entry = field → Foldable (nativeTests entry)))

section Entries

variable {P : String × Json → Prop} {Q : String → Document → String × Json → Prop}
  {entries filters : Document} {entry : String × Json} {field : String}

theorem Document.get?_reverse_of_notMem {doc : Document} {key : String} (absent : key ∉ doc.keys) :
    Document.get? doc.reverse key = none := by
  rw [Document.get?_eq_none_iff]
  simpa [Document.keys] using absent

/-- A pattern has the options that its entry gives it. -/
theorem optionsOf_entries [PatternReader] (apart : entries.Pairwise PatternsApart)
    (mem : entry ∈ entries) (pattern : "$regex" ∈ (nativeTests entry).keys) :
    optionsOf (entries.flatMap nativeTests).reverse = optionsOf (nativeTests entry).reverse := by
  obtain ⟨before, after, rfl⟩ := List.append_of_mem mem
  obtain ⟨-, later, earlier⟩ := List.pairwise_append.mp apart
  have none : ∀ others : Document,
      (∀ other ∈ others, "$options" ∉ (nativeTests other).keys) →
      Document.get? (others.flatMap nativeTests).reverse "$options" = none := by
    intro others absent
    refine Document.get?_reverse_of_notMem fun present => ?_
    obtain ⟨test, inTests, isOptions⟩ := List.mem_map.mp present
    obtain ⟨other, inOthers, inOwn⟩ := List.mem_flatMap.mp inTests
    exact absent other inOthers (isOptions ▸ List.mem_map_of_mem inOwn)
  have noneBefore := none before fun other inBefore =>
    (earlier other inBefore entry List.mem_cons_self).2 pattern
  have noneAfter := none after fun other inAfter =>
    ((List.pairwise_cons.mp later).1 other inAfter).1 pattern
  rw [optionsOf, optionsOf, List.flatMap_append, List.flatMap_cons, List.reverse_append,
    List.reverse_append, Document.get?_append, Document.get?_append, noneBefore, noneAfter,
    Option.none_or, Option.or_none]

/-- Entries that ask for different operators fold well if their tests are foldable. -/
theorem foldsWell_of_entries [PatternReader] (apart : entries.Pairwise AskApart)
    (wellKeyed : ∀ entry ∈ entries, entry.2.isWellKeyed = true)
    (foldable : Foldable (entries.flatMap nativeTests)) :
    FoldsWell (entries.flatMap nativeTests) where
  foldable := foldable
  wellKeyed value mem := by
    obtain ⟨entry, inEntries, inTests⟩ := List.mem_flatMap.mp mem
    exact isWellKeyed_of_mem_nativeTests (wellKeyed entry inEntries) inTests
  distinct := by
    rw [operatorsAsked_flatMap, List.nodup_flatMap]
    refine ⟨fun entry mem => nodup_operatorsAsked (wellKeyed entry mem), apart.imp ?_⟩
    intro entry other apart key asks asksToo
    obtain ⟨mem, notEq, -⟩ := mem_operatorsAsked.mp asks
    exact notEq (apart key mem (mem_operatorsAsked.mp asksToo).1)

/-- Entries for one field ask together for what each of them asks for alone. -/
theorem clause_iff_clauses [PatternReader] (decided : Clause.TestWise P Q)
    (path : isDollarKey field = false) (own : ∀ entry ∈ entries, fieldOf entry = field)
    (well : FoldsWell (entries.flatMap nativeTests))
    (alone : ∀ entry ∈ entries, FoldsWell (nativeTests entry))
    (apart : entries.Pairwise PatternsApart) :
    (∀ clause, (mapFilters entries .untrusted).clauses.get? field = some clause →
        P (field, clause)) ↔
      ∀ entry ∈ entries, ∀ clause,
        (mapFilters [entry] .untrusted).clauses.get? field = some clause → P (field, clause) := by
  rw [clause_iff_tests decided path own well, List.forall_mem_flatMap]
  refine forall₂_congr fun entry mem => ?_
  have single : [entry].flatMap nativeTests = nativeTests entry := List.flatMap_singleton _ _
  rw [clause_iff_tests decided path (by simpa using own entry mem) (single ▸ alone entry mem),
    single]
  refine forall₂_congr fun test inTests => decided.congr fun isPattern => ?_
  exact optionsOf_entries apart mem (isPattern ▸ List.mem_map_of_mem inTests)

end Entries

/-! ### A whole filter -/

section Filter

variable {P : String × Json → Prop} {Q : String → Document → String × Json → Prop}
  {filters : Document} {fields : List String}

/-- An entry without a fault is for a field and not itself an operator. -/
theorem isDollarKey_fieldOf [PatternReader] {entry : String × Json}
    (accepted : (mapFilters [entry] .untrusted).diagnostics = []) :
    isDollarKey (fieldOf entry) = false := by
  refine FilterKey.isDollarKey_parse (Bool.eq_false_iff.mpr fun dollar => ?_)
  have refused : .error (FilterPart.refusal entry.1 .operatorKey) ∈
      FilterPart.ofEntry .untrusted entry := by
    rw [FilterPart.ofEntry, if_pos dollar, if_neg (by rintro ⟨trusted, -⟩; cases trusted)]
    exact List.mem_singleton.mpr rfl
  have reported : FilterPart.refusal entry.1 .operatorKey ∈
      (mapFilters [entry] .untrusted).diagnostics :=
    mem_diagnostics_mapFilters.mpr ⟨entry, List.mem_singleton.mpr rfl, refused⟩
  rw [accepted] at reported
  cases reported

/-- The clause of a field asks for what the entries for the field ask for: one entry gives it alone,
and several fold well. -/
theorem clause_iff_entries [PatternReader] (decided : Clause.TestWise P Q)
    (wellKeyed : (Json.object filters).isWellKeyed = true)
    (accepted : ∀ entry ∈ filters, (mapFilters [entry] .untrusted).diagnostics = [])
    (apart : filters.Pairwise fun entry other =>
      fieldOf entry = fieldOf other → AskApart entry other)
    (foldable : filters.Pairwise fun entry other => fieldOf entry = fieldOf other →
      FoldableOn filters (fieldOf entry) ∧ PatternsApart entry other) (field : String) :
    (∀ clause, (mapFilters filters .untrusted).clauses.get? field = some clause →
        P (field, clause)) ↔
      ∀ entry ∈ filters.filter (fieldOf · = field), ∀ clause,
        (mapFilters [entry] .untrusted).clauses.get? field = some clause → P (field, clause) := by
  have own : ∀ entry ∈ filters.filter (fieldOf · = field), fieldOf entry = field :=
    fun entry mem => by simpa using (List.mem_filter.mp mem).2
  have inFilters : ∀ entry ∈ filters.filter (fieldOf · = field), entry ∈ filters :=
    fun entry mem => (List.mem_filter.mp mem).1
  have pairwise : ∀ {R : String × Json → String × Json → Prop},
      filters.Pairwise (fun entry other => fieldOf entry = fieldOf other → R entry other) →
      (filters.filter (fieldOf · = field)).Pairwise R := fun related =>
    (related.filter _).imp_of_mem fun inLeft inRight holds =>
      holds ((own _ inLeft).trans (own _ inRight).symm)
  have apart := pairwise apart
  have foldable := pairwise foldable
  rw [get?_mapFilters]
  generalize entries : filters.filter (fieldOf · = field) = list at *
  match list with
  | [] => simp [mapFilters, MappedFilters.empty]
  | [entry] => simp
  | entry :: other :: rest =>
      have path : isDollarKey field = false := by
        rw [← own entry List.mem_cons_self]
        exact isDollarKey_fieldOf (accepted entry (inFilters entry List.mem_cons_self))
      obtain ⟨together, each⟩ := ((List.pairwise_cons.mp foldable).1 other List.mem_cons_self).1
      rw [own entry List.mem_cons_self] at each
      rw [own entry List.mem_cons_self, testsOn, entries] at together
      have keyed : ∀ member ∈ entry :: other :: rest, member.2.isWellKeyed = true :=
        fun member mem => (Json.isWellKeyed_object.mp wellKeyed).2 member (inFilters member mem)
      have alone : ∀ member ∈ entry :: other :: rest, FoldsWell (nativeTests member) :=
        fun member mem =>
          { foldable := each member (inFilters member mem) (own member mem)
            wellKeyed := fun _ asked => isWellKeyed_of_mem_nativeTests (keyed member mem) asked
            distinct := nodup_operatorsAsked (keyed member mem) }
      exact clause_iff_clauses decided path own (foldsWell_of_entries apart keyed together) alone
        (foldable.imp And.right)

/-- What is decided test by test holds of all clauses of a filter exactly if it holds of all clauses
of its entries, each mapped alone. -/
theorem forall_clauses_iff [PatternReader] (decided : Clause.TestWise P Q)
    (wellKeyed : (Json.object filters).isWellKeyed = true)
    (accepted : ∀ entry ∈ filters, (mapFilters [entry] .untrusted).diagnostics = [])
    (apart : filters.Pairwise fun entry other =>
      fieldOf entry = fieldOf other → AskApart entry other)
    (foldable : filters.Pairwise fun entry other => fieldOf entry = fieldOf other →
      FoldableOn filters (fieldOf entry) ∧ PatternsApart entry other) :
    (∀ member ∈ (mapFilters filters .untrusted).clauses, P member) ↔
      ∀ entry ∈ filters, ∀ member ∈ (mapFilters [entry] .untrusted).clauses, P member := by
  have byField : ∀ filters : Document,
      (∀ member ∈ (mapFilters filters .untrusted).clauses, P member) ↔ ∀ field clause,
        (mapFilters filters .untrusted).clauses.get? field = some clause → P (field, clause) := by
    intro filters
    simp only [Document.get?_eq_some_iff (distinctKeys_mapFilters filters .untrusted), Prod.forall]
  have each := clause_iff_entries decided wellKeyed accepted apart foldable
  rw [byField]
  constructor
  · intro whole entry mem
    refine (byField [entry]).mpr fun field clause found => ?_
    have inClauses := Document.mem_of_get? found
    obtain ⟨-, other, inOwn, isField⟩ := exists_entry_of_mem_mapFilters inClauses
    obtain rfl := List.mem_singleton.mp inOwn
    exact (each field).mp (whole field) other
      (List.mem_filter.mpr ⟨mem, decide_eq_true isField⟩) clause found
  · intro alone field
    refine (each field).mpr fun entry mem clause found => ?_
    exact alone entry (List.mem_filter.mp mem).1 _ (Document.mem_of_get? found)

/-- **Entries for one field hold together.**  Where every entry of a client's filter is accepted and
compiles on its own, where no two entries for one field ask for the same operator, equalities apart,
and where the tests of every field with several entries are foldable in their order, their patterns
with options of their own, the whole filter compiles, and a document matches it exactly if it matches
every entry alone. -/
theorem matchesDocument_mapFilters_iff [PatternReader]
    (wellKeyed : (Json.object filters).isWellKeyed = true)
    (accepted : ∀ entry ∈ filters, (mapFilters [entry] .untrusted).diagnostics = [])
    (compiles : ∀ entry ∈ filters,
      ∃ alone, Predicate.compile (mapFilters [entry] .untrusted).clauses fields = .ok alone)
    (apart : filters.Pairwise fun entry other =>
      fieldOf entry = fieldOf other → AskApart entry other)
    (foldable : filters.Pairwise fun entry other => fieldOf entry = fieldOf other →
      FoldableOn filters (fieldOf entry) ∧ PatternsApart entry other) :
    ∃ whole, Predicate.compile (mapFilters filters .untrusted).clauses fields = .ok whole ∧
      ∀ doc, whole.matchesDocument doc = true ↔ ∀ entry ∈ filters, ∀ alone,
        Predicate.compile (mapFilters [entry] .untrusted).clauses fields = .ok alone →
        alone.matchesDocument doc = true := by
  obtain ⟨whole, compiled⟩ : ∃ whole,
      Predicate.compile (mapFilters filters .untrusted).clauses fields = .ok whole := by
    simp only [Predicate.exists_compile_iff] at compiles ⊢
    exact (forall_clauses_iff (Clause.testWise_compiles fields) wellKeyed accepted apart
      foldable).mpr compiles
  refine ⟨whole, compiled, fun doc => ?_⟩
  rw [Predicate.matchesDocument_iff compiled,
    forall_clauses_iff (Clause.testWise_accepts fields doc) wellKeyed accepted apart foldable]
  refine forall₂_congr fun entry mem => ?_
  obtain ⟨alone, isAlone⟩ := compiles entry mem
  rw [← Predicate.matchesDocument_iff isAlone]
  constructor
  · intro matched other isOther
    rwa [Except.ok_unique isOther isAlone]
  · exact fun matched => matched alone isAlone

end Filter

/-- Two values, a list between them and a size for one field, a range for another, a pattern with a
value to leave out for a third, and `{}` behind an operator for a fourth. -/
theorem matchesDocument_mapFilters_iff_tags :
    let filters : Document := [("tags", .string "a"), ("age_between", .string "30, 18"),
      ("tags_size", .ofNat 2), ("name_regex", .string "/^a/s"), ("tags_all", .string "c"),
      ("tags_eq", .string "b"), ("name", .object [("$ne", .string "ada")]),
      ("meta_exists", .bool true), ("meta", .object [])]
    (mapFilters filters .untrusted).clauses.keys = ["tags", "age", "name", "meta"] ∧
    ∃ whole, Predicate.compile (mapFilters filters .untrusted).clauses [] = .ok whole ∧
      ∀ doc, whole.matchesDocument doc = true ↔ ∀ entry ∈ filters, ∀ alone,
        Predicate.compile (mapFilters [entry] .untrusted).clauses [] = .ok alone →
        alone.matchesDocument doc = true := by
  intro filters
  have compile : ∀ entry ∈ filters,
      (Predicate.compile (mapFilters [entry] .untrusted).clauses []).isOk = true := by
    decide +kernel
  exact ⟨by decide +kernel, matchesDocument_mapFilters_iff (by decide +kernel) (by decide +kernel)
    (fun entry mem => Except.exists_eq_ok_of_isOk (compile entry mem)) (by decide +kernel)
    (by decide +kernel)⟩

/-- The literal `{}` is lost when an operator joins it. -/
example :
    let matched (filters doc : Document) : Option Bool :=
      (Predicate.compile (mapFilters filters .untrusted).clauses []).toOption.map
        (·.matchesDocument doc)
    let doc : Document := [("meta", .object [("x", .ofNat 1)])]
    matched [("meta", .object []), ("meta_exists", .bool true)] doc = some true ∧
      matched [("meta", .object [])] doc = some false := by
  decide +kernel

end DocQuery
