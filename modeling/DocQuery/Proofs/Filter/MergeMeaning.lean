import DocQuery.Proofs.Filter.Override
import DocQuery.Proofs.Predicate.Congruence

/-!
# The meaning of a merge

A document matches the merge of two filters exactly if it matches the client's filter and what the
client leaves in force of the defaults (`matches_mergeFilters`).  What is left is `standingBeside`:
the defaults without the operators that the client's map for the same field also carries.

One pair of keys stands outside this reading.  `$regex` means nothing without the `$options`
beside it, so a field for which both maps mention either of the two can take its pattern from one
side and its options from the other.  `patternsApart` excludes that, and nothing else.

## Main definitions

* `patternsApart`: no field takes its pattern from both sides
* `standingBeside`: what a client leaves in force of the defaults
* `matches_mergeFilters`
-/

namespace DocQuery

/-- Whether an operator map has a part of a pattern. -/
def mentionsPattern (ops : Document) : Bool := ops.contains "$regex" || ops.contains "$options"

/-- For every field with two operator maps, at most one of them has a part of a pattern. -/
def patternsApart (defaults client : Document) : Bool :=
  defaults.all fun entry => isDollarKey entry.1 ||
    match entry.2.operators?, (client.get? entry.1).bind Json.operators? with
    | some ours, some theirs => !(mentionsPattern ours && mentionsPattern theirs)
    | _, _ => true

/-- What a client leaves in force of the defaults: where both have different operator maps for a
field, the client's map takes away the operators that it carries itself. -/
def standingBeside (defaults client : Document) : Document :=
  defaults.filterMap (leftOf Document.contains client)

variable {defaults client : Document} {entry : String × Json} {P : String × Json → Prop}
  {Q : String → Document → String × Json → Prop}

theorem not_mentionsPattern {ops : Document} :
    mentionsPattern ops = false ↔ ops.contains "$regex" = false ∧ ops.contains "$options" = false := by
  rw [mentionsPattern, Bool.or_eq_false_iff]

theorem mentionsPattern_of_meeting {ours theirs : Document}
    (apart : patternsApart defaults client = true) (mem : entry ∈ defaults) (met : meeting client entry = .operators ours theirs) :
    mentionsPattern ours = false ∨ mentionsPattern theirs = false := by
  obtain ⟨mapV, clause, found, mapW⟩ := meeting_operators met
  have path := path_of_meeting met (by simp)
  have here := List.all_eq_true.mp apart entry mem
  simpa [path, mapV, found, mapW] using here

/-! ### Operator maps -/

/-- Where one map has a part of a pattern, the other one has none. -/
theorem noOptions_of_regex {ours theirs : Document}
    (apart : mentionsPattern ours = false ∨ mentionsPattern theirs = false)
    (present : "$regex" ∈ ours.keys) : theirs.contains "$options" = false := by
  rcases apart with h | h
  · rw [← Document.contains_iff, (not_mentionsPattern.mp h).1] at present
    cases present
  · exact (not_mentionsPattern.mp h).2

/-- A merged operator map asks for the client's operators and for those of the default that are
left. -/
theorem operators_requires_iff (decided : Clause.OperatorWise P Q) {ours theirs : Document}
    {clause : Json} (path : isDollarKey entry.1 = false) (met : meeting client entry = .operators ours theirs)
    (mapV : entry.2.operators? = some ours) (mapW : clause.operators? = some theirs)
    (distinct : ours.DistinctKeys) (distinct' : theirs.DistinctKeys)
    (apart : mentionsPattern ours = false ∨ mentionsPattern theirs = false) :
    P (entry.1, .object (Resolution.mergeOperators ours theirs)) ↔
      (∀ left, leftOf Document.contains client entry = some left → P left) ∧ P (entry.1, clause) := by
  have mapMerged := operators?_mergeOperators mapV mapW
  have dollar := (Json.operators?_eq_some_iff.mp mapV).2.2
  -- an operator of the client means the same in the merged map as in its own
  have client_iff : ∀ member ∈ theirs,
      Q entry.1 (Resolution.mergeOperators ours theirs) member ↔ Q entry.1 theirs member := by
    intro member mem
    refine decided.congr fun isRegex => ?_
    have noOptions := noOptions_of_regex apart.symm (isRegex ▸ Document.mem_keys_of_mem mem)
    rw [Document.contains, Option.isSome_eq_false_iff, Option.isNone_iff_eq_none] at noOptions
    rw [optionsOf, optionsOf, Resolution.get?_mergeOperators distinct', noOptions, Option.or_none]
  constructor
  · intro merged
    refine ⟨fun left h => ?_, ?_⟩
    · obtain ⟨ops, isLeft, nonempty, rfl⟩ := (leftOf_operators met).mp h
      exact left_of_mergeOperators decided path mapV mapW (fun _ => id)
        (fun present _ => noOptions_of_regex apart (Document.contains_iff.mp present)) isLeft
        nonempty merged
    · refine (decided.operators path mapW).mpr fun member mem => (client_iff member mem).mp ?_
      exact (decided.operators path mapMerged).mp merged member
        ((Resolution.mem_mergeOperators distinct distinct').mpr (.inl mem))
  · rintro ⟨left, theirsHold⟩
    refine (decided.operators path mapMerged).mpr fun member mem => ?_
    rcases (Resolution.mem_mergeOperators distinct distinct').mp mem with inTheirs | ⟨inOurs, fresh⟩
    · exact (client_iff member inTheirs).mpr
        ((decided.operators path mapW).mp theirsHold member inTheirs)
    · -- an operator of the default alone is among what is left of it
      have stays : theirs.contains member.1 = false := by
        rw [Bool.eq_false_iff, Ne, Document.contains_iff]
        exact fresh
      have inLeft : member ∈ ours.filter fun m => !theirs.contains m.1 := by simp [inOurs, stays]
      have holds := left _ ((leftOf_operators met).mpr ⟨_, rfl, List.ne_nil_of_mem inLeft, rfl⟩)
      have mapLeft := Json.operators?_object (List.ne_nil_of_mem inLeft)
        fun m mem => dollar m (List.mem_filter.mp mem).1
      refine (decided.congr fun isRegex => ?_).mp ((decided.operators path mapLeft).mp holds _ inLeft)
      have noOptions := noOptions_of_regex apart (isRegex ▸ Document.mem_keys_of_mem inOurs)
      rw [optionsOf_mergeOperators noOptions]
      exact optionsOf_filter (fun op => !theirs.contains op) (by simp [noOptions])

/-- What is left of a default asks for no more than the default. -/
theorem leftOf_of_default (decided : Clause.OperatorWise P Q)
    (apart : patternsApart defaults client = true) (mem : entry ∈ defaults) {left : String × Json}
    (h : leftOf Document.contains client entry = some left) (holds : P entry) : P left := by
  cases met : meeting client entry with
  | operators ours theirs =>
      obtain ⟨ops, rfl, nonempty, rfl⟩ := (leftOf_operators met).mp h
      obtain ⟨mapV, -⟩ := meeting_operators met
      have path := path_of_meeting met (by simp)
      have dollar := (Json.operators?_eq_some_iff.mp mapV).2.2
      refine (decided.operators path (Json.operators?_object nonempty fun member mem =>
        dollar member (List.mem_filter.mp mem).1)).mpr fun member inLeft => ?_
      have inOurs := (List.mem_filter.mp inLeft).1
      have held := (decided.operators path mapV).mp holds member inOurs
      refine (decided.congr fun isRegex => ?_).mp held
      have noOptions := noOptions_of_regex (mentionsPattern_of_meeting apart mem met)
        (isRegex ▸ Document.mem_keys_of_mem inOurs)
      exact (optionsOf_filter (fun op => !theirs.contains op) (by simp [noOptions])).symm
  | apart | agree | conflict _ =>
      rw [leftOf, met, Option.some.injEq] at h
      exact h ▸ holds

/-! ### Filters -/

/-- What the merge requires because of a default is what is left of it and the client's clause for
the same field. -/
theorem requires_iff_left_and_client (decided : Clause.OperatorWise P Q)
    (apart : patternsApart defaults client = true)
    (hD : (Json.object defaults).isWellKeyed = true) (hU : (Json.object client).isWellKeyed = true)
    (agree : ∀ theirs, client.get? entry.1 = some theirs → isDollarKey entry.1 = false →
      entry.2.equal theirs = true → (P entry ↔ P (entry.1, theirs)))
    (mem : entry ∈ defaults) :
    Requires P client entry ↔
      (∀ left, leftOf Document.contains client entry = some left → P left) ∧
        (isDollarKey entry.1 = false → ∀ theirs, client.get? entry.1 = some theirs →
          P (entry.1, theirs)) := by
  cases met : meeting client entry with
  | apart =>
      have absent : isDollarKey entry.1 = false → client.get? entry.1 = none := fun path =>
        (meeting_apart path).mp met
      rw [Requires, leftOf, met]
      constructor
      · intro h
        refine ⟨fun left same => Option.some.inj same ▸ h, fun path theirs found => ?_⟩
        rw [absent path] at found
        cases found
      · rintro ⟨h, -⟩
        exact h entry rfl
  | agree =>
      obtain ⟨theirs, found, equal⟩ := meeting_agree met
      have path := path_of_meeting met (by simp)
      rw [Requires, leftOf, met]
      constructor
      · intro h
        refine ⟨fun left same => Option.some.inj same ▸ h, fun _ other found' => ?_⟩
        rw [found] at found'
        exact Option.some.inj found' ▸ (agree theirs found path equal).mp h
      · rintro ⟨h, -⟩
        exact h entry rfl
  | operators ours theirs =>
      obtain ⟨mapV, clause, found, mapW⟩ := meeting_operators met
      have path := path_of_meeting met (by simp)
      have wellV := (Json.isWellKeyed_object.mp hD).2 _ mem
      have wellW := (Json.isWellKeyed_object.mp hU).2 _ (Document.mem_of_get? found)
      rw [(Json.operators?_eq_some_iff.mp mapV).1, Json.isWellKeyed_object] at wellV
      rw [(Json.operators?_eq_some_iff.mp mapW).1, Json.isWellKeyed_object] at wellW
      rw [Requires, met]
      simp only [found, path, Option.some.injEq, forall_eq', true_imp_iff]
      exact operators_requires_iff decided path met mapV mapW wellV.1 wellW.1
        (mentionsPattern_of_meeting apart mem met)
  | conflict theirs =>
      have found := meeting_conflict met
      have path := path_of_meeting met (by simp)
      rw [Requires, leftOf, met]
      simp only [found, path, Option.some.injEq, forall_eq', true_imp_iff]

/-- **What a merge asks for is what both sides ask for**, the defaults as far as the client leaves
them in force. -/
theorem forall_mem_mergeFilters_iff (conjunctive : Clause.Conjunctive P)
    (decided : Clause.OperatorWise P Q) (apart : patternsApart defaults client = true)
    (hD : (Json.object defaults).isWellKeyed = true) (hU : (Json.object client).isWellKeyed = true)
    (conjunction : ∀ value, defaults.get? "$and" = some value →
      ∃ items, value = .array items ∧ items ≠ [])
    (agree : ∀ key ours theirs, (key, ours) ∈ defaults → (key, theirs) ∈ client →
      isDollarKey key = false → ours.equal theirs = true → (P (key, ours) ↔ P (key, theirs))) :
    (∀ member ∈ mergeFilters defaults client, P member) ↔
      (∀ member ∈ client, P member) ∧ ∀ member ∈ standingBeside defaults client, P member := by
  have distinct := (Json.isWellKeyed_object.mp hD).1
  have distinct' := (Json.isWellKeyed_object.mp hU).1
  have isDollar : isDollarKey "$and" = true := by decide
  have andStands : ∀ value, leftOf Document.contains client ("$and", value) = some ("$and", value) :=
    fun value => by simp [leftOf, meeting, isDollar]
  have andItems : ∀ value, defaults.get? "$and" = some value →
      ((∀ item ∈ conjunctsOf (defaults.get? "$and"), IsFilterOf P item) ↔ P ("$and", value)) := by
    intro value found
    obtain ⟨items, rfl, nonempty⟩ := conjunction value found
    rw [found]
    exact (conjunctive items nonempty).symm
  have required : ∀ entry ∈ defaults, (Requires P client entry ↔ _) := fun entry mem =>
    requires_iff_left_and_client decided apart hD hU
      (fun theirs found => agree _ _ _ mem (Document.mem_of_get? found)) mem
  rw [forall_mem_mergeFilters conjunctive distinct distinct']
  simp only [standingBeside, List.mem_filterMap]
  constructor
  · rintro ⟨conjuncts, logical, inserted, each⟩
    refine ⟨fun member mem => ?_, ?_⟩
    · obtain ⟨key, value⟩ := member
      cases path : isDollarKey key with
      | true => exact logical _ mem path
      | false =>
          -- a clause of the client is inserted, or it is required beside the default that it meets
          by_cases standing : key ∈ defaults.keys
          · obtain ⟨entry, inDefaults, rfl⟩ := List.mem_map.mp standing
            have notAnd : entry.1 ≠ "$and" := by
              rintro isAnd
              rw [isAnd, isDollar] at path
              cases path
            have both := (required entry inDefaults).mp (each entry inDefaults notAnd)
            exact both.2 path value (Document.get?_of_mem distinct' mem)
          · exact inserted _ mem path standing
    · rintro left ⟨entry, inDefaults, h⟩
      by_cases isAnd : entry.1 = "$and"
      · obtain ⟨key, value⟩ := entry
        obtain rfl : key = "$and" := isAnd
        rw [andStands, Option.some.injEq] at h
        exact h ▸ (andItems value (Document.get?_of_mem distinct inDefaults)).mp conjuncts
      · exact ((required entry inDefaults).mp (each entry inDefaults isAnd)).1 left h
  · rintro ⟨theirs, standing⟩
    refine ⟨?_, fun member mem _ => theirs member mem, fun member mem _ _ => theirs member mem,
      fun entry inDefaults _ => ?_⟩
    · cases found : defaults.get? "$and" with
      | none => simp [conjunctsOf]
      | some value =>
          rw [← found]
          exact (andItems value found).mpr
            (standing _ ⟨_, Document.mem_of_get? found, andStands value⟩)
    · refine (required entry inDefaults).mpr
        ⟨fun left h => standing left ⟨entry, inDefaults, h⟩, fun _ value found => ?_⟩
      exact theirs _ (Document.mem_of_get? found)

/-- A default that is a literal, or has a logical key, stands beside any client. -/
theorem leftOf_literal {yields : Document → String → Bool}
    (h : isDollarKey entry.1 = true ∨ entry.2.operators? = none) :
    leftOf yields client entry = some entry := by
  refine leftOf_of_not_operators fun ours theirs met => ?_
  rcases h with dollar | literal
  · rw [path_of_meeting met (by simp)] at dollar
    cases dollar
  · rw [(meeting_operators met).1] at literal
    cases literal

/-- **The meaning of a merge.**  Where both filters compile and no field takes its pattern from
both sides, the merge compiles, and a document matches it exactly if it matches the client's
filter and what the client leaves in force of the defaults.  So every clause of the client, every
literal default and every logical key of the defaults is enforced. -/
theorem matches_mergeFilters [PatternReader] {fields : List String} {ours theirs : Predicate}
    (hD : (Json.object defaults).isWellKeyed = true) (hU : (Json.object client).isWellKeyed = true)
    (apart : patternsApart defaults client = true)
    (compiledD : Predicate.compile defaults fields = .ok ours)
    (compiledU : Predicate.compile client fields = .ok theirs) :
    ∃ merged rest, Predicate.compile (mergeFilters defaults client) fields = .ok merged ∧
      Predicate.compile (standingBeside defaults client) fields = .ok rest ∧
      (∀ doc, merged.matchesDocument doc = (theirs.matchesDocument doc && rest.matchesDocument doc)) ∧
      ∀ entry, (entry ∈ client ∨ entry ∈ defaults ∧
          (isDollarKey entry.1 = true ∨ entry.2.operators? = none)) →
        ∃ alone, Predicate.compile [entry] fields = .ok alone ∧
          ∀ doc, merged.matchesDocument doc = true → alone.matchesDocument doc = true := by
  have ofDefaults := Predicate.exists_compile_iff.mp ⟨ours, compiledD⟩
  have ofClient := Predicate.exists_compile_iff.mp ⟨theirs, compiledU⟩
  have conjunction : ∀ value, defaults.get? "$and" = some value →
      ∃ items, value = .array items ∧ items ≠ [] := fun value found =>
    Clause.exists_items_of_compiles_and (ofDefaults _ (Document.mem_of_get? found))
  have ofStanding : ∀ entry ∈ standingBeside defaults client, Clause.Compiles fields entry := by
    rintro left mem
    obtain ⟨entry, inDefaults, h⟩ := List.mem_filterMap.mp mem
    exact leftOf_of_default (Clause.operatorWise_compiles fields) apart inDefaults h
      (ofDefaults entry inDefaults)
  have ofMerge := (forall_mem_mergeFilters_iff Clause.conjunctive_compiles
    (Clause.operatorWise_compiles fields) apart hD hU conjunction fun key _ _ inD inU _ _ =>
      ⟨fun _ => ofClient _ inU, fun _ => ofDefaults _ inD⟩).mpr ⟨ofClient, ofStanding⟩
  obtain ⟨merged, compiledM⟩ := Predicate.exists_compile_iff.mpr ofMerge
  obtain ⟨rest, compiledR⟩ := Predicate.exists_compile_iff.mpr ofStanding
  have meaning : ∀ doc, merged.matchesDocument doc = true ↔
      (∀ member ∈ client, Clause.Accepts fields doc member) ∧
        ∀ member ∈ standingBeside defaults client, Clause.Accepts fields doc member := by
    intro doc
    rw [Predicate.matchesDocument_iff compiledM]
    refine forall_mem_mergeFilters_iff Clause.conjunctive_accepts
      (Clause.operatorWise_accepts fields doc) apart hD hU conjunction
      fun key x y inD inU _ equal => ?_
    exact Clause.accepts_congr ((Json.isWellKeyed_object.mp hD).2 _ inD)
      ((Json.isWellKeyed_object.mp hU).2 _ inU) equal (ofDefaults _ inD) (ofClient _ inU)
  refine ⟨merged, rest, compiledM, compiledR, fun doc => ?_, fun entry enforced => ?_⟩
  · rw [Bool.eq_iff_iff, Bool.and_eq_true, meaning, Predicate.matchesDocument_iff compiledU,
      Predicate.matchesDocument_iff compiledR]
  · have alone : Clause.Compiles fields entry :=
      enforced.elim (ofClient entry) fun h => ofDefaults entry h.1
    obtain ⟨p, compiledP⟩ := Predicate.exists_compile_iff.mpr (List.forall_mem_singleton.mpr alone)
    refine ⟨p, compiledP, fun doc matched => ?_⟩
    rw [Predicate.matchesDocument_iff compiledP, List.forall_mem_singleton]
    obtain ⟨byClient, byStanding⟩ := (meaning doc).mp matched
    rcases enforced with inClient | ⟨inDefaults, kind⟩
    · exact byClient entry inClient
    · exact byStanding entry (List.mem_filterMap.mpr ⟨entry, inDefaults, leftOf_literal kind⟩)

/-- A range and a literal as defaults, met by a client's range and literal for the same fields:
the lower bound gives way, the upper one and the literal stand. -/
theorem matches_mergeFilters_ages :
    let defaults : Document :=
      [("age", .object [("$gte", .ofNat 18), ("$lt", .ofNat 65)]), ("status", .string "active")]
    let client : Document := [("age", .object [("$gte", .ofNat 21)]), ("status", .string "new")]
    ∃ theirs merged rest, Predicate.compile client [] = .ok theirs ∧
      Predicate.compile (mergeFilters defaults client) [] = .ok merged ∧
      Predicate.compile [("age", .object [("$lt", .ofNat 65)]), ("status", .string "active")] []
        = .ok rest ∧
      ∀ doc, merged.matchesDocument doc = (theirs.matchesDocument doc && rest.matchesDocument doc) := by
  intro defaults client
  obtain ⟨ours, compiledD⟩ := Except.exists_eq_ok_of_isOk (x := Predicate.compile defaults [])
    (by decide)
  obtain ⟨theirs, compiledU⟩ := Except.exists_eq_ok_of_isOk (x := Predicate.compile client [])
    (by decide)
  obtain ⟨merged, rest, compiledM, compiledR, meaning, -⟩ :=
    matches_mergeFilters (by decide) (by decide) (by decide) compiledD compiledU
  exact ⟨theirs, merged, rest, compiledU, compiledM, compiledR, meaning⟩

end DocQuery
