import DocQuery.Filter.Merge
import DocQuery.Proofs.Predicate.Meaning

/-!
# The members of a merged filter

What the merge of two filters consists of, and what it asks of a document in terms of the two
filters it was made from.  Both filters are maps, so neither repeats a key.

The clause of a default meets the client's filter in one of four ways (`Meeting`), and everything
the merge does about it is a function of that.  `forall_mem_mergeFilters` says what a merged
filter asks for, entry by entry.  It is stated for any property of clauses that `$and` distributes
over, because it is used for compiling as well as for matching.

## Main definitions

* `Meeting`, `meeting`: how the clause of a default and the client's filter meet
* `contributions`, `insertedClauses`, `mergedConjuncts`: the parts of a merge (`mergeFilters_eq`)
* `Requires`: what the merge asks for because of one default
* `forall_mem_mergeFilters`
-/

namespace DocQuery

variable {defaults client : Document} {entry : String × Json}

/-! ### How a default and the client meet -/

/-- How the clause of a default and the client's filter meet. -/
inductive Meeting where
  /-- The client does not test the field; a logical key never meets anything. -/
  | apart
  /-- Both clauses are equal. -/
  | agree
  /-- Both are operator maps and they differ. -/
  | operators (ours theirs : Document)
  /-- The clauses differ and one of them is a literal. -/
  | conflict (theirs : Json)

/-- How a default meets the client's filter. -/
def meeting (client : Document) (entry : String × Json) : Meeting :=
  if isDollarKey entry.1 then .apart
  else
    match client.get? entry.1 with
    | none => .apart
    | some theirs =>
      if entry.2.equal theirs then .agree
      else
        match entry.2.operators?, theirs.operators? with
        | some ours, some theirs => .operators ours theirs
        | _, _ => .conflict theirs

/-- Only clauses of paths meet. -/
theorem path_of_meeting {m : Meeting} (met : meeting client entry = m) (notApart : m ≠ .apart) :
    isDollarKey entry.1 = false := by
  cases dollar : isDollarKey entry.1 with
  | false => rfl
  | true =>
      rw [meeting, if_pos dollar] at met
      exact absurd met.symm notApart

theorem meeting_agree (met : meeting client entry = .agree) :
    ∃ theirs, client.get? entry.1 = some theirs ∧ entry.2.equal theirs = true := by
  unfold meeting at met
  grind

theorem meeting_operators {ours theirs : Document}
    (met : meeting client entry = .operators ours theirs) :
    entry.2.operators? = some ours ∧
      ∃ clause, client.get? entry.1 = some clause ∧ clause.operators? = some theirs := by
  unfold meeting at met
  grind

theorem meeting_conflict {theirs : Json} (met : meeting client entry = .conflict theirs) :
    client.get? entry.1 = some theirs := by
  unfold meeting at met
  grind

theorem meeting_apart (path : isDollarKey entry.1 = false) :
    meeting client entry = .apart ↔ client.get? entry.1 = none := by
  unfold meeting
  grind

/-! ### What the merge consists of -/

theorem resolutions_cons (key : String) (value : Json) :
    resolutions defaults ((key, value) :: client) =
      if isDollarKey key then resolutions defaults client
      else (key, .decide (defaults.get? key) value) :: resolutions defaults client := by
  cases dollar : isDollarKey key <;> simp [resolutions, dollar]

theorem lookup_resolutions (field : String) :
    (resolutions defaults client).lookup field =
      if isDollarKey field then none
      else (client.get? field).map (Resolution.decide (defaults.get? field)) := by
  induction client with
  | nil => simp [resolutions]
  | cons member rest ih =>
      obtain ⟨key, value⟩ := member
      rw [resolutions_cons, Document.get?_cons]
      by_cases same : key = field
      · subst same
        cases dollar : isDollarKey key with
        | true => simpa [dollar] using ih
        | false => simp
      · have differ : (field == key) = false := by simpa using Ne.symm same
        cases isDollarKey key <;> simp [List.lookup_cons, differ, same, ih]

/-- The contribution of a default to the merge. -/
theorem mergeDefault_eq (distinct : defaults.DistinctKeys) (mem : entry ∈ defaults) :
    mergeDefault client (resolutions defaults client) entry =
      match meeting client entry with
      | .apart => ([entry], [])
      | .agree => ([entry], [])
      | .operators ours theirs =>
        ([(entry.1, .object (Resolution.mergeOperators ours theirs))], [])
      | .conflict theirs => ([], [.object [entry], .object [(entry.1, theirs)]]) := by
  obtain ⟨key, value⟩ := entry
  have standing := Document.get?_of_mem distinct mem
  rw [mergeDefault, lookup_resolutions, standing]
  unfold meeting Resolution.decide
  cases dollar : isDollarKey key with
  | true => simp
  | false =>
      cases found : client.get? key with
      | none => simp
      | some theirs => grind

/-- The clauses that only the client has. -/
def insertedClauses (defaults client : Document) : Document :=
  client.filter fun member => !isDollarKey member.1 && !defaults.contains member.1

theorem inserted_resolutions :
    ((resolutions defaults client).filterMap fun (field, resolution) =>
      match resolution with
      | .insert value => some (field, value)
      | _ => none) = insertedClauses defaults client := by
  induction client with
  | nil => rfl
  | cons member rest ih =>
      obtain ⟨key, value⟩ := member
      rw [resolutions_cons, insertedClauses, List.filter_cons]
      cases dollar : isDollarKey key with
      | true => simpa [insertedClauses] using ih
      | false =>
          cases standing : defaults.get? key with
          | none => simpa [Resolution.decide, Document.contains, standing, insertedClauses] using ih
          | some value' =>
              have : ∀ value'', Resolution.decide (some value') value ≠ .insert value'' := by
                unfold Resolution.decide
                grind
              simp only [Document.contains, standing, insertedClauses] at ih ⊢
              grind

/-- The contributions of the defaults in order. -/
def contributions (defaults client : Document) : List (List (String × Json) × List Json) :=
  (defaults.filter fun member => member.1 ≠ "$and").map
    (mergeDefault client (resolutions defaults client))

/-- The members that `$and` has in the merge. -/
def mergedConjuncts (defaults client : Document) : List Json :=
  conjunctsOf (defaults.get? "$and") ++
    ((client.filter fun member => isDollarKey member.1).map (fun member => Json.object [member]) ++
      (contributions defaults client).flatMap Prod.snd)

/-- The clauses that the defaults contribute come under keys of the defaults. -/
theorem keys_contributions_sublist :
    (Document.keys ((contributions defaults client).flatMap Prod.fst)).Sublist
      (Document.keys (defaults.filter fun member => member.1 ≠ "$and")) := by
  unfold contributions
  -- the resolutions stay those of the whole filter while the defaults get fewer
  generalize resolutions defaults client = resolved
  induction defaults.filter fun member => member.1 ≠ "$and" with
  | nil => exact .slnil
  | cons entry rest ih =>
      obtain ⟨key, value⟩ := entry
      rw [List.map_cons, List.flatMap_cons, Document.keys, List.map_append]
      have own : ((mergeDefault client resolved (key, value)).1.map Prod.fst).Sublist [key] := by
        rw [mergeDefault]
        grind
      exact own.append ih

theorem distinctKeys_clauses (distinct : defaults.DistinctKeys) (distinct' : client.DistinctKeys) :
    Document.DistinctKeys
      ((contributions defaults client).flatMap Prod.fst ++ insertedClauses defaults client) := by
  have sub : (Document.keys ((contributions defaults client).flatMap Prod.fst)).Sublist
      (Document.keys (defaults.filter fun member => member.1 ≠ "$and")) := keys_contributions_sublist
  rw [Document.DistinctKeys, Document.keys, List.map_append, List.nodup_append]
  refine ⟨List.Nodup.sublist sub (distinct.filter _), distinct'.filter _, ?_⟩
  rintro key inDefaults other inClient rfl
  obtain ⟨entry, mem, rfl⟩ := List.mem_map.mp (sub.subset inDefaults)
  obtain ⟨member, inserted, same⟩ := List.mem_map.mp inClient
  have present := Document.contains_iff.mpr (Document.mem_keys_of_mem (List.mem_filter.mp mem).1)
  simp [insertedClauses, same, present] at inserted

theorem and_notMem_clauses : "$and" ∉
    Document.keys ((contributions defaults client).flatMap Prod.fst ++
      insertedClauses defaults client) := by
  rw [Document.keys, List.map_append, List.mem_append]
  rintro (inDefaults | inClient)
  · obtain ⟨entry, mem, same⟩ := List.mem_map.mp (keys_contributions_sublist.subset inDefaults)
    simp [same] at mem
  · obtain ⟨member, mem, same⟩ := List.mem_map.mp inClient
    have dollar : isDollarKey "$and" = true := by decide
    simp [insertedClauses, same, dollar] at mem

/-- **The members of a merge**: what the defaults contribute, what only the client has, and `$and`
unless it would be empty. -/
theorem mergeFilters_eq (distinct : defaults.DistinctKeys) (distinct' : client.DistinctKeys) :
    mergeFilters defaults client =
      ((contributions defaults client).flatMap Prod.fst ++ insertedClauses defaults client) ++
        if (mergedConjuncts defaults client).isEmpty then []
        else [("$and", .array (mergedConjuncts defaults client))] := by
  have clauses : mergeFilters defaults client =
      let merged := Document.ofMembers
        ((contributions defaults client).flatMap Prod.fst ++ insertedClauses defaults client)
      if (mergedConjuncts defaults client).isEmpty then merged
      else merged.insert "$and" (.array (mergedConjuncts defaults client)) := by
    rw [← inserted_resolutions]
    rfl
  rw [clauses, Document.ofMembers_of_distinct (distinctKeys_clauses distinct distinct')]
  split
  · rw [List.append_nil]
  · exact Document.insert_of_notMem and_notMem_clauses

theorem distinctKeys_mergeFilters : (mergeFilters defaults client).DistinctKeys := by
  unfold mergeFilters
  dsimp only
  split
  · exact Document.distinctKeys_ofMembers _
  · exact (Document.distinctKeys_ofMembers _).insert _ _

/-- A merge brings no keys of its own but `$and`. -/
theorem mem_keys_mergeFilters {key : String} (distinct : defaults.DistinctKeys)
    (distinct' : client.DistinctKeys) (mem : key ∈ (mergeFilters defaults client).keys) :
    key ∈ defaults.keys ∨ key ∈ client.keys ∨ key = "$and" := by
  rw [mergeFilters_eq distinct distinct', Document.mem_keys_append, Document.mem_keys_append] at mem
  rcases mem with (contributed | inserted) | conjunction
  · have inDefaults := keys_contributions_sublist.subset contributed
    exact .inl ((List.filter_sublist.map Prod.fst).subset inDefaults)
  · exact .inr (.inl ((List.filter_sublist.map Prod.fst).subset inserted))
  · split at conjunction
    · cases conjunction
    · exact .inr (.inr (List.mem_singleton.mp conjunction))

/-! ### What the merge asks for -/

/-- What the merge asks for because of a default and the client's clause for the same field. -/
def Requires (P : String × Json → Prop) (client : Document) (entry : String × Json) : Prop :=
  match meeting client entry with
  | .apart => P entry
  | .agree => P entry
  | .operators ours theirs => P (entry.1, .object (Resolution.mergeOperators ours theirs))
  | .conflict theirs => P entry ∧ P (entry.1, theirs)

/-- A value is a filter all of whose members have a property. -/
def IsFilterOf (P : String × Json → Prop) (item : Json) : Prop :=
  ∃ members, item = .object members ∧ ∀ member ∈ members, P member

theorem isFilterOf_singleton {P : String × Json → Prop} {member : String × Json} :
    IsFilterOf P (.object [member]) ↔ P member := by
  simp only [IsFilterOf, Json.object.injEq, exists_eq_left', List.forall_mem_singleton]

theorem requires_iff {P : String × Json → Prop} (distinct : defaults.DistinctKeys)
    (mem : entry ∈ defaults) :
    Requires P client entry ↔
      (∀ member ∈ (mergeDefault client (resolutions defaults client) entry).1, P member) ∧
        ∀ item ∈ (mergeDefault client (resolutions defaults client) entry).2, IsFilterOf P item := by
  rw [mergeDefault_eq distinct mem, Requires]
  cases meeting client entry <;> simp [isFilterOf_singleton]

/-- **What a merged filter asks for**: the old members of `$and`, the logical keys of the client,
the clauses that only the client has, and what each default and its counterpart require. -/
theorem forall_mem_mergeFilters {P : String × Json → Prop} (conjunctive : Clause.Conjunctive P)
    (distinct : defaults.DistinctKeys) (distinct' : client.DistinctKeys) :
    (∀ member ∈ mergeFilters defaults client, P member) ↔
      (∀ item ∈ conjunctsOf (defaults.get? "$and"), IsFilterOf P item) ∧
      (∀ member ∈ client, isDollarKey member.1 = true → P member) ∧
      (∀ member ∈ client, isDollarKey member.1 = false → member.1 ∉ defaults.keys → P member) ∧
      ∀ entry ∈ defaults, entry.1 ≠ "$and" → Requires P client entry := by
  -- the merge puts `$and` only where it has members, which `Conjunctive` needs
  have andClause : (∀ member ∈ (if (mergedConjuncts defaults client).isEmpty then []
        else [("$and", Json.array (mergedConjuncts defaults client))]), P member) ↔
      ∀ item ∈ mergedConjuncts defaults client, IsFilterOf P item := by
    cases h : mergedConjuncts defaults client with
    | nil => simp
    | cons first rest =>
        rw [← h, if_neg (by simp [h]), List.forall_mem_singleton]
        exact conjunctive _ (by simp [h])
  have inserted : (∀ member ∈ insertedClauses defaults client, P member) ↔
      ∀ member ∈ client, isDollarKey member.1 = false → member.1 ∉ defaults.keys → P member := by
    simp only [insertedClauses, List.mem_filter, Bool.and_eq_true, Bool.not_eq_true',
      ← Document.contains_iff, Bool.not_eq_true, and_imp]
  have required : (∀ entry ∈ defaults, entry.1 ≠ "$and" → Requires P client entry) ↔
      (∀ member ∈ (contributions defaults client).flatMap Prod.fst, P member) ∧
        ∀ item ∈ (contributions defaults client).flatMap Prod.snd, IsFilterOf P item := by
    simp only [contributions, List.mem_flatMap, List.mem_map, List.mem_filter, decide_eq_true_eq]
    constructor
    · intro each
      constructor
      · rintro member ⟨_, ⟨entry, ⟨mem, notAnd⟩, rfl⟩, inClauses⟩
        exact ((requires_iff distinct mem).mp (each entry mem notAnd)).1 member inClauses
      · rintro item ⟨_, ⟨entry, ⟨mem, notAnd⟩, rfl⟩, inConjuncts⟩
        exact ((requires_iff distinct mem).mp (each entry mem notAnd)).2 item inConjuncts
    · rintro ⟨clauses, conjuncts⟩ entry mem notAnd
      refine (requires_iff distinct mem).mpr ⟨fun member inClauses => ?_, fun item inConjuncts => ?_⟩
      · exact clauses member ⟨_, ⟨entry, ⟨mem, notAnd⟩, rfl⟩, inClauses⟩
      · exact conjuncts item ⟨_, ⟨entry, ⟨mem, notAnd⟩, rfl⟩, inConjuncts⟩
  rw [mergeFilters_eq distinct distinct', required, ← inserted]
  rw [List.forall_mem_append, List.forall_mem_append, andClause, mergedConjuncts,
    List.forall_mem_append, List.forall_mem_append, List.forall_mem_map]
  simp only [isFilterOf_singleton, List.mem_filter, and_imp]
  tauto

/-- Without defaults the merge is the client's filter, if that has no logical keys. -/
theorem mergeFilters_nil_left (distinct' : client.DistinctKeys)
    (paths : ∀ member ∈ client, isDollarKey member.1 = false) : mergeFilters [] client = client := by
  have logical : client.filter (fun member => isDollarKey member.1) = [] :=
    List.filter_eq_nil_iff.mpr fun member mem => by rw [paths member mem]; decide
  have conjuncts : mergedConjuncts [] client = [] := by
    rw [mergedConjuncts, logical]
    rfl
  have inserted : insertedClauses [] client = client :=
    List.filter_eq_self.mpr fun member mem => by rw [paths member mem]; rfl
  rw [mergeFilters_eq Document.distinctKeys_nil distinct', conjuncts, inserted]
  simp [contributions]

end DocQuery
