import DocQuery.Proofs.Document.Projection
import DocQuery.Query.Request

/-!
# Entries of selections

The entries of a selection are the first occurrences of what it lists.  When the restricted fields
are taken out of it, what is left are inclusions that are not restricted, or, where no inclusion is
left, an exclusion of every restricted field.

## Main definitions

* `Selection.nodup_distinct`, `Selection.distinct_eq_self`
* `Selection.of_mem_restrict`, `Selection.exclusion_mem_restrict`
-/

namespace DocQuery

/-- Adding what is missing keeps what is there, and nothing is missing afterwards. -/
theorem mem_foldl_addMissing {α : Type} (f : α → String) (xs : List α) (start : List String)
    {s : String} :
    s ∈ xs.foldl (fun out x => if out.contains (f x) then out else out ++ [f x]) start ↔
      s ∈ start ∨ ∃ x ∈ xs, f x = s := by
  induction xs generalizing start with
  | nil => simp
  | cons x rest ih =>
      have step : s ∈ (if start.contains (f x) then start else start ++ [f x]) ↔
          s ∈ start ∨ f x = s := by
        by_cases present : f x ∈ start
        · rw [if_pos (List.contains_iff_mem.mpr present)]
          exact ⟨.inl, fun h => h.elim id fun same => same ▸ present⟩
        · rw [if_neg (by simpa using present), List.mem_append, List.mem_singleton, eq_comm]
      rw [List.foldl_cons, ih, step]
      simp [or_assoc]

/-- Where only what has a new key is appended, values of different keys are appended one after the
other. -/
theorem foldl_eq_append {α β : Type} (key : α → β) {add : List α → α → List α}
    (append : ∀ done x, key x ∉ done.map key → add done x = done ++ [x]) (xs : List α) :
    ∀ done : List α, ((done ++ xs).map key).Nodup → xs.foldl add done = done ++ xs := by
  induction xs with
  | nil =>
      intro done _
      exact (List.append_nil done).symm
  | cons x rest ih =>
      intro done nodup
      have absent : key x ∉ done.map key := by
        rw [List.map_append, List.map_cons] at nodup
        exact fun present =>
          (List.nodup_append.mp nodup).2.2 (key x) present (key x) List.mem_cons_self rfl
      rw [List.append_cons] at nodup ⊢
      rw [List.foldl_cons, append done x absent, ih (done ++ [x]) nodup]

theorem Request.mem_unionFields {fields more : List String} {field : String} :
    field ∈ unionFields fields more ↔ field ∈ fields ∨ field ∈ more := by
  have added := mem_foldl_addMissing (fun f : String => f) more fields (s := field)
  simpa [unionFields] using added

namespace Selection

variable {entries restricted : List String} {entry field : String}

/-! ### First occurrences -/

/-- Entries with one more behind them, unless it is among them. -/
def addEntry (done : List String) (entry : String) : List String :=
  if done.contains entry then done else done ++ [entry]

theorem distinct_eq_foldl (entries : List String) : distinct entries = entries.foldl addEntry [] :=
  rfl

theorem addEntry_of_notMem {done : List String} (absent : entry ∉ done) :
    addEntry done entry = done ++ [entry] :=
  if_neg (by simpa using absent)

theorem mem_distinct : entry ∈ distinct entries ↔ entry ∈ entries := by
  have added := mem_foldl_addMissing (fun e : String => e) entries [] (s := entry)
  simpa [distinct] using added

theorem nodup_distinct (entries : List String) : (distinct entries).Nodup := by
  rw [distinct_eq_foldl]
  refine List.foldlRecOn entries addEntry List.nodup_nil ?_
  intro done nodup entry _
  by_cases present : entry ∈ done
  · rw [addEntry, if_pos (List.contains_iff_mem.mpr present)]
    exact nodup
  · rw [addEntry_of_notMem present]
    exact List.concat_eq_append ▸ nodup.concat present

/-- Entries without repetitions are their own first occurrences. -/
theorem distinct_eq_self (nodup : entries.Nodup) : distinct entries = entries := by
  rw [distinct_eq_foldl]
  refine foldl_eq_append id (fun done entry absent => addEntry_of_notMem ?_) entries [] ?_
  · rwa [List.map_id] at absent
  · rwa [List.nil_append, List.map_id]

/-! ### Restricted fields -/

theorem isExclusion_dash (field : String) : Projection.isExclusion ("-" ++ field) = true := by
  simp [Projection.isExclusion, Text.startsWith]

theorem excludedPath_dash (plain : Projection.isExclusion field = false) :
    Projection.excludedPath ("-" ++ field) = field := by
  rw [Projection.excludedPath, String.toList_append]
  have dash : ("-" : String).toList = ['-'] := rfl
  rw [dash, List.singleton_append, List.dropWhile_cons_of_pos (by decide)]
  cases chars : field.toList with
  | nil => rw [List.dropWhile_nil, ← chars, String.ofList_toList]
  | cons c rest =>
      have notDash : c ≠ '-' := by simpa [Projection.isExclusion, Text.startsWith, chars] using plain
      rw [List.dropWhile_cons_of_neg (by simpa using notDash), ← chars, String.ofList_toList]

/-- An inclusion that survives was there before and is not restricted. -/
theorem of_mem_restrict (mem : entry ∈ restrict entries restricted)
    (plain : Projection.isExclusion entry = false) :
    entry ∈ entries ∧ isRestricted restricted entry = false := by
  unfold restrict at mem
  split at mem
  · next none =>
      rw [List.isEmpty_iff.mp none]
      exact ⟨mem, rfl⟩
  · have kept : ∀ e,
        e ∈ entries.filter (fun e => Projection.isExclusion e || !isRestricted restricted e) →
        Projection.isExclusion e = false → e ∈ entries ∧ isRestricted restricted e = false := by
      intro e h plain
      obtain ⟨inEntries, test⟩ := List.mem_filter.mp h
      exact ⟨inEntries, by simpa [plain] using test⟩
    dsimp only at mem
    split at mem
    · exact kept entry mem plain
    · have origin := (mem_foldl_addMissing (fun field => "-" ++ field) restricted _).mp mem
      rcases origin with h | ⟨f, -, rfl⟩
      · exact kept entry h plain
      · rw [isExclusion_dash] at plain
        cases plain

/-- Where no inclusion survives, every restricted field is excluded by name. -/
theorem exclusion_mem_restrict
    (none : ∀ e ∈ restrict entries restricted, Projection.isExclusion e = true)
    (mem : field ∈ restricted) : "-" ++ field ∈ restrict entries restricted := by
  unfold restrict at none ⊢
  have nonempty : restricted.isEmpty = false := List.isEmpty_eq_false_iff.mpr (List.ne_nil_of_mem mem)
  simp only [nonempty, Bool.false_eq_true, if_false] at none ⊢
  split at none
  · next inclusion =>
      obtain ⟨e, inKept, plain⟩ := List.any_eq_true.mp inclusion
      rw [none e inKept] at plain
      cases plain
  · next inclusion =>
      rw [if_neg inclusion]
      exact (mem_foldl_addMissing (fun field => "-" ++ field) restricted _).mpr
        (.inr ⟨field, mem, rfl⟩)

end Selection

end DocQuery
