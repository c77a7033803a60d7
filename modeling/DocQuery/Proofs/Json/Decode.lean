import DocQuery.Json.Decode

/-!
# What a decoded record inherits

A record is decoded field by field from the one that it starts as, so whatever the start has and no
field disturbs, the decoded record has.
-/

namespace DocQuery

variable {σ : Type} {fields pending : List (RecordField σ)} {I : σ → Prop}

/-- Reading a field keeps a property of the record. -/
def RecordField.Keeps (I : σ → Prop) (field : RecordField σ) : Prop :=
  ∀ draft record result, field.read draft record = .ok result → I record → I result

theorem RecordField.keeps_defaulted {α : Type} {names : List String} {decode : Decoder α}
    {set : α → σ → σ} (h : ∀ v record, I record → I (set v record)) :
    (RecordField.defaulted names decode set).Keeps I := by
  intro draft record result read holds
  change (decode draft).map (fun v => set v record) = .ok result at read
  cases decoded : decode draft with
  | error e =>
      rw [decoded] at read
      cases read
  | ok v =>
      rw [decoded] at read
      exact Except.ok.inj read ▸ h v record holds

namespace Decoder

theorem recordMembers_induction {strict : Bool} {ending : Ending} {members : List (String × Draft)}
    {record result : σ} (keeps : ∀ field ∈ pending, field.Keeps I)
    (h : recordMembers fields strict ending members pending record = .ok result) (start : I record) :
    I result := by
  induction members generalizing pending record with
  | nil =>
      rw [recordMembers] at h
      split at h
      · cases h
      · split at h
        · exact Except.ok.inj h ▸ start
        · cases h
  | cons member rest ih =>
      obtain ⟨key, draft⟩ := member
      rw [recordMembers] at h
      split at h
      · next field found =>
          split at h
          · next record read =>
              refine ih (fun f mem => keeps f (List.mem_filter.mp mem).1) h ?_
              exact keeps field (List.mem_of_find?_eq_some found) _ _ _ read start
          · cases h
      · split at h
        · cases h
        · split at h
          · exact ih keeps h start
          · cases h

theorem recordItems_induction {ending : Ending} {drafts : List Draft} {record result : σ}
    (keeps : ∀ field ∈ pending, field.Keeps I)
    (h : recordItems ending pending drafts record = .ok result) (start : I record) : I result := by
  induction pending generalizing drafts record with
  | nil =>
      cases drafts with
      | nil =>
          rw [recordItems] at h
          split at h
          · exact Except.ok.inj h ▸ start
          · cases h
      | cons draft more => cases h
  | cons field rest ih =>
      cases drafts with
      | nil =>
          rw [recordItems] at h
          split at h
          · cases h
          · split at h
            · exact Except.ok.inj h ▸ start
            · cases h
      | cons draft more =>
          rw [recordItems] at h
          split at h
          · next record read =>
              exact ih (fun f mem => keeps f (List.mem_cons_of_mem _ mem)) h
                (keeps field List.mem_cons_self _ _ _ read start)
          · cases h

/-- **A decoded record keeps what its start has and no field disturbs.** -/
theorem record_induction {strict : Bool} {start result : σ} {draft : Draft}
    (keeps : ∀ field ∈ fields, field.Keeps I) (h : record fields strict start draft = .ok result)
    (holds : I start) : I result := by
  cases draft with
  | object members ending => exact recordMembers_induction keeps h holds
  | array drafts ending => exact recordItems_induction keeps h holds
  | _ => cases h

end Decoder

end DocQuery
