import DocQuery.Proofs.Predicate.Congruence

/-!
# Filters that search no text

A text search that matches leaves a relevance, which later searches overwrite.  A filter that
searches no text, at any depth of its logical keys, leaves the relevance as it was.

## Main definitions

* `searchesText`: whether a filter searches a text
* `Predicate.KeepsScore`: matching leaves the relevance as it was
* `Predicate.keepsScore_of_compile`
-/

namespace DocQuery

mutual

/-- Whether one of the clauses of a filter searches a text. -/
def searchesText : List (String × Json) → Bool
  | [] => false
  | (key, value) :: rest => clauseSearchesText key value || searchesText rest
termination_by structural members => members

/-- Whether a clause searches a text, itself or in the filters that it combines. -/
def clauseSearchesText (key : String) : Json → Bool
  | .array items =>
    key == "$text" || (Operator.logicalKeys.contains key && itemsSearchText items)
  | _ => key == "$text"
termination_by structural value => value

/-- Whether one of the filters that a logical key combines searches a text. -/
def itemsSearchText : List Json → Bool
  | [] => false
  | item :: rest => itemSearchesText item || itemsSearchText rest
termination_by structural items => items

/-- Whether a filter that a logical key combines searches a text. -/
def itemSearchesText : Json → Bool
  | .object members => searchesText members
  | _ => false
termination_by structural item => item

end

variable {fields : List String} {filter : Document} {p : Predicate}

theorem searchesText_eq_false_iff {members : List (String × Json)} :
    searchesText members = false ↔
      ∀ member ∈ members, clauseSearchesText member.1 member.2 = false := by
  induction members with
  | nil => simp [searchesText]
  | cons member rest ih => rw [searchesText, Bool.or_eq_false_iff, ih, List.forall_mem_cons]

theorem itemsSearchText_eq_false_iff {items : List Json} :
    itemsSearchText items = false ↔ ∀ item ∈ items, itemSearchesText item = false := by
  induction items with
  | nil => simp [itemsSearchText]
  | cons item rest ih => rw [itemsSearchText, Bool.or_eq_false_iff, ih, List.forall_mem_cons]

namespace Predicate

/-- Matching leaves the relevance as it was. -/
def KeepsScore (p : Predicate) : Prop := ∀ doc score, (p.evaluate doc score).2 = score

theorem keepsScore_allOf {parts : List Predicate} (each : ∀ part ∈ parts, part.KeepsScore) :
    (allOf parts).KeepsScore := by
  intro doc score
  rw [evaluate]
  induction parts with
  | nil => rfl
  | cons part rest ih =>
      have first := each part List.mem_cons_self doc score
      rw [evaluateAll]
      rcases result : part.evaluate doc score with ⟨_ | _, after⟩ <;> rw [result] at first
      · exact first
      · obtain rfl : after = score := first
        exact ih fun other mem => each other (List.mem_cons_of_mem _ mem)

theorem keepsScore_anyOf {parts : List Predicate} (each : ∀ part ∈ parts, part.KeepsScore) :
    (anyOf parts).KeepsScore := by
  intro doc score
  rw [evaluate]
  induction parts with
  | nil => rfl
  | cons part rest ih =>
      have first := each part List.mem_cons_self doc score
      rw [evaluateAny]
      rcases result : part.evaluate doc score with ⟨_ | _, after⟩ <;> rw [result] at first
      · obtain rfl : after = score := first
        exact ih fun other mem => each other (List.mem_cons_of_mem _ mem)
      · exact first

theorem keepsScore_noneOf (parts : List Predicate) : (noneOf parts).KeepsScore := fun _ _ => by
  rw [evaluate]

theorem keepsScore_field (path : String) (test : FieldTest) : (field path test).KeepsScore :=
  fun _ _ => by rw [evaluate]

end Predicate

/-- The filters that a logical key combines leave the relevance, if each of them does. -/
theorem keepsScore_combine {key : String} {parts : List Predicate}
    (each : ∀ part ∈ parts, part.KeepsScore) : (combine key parts).KeepsScore := by
  rw [combine]
  split
  · exact Predicate.keepsScore_allOf each
  · split
    · exact Predicate.keepsScore_anyOf each
    · exact Predicate.keepsScore_noneOf parts

/-- The key of a list of filters that compiles is a logical one. -/
theorem isLogical_of_compileClause [PatternReader] {key : String} {items : List Json}
    (dollar : isDollarKey key = true) (compiled : compileClause fields key (.array items) = .ok p) :
    Operator.logicalKeys.contains key = true := by
  by_contra notLogical
  rw [compileClause, if_neg notLogical] at compiled
  split at compiled <;> cases compiled

/-- A value that stands as a clause or as an item of a logical key leaves the relevance, if it
searches no text. -/
structure Json.KeepsScore [PatternReader] (fields : List String) (value : Json) : Prop where
  clause : ∀ {key p}, compileClause fields key value = .ok p →
    clauseSearchesText key value = false → p.KeepsScore
  item : ∀ {key p}, compileItem fields key value = .ok p → itemSearchesText value = false →
    p.KeepsScore

theorem Predicate.keepsScore_of_members [PatternReader]
    (each : ∀ member ∈ filter, member.2.KeepsScore fields)
    (compiled : compile filter fields = .ok p) (noText : searchesText filter = false) :
    p.KeepsScore := by
  obtain ⟨parts, clauses, rfl⟩ := compile_ok_iff.mp compiled
  refine keepsScore_allOf fun part mem => ?_
  obtain ⟨member, inFilter, clause⟩ := (compileClauses_ok_iff.mp clauses).exists_of_mem_right mem
  exact (each member inFilter).clause clause (searchesText_eq_false_iff.mp noText member inFilter)

theorem keepsScore_of_path [PatternReader] {key : String} {value : Json}
    (path : isDollarKey key = false)
    (compiled : compileClause fields key value = .ok p) : p.KeepsScore := by
  rw [compileClause_path path] at compiled
  split at compiled
  · obtain ⟨tests, -, rfl⟩ := Except.map_eq_ok_iff.mp compiled
    exact Predicate.keepsScore_field _ _
  · rw [← Except.ok.inj compiled]
    exact Predicate.keepsScore_field _ _

theorem Json.keepsScore [PatternReader] (value : Json) : value.KeepsScore fields := by
  induction value using inductionOn with
  | array items ih =>
      refine ⟨fun {key p} compiled noText => ?_, fun compiled => ?_⟩
      · cases dollar : isDollarKey key with
        | false => exact keepsScore_of_path dollar compiled
        | true =>
            have logical := isLogical_of_compileClause dollar compiled
            rw [clauseSearchesText, logical, Bool.true_and, Bool.or_eq_false_iff] at noText
            obtain ⟨_, parts, ⟨⟩, each, rfl⟩ | ⟨_, _, ⟨⟩, _⟩ := compileClause_dollar dollar compiled
            refine keepsScore_combine fun part mem => ?_
            obtain ⟨item, inItems, part⟩ := (compileItems_ok_iff.mp each).exists_of_mem_right mem
            exact (ih item inItems).item part
              (itemsSearchText_eq_false_iff.mp noText.2 item inItems)
      · cases compiled
  | object members ih =>
      refine ⟨fun {key p} compiled noText => ?_, fun compiled noText => ?_⟩
      · cases dollar : isDollarKey key with
        | false => exact keepsScore_of_path dollar compiled
        | true =>
            obtain ⟨_, _, ⟨⟩, _⟩ | ⟨_, _, _, rfl, _⟩ := compileClause_dollar dollar compiled
            cases noText
      · exact Predicate.keepsScore_of_members ih compiled noText
  | _ =>
      refine ⟨fun {key p} compiled noText => ?_, fun compiled => ?_⟩
      · cases dollar : isDollarKey key with
        | false => exact keepsScore_of_path dollar compiled
        | true =>
            obtain ⟨_, _, ⟨⟩, _⟩ | ⟨_, _, ⟨⟩, _⟩ := compileClause_dollar dollar compiled
      · cases compiled

/-- **A filter that searches no text leaves the relevance as it was.** -/
theorem Predicate.keepsScore_of_compile [PatternReader] (compiled : compile filter fields = .ok p)
    (noText : searchesText filter = false) : p.KeepsScore :=
  keepsScore_of_members (fun member _ => member.2.keepsScore) compiled noText

end DocQuery
