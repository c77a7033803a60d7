import DocQuery.Proofs.Sql.Operands

/-!
# Text searches of one shape

A text search is written into a statement twice, as a condition and as the relevance.  In both the
text that is searched for is a literal, the language only selects one of the rules that the
database has, and the words of the searched fields do not depend on the text.

## Main definitions

* `Sql.related_textCondition`, `Sql.related_relevanceExpr`
-/

namespace DocQuery.Sql

open Except (Related)

variable {fields : List String}

theorem languageRules_noQuote (language : Option String) :
    ∀ c ∈ (languageRules language).toList, c ≠ '\'' := by
  rw [languageRules]
  split <;> simp

theorem closed_docColumn : Closed docColumn := .ready (by decide)

theorem closed_join {terms : List String} (some : terms ≠ [])
    (each : ∀ term ∈ terms, Closed term) : Closed (Text.join ", " terms) := by
  rw [Text.join]
  induction terms with
  | nil => exact absurd rfl some
  | cons term rest ih =>
      rw [List.forall_mem_cons] at each
      by_cases last : rest = []
      · rw [last, String.intercalate_singleton]
        exact each.1
      · rw [String.intercalate_cons_of_ne_nil last]
        exact (each.1.append Leads.comma).append (ih last each.2)

theorem closed_fieldTexts {texts : List String} (read : fieldTexts fields = .ok texts) :
    ∀ text ∈ texts, Closed text := by
  induction fields generalizing texts with
  | nil =>
      rw [← Except.ok.inj read]
      simp
  | cons field rest ih =>
      rw [fieldTexts] at read
      simp only [Except.bind_eq_ok_iff, Except.ok.injEq] at read
      obtain ⟨expr, path, exprs, others, rfl⟩ := read
      refine List.forall_mem_cons.mpr ⟨?_, ih others⟩
      have text := closed_textAt (closed_pathExpr closed_docColumn path)
      exact (Leads.opening.append text).append Leads.closing

/-- The words of the searched fields do not depend on the text that is searched for. -/
theorem related_wordsExpr {query other : TextQuery}
    (sameLanguage : other.language = query.language) :
    Related (fun words others => others = words ∧ Closed words)
      (wordsExpr fields query) (wordsExpr fields other) := by
  have opening : Leads Place.isReady "to_tsvector('" Place.isInside := .ready (by decide)
  have rules : Leads Place.isInside (languageRules query.language) Place.isInside :=
    agree_inside (languageRules_noQuote _)
  simp only [wordsExpr, sameLanguage]
  split
  · have comma : Leads Place.isInside "', " Place.isReady := .inside (by decide)
    have text := ((opening.append rules).append comma).append closed_docColumn
    exact .ok ⟨rfl, text.append Leads.closing⟩
  · next declared =>
      refine .self fun words written => ⟨rfl, ?_⟩
      obtain ⟨texts, read, written⟩ := Except.bind_eq_ok_iff.mp written
      have some : texts ≠ [] := by
        cases fields with
        | nil => exact absurd rfl declared
        | cons field rest =>
            rw [fieldTexts] at read
            simp only [Except.bind_eq_ok_iff, Except.ok.injEq] at read
            obtain ⟨_, _, _, _, rfl⟩ := read
            exact List.cons_ne_nil _ _
      have concat : Leads Place.isInside "', concat_ws(' ', " Place.isReady := .inside (by decide)
      have closing : Leads Place.isSettled "))" Place.isSettled := .settled (by decide)
      rw [← Except.ok.inj written]
      exact (((opening.append rules).append concat).append
        (closed_join some (closed_fieldTexts read))).append closing

theorem agree_searchedWords {query other : TextQuery}
    (sameLanguage : other.language = query.language) {text : String}
    (closing : Leads Place.isSettled text Place.isSettled) :
    SameShape (searchedWords query ++ [.plain text]) (searchedWords other ++ [.plain text]) := by
  have opening : Leads Place.isReady "websearch_to_tsquery('" Place.isInside := .ready (by decide)
  have rules : Leads Place.isInside (languageRules query.language) Place.isInside :=
    agree_inside (languageRules_noQuote _)
  have comma : Leads Place.isInside "', " Place.isReady := .inside (by decide)
  simp only [searchedWords, sameLanguage]
  exact .plain_cons ((opening.append rules).append comma) (.literal_cons (.plain closing))

theorem related_textCondition {query other : TextQuery}
    (sameLanguage : other.language = query.language) :
    Related Expr.Alike (textCondition fields query) (textCondition fields other) := by
  refine (related_wordsExpr sameLanguage).bind ?_
  rintro words _ ⟨rfl, closed⟩
  have matching : Leads Place.isSettled " @@ " Place.isReady := .settled (by decide)
  exact .ok (.fragment (.plain_cons (closed.append matching)
    (agree_searchedWords sameLanguage Leads.closing)))

theorem related_relevanceExpr {query other : TextQuery}
    (sameLanguage : other.language = query.language) :
    Related SameShape (relevanceExpr fields query) (relevanceExpr fields other) := by
  refine (related_wordsExpr sameLanguage).bind ?_
  rintro words _ ⟨rfl, closed⟩
  have opening : Leads Place.isReady "ts_rank(" Place.isReady := .ready (by decide)
  have closing : Leads Place.isSettled "))::float8" Place.isSettled := .settled (by decide)
  exact .ok (.plain_cons ((opening.append closed).append Leads.comma)
    (agree_searchedWords sameLanguage closing))

end DocQuery.Sql
