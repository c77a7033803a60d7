import DocQuery.Proofs.Search.Hits

/-!
# Phrases and the ends of strings

The searched strings of a record are read as one text, the words of one string before those of the
next.  A phrase is looked for in this text, so its words follow each other there, but they need not
all come from one string: a hit lies inside one string, or it begins in one and runs over its end into
those behind it.  The hits of a phrase are those inside the single strings and those that run over
the end of one, and there are some of the latter exactly if the phrase can be split in two, so that its
first words end a string and the others begin what is behind it.

## Main definitions

* `TextMatcher.wordTexts`: the words of the searched strings, string by string
* `TextMatcher.crossings`: the hits of a phrase that run over the end of a string
* `TextMatcher.RunsOver`: the end of a string splits a phrase
* `TextMatcher.phrase_hits`
-/

namespace DocQuery

namespace TextMatcher

variable {phrase text behind : List Word} {texts : List (List Word)}

/-! ### Hits that run over the end of a text -/

/-- The places in a text at which a phrase begins that runs over the end of the text into the words
behind it. -/
def crossingsAt (phrase : List Word) : List Word → List Word → Nat
  | [], _ => 0
  | word :: rest, behind =>
    (if phrase.isPrefixOf (word :: rest ++ behind) && !phrase.isPrefixOf (word :: rest) then 1
      else 0) + crossingsAt phrase rest behind

/-- The places in texts that follow each other at which a phrase begins that runs over the end of the
text in which it begins. -/
def crossings (phrase : List Word) : List (List Word) → Nat
  | [] => 0
  | text :: rest => crossingsAt phrase text rest.flatten + crossings phrase rest

/-- The end of a text splits a phrase: its first words end the text, and the others begin what is
behind it. -/
def RunsOver (phrase text behind : List Word) : Prop :=
  ∃ first second, first ≠ [] ∧ second ≠ [] ∧ phrase = first ++ second ∧
    first <:+ text ∧ second <+: behind

/-- A phrase that begins a joined text lies inside the first part or runs over its end. -/
theorem ite_isPrefixOf_append (phrase text behind : List Word) :
    (if phrase.isPrefixOf (text ++ behind) then 1 else 0) =
      (if phrase.isPrefixOf text then 1 else 0) +
        if phrase.isPrefixOf (text ++ behind) && !phrase.isPrefixOf text then 1 else 0 := by
  by_cases inside : phrase.isPrefixOf text = true
  · have whole : phrase.isPrefixOf (text ++ behind) = true :=
      List.isPrefixOf_iff_prefix.mpr
        ((List.isPrefixOf_iff_prefix.mp inside).trans (List.prefix_append _ _))
    simp [inside, whole]
  · rw [Bool.not_eq_true] at inside
    simp [inside]

/-- A phrase begins in a joined text inside the first part, runs over its end or begins behind it. -/
theorem occurrences_append (phrase text behind : List Word) :
    occurrences phrase (text ++ behind) =
      occurrences phrase text + crossingsAt phrase text behind + occurrences phrase behind := by
  induction text with
  | nil => simp [occurrences, crossingsAt]
  | cons word rest ih =>
      have here := ite_isPrefixOf_append phrase (word :: rest) behind
      rw [List.cons_append] at here ⊢
      rw [occurrences, occurrences, crossingsAt, List.cons_append, ih, here]
      omega

/-- **The hits of a phrase** in texts that follow each other. -/
theorem occurrences_flatten (phrase : List Word) (texts : List (List Word)) :
    occurrences phrase texts.flatten =
      (texts.map (occurrences phrase)).sum + crossings phrase texts := by
  induction texts with
  | nil => rfl
  | cons text rest ih =>
      rw [List.flatten_cons, occurrences_append, ih, List.map_cons, List.sum_cons, crossings]
      omega

/-- A phrase that begins with a text runs over its end if it is the text and words from behind it. -/
theorem isPrefixOf_over_iff :
    (phrase.isPrefixOf (text ++ behind) && !phrase.isPrefixOf text) = true ↔
      ∃ second, second ≠ [] ∧ phrase = text ++ second ∧ second <+: behind := by
  rw [Bool.and_eq_true, Bool.not_eq_true', ← Bool.not_eq_true, List.isPrefixOf_iff_prefix,
    List.isPrefixOf_iff_prefix]
  constructor
  · rintro ⟨⟨rest, whole⟩, notInside⟩
    rcases List.append_eq_append_iff.mp whole with ⟨more, rfl, -⟩ | ⟨second, rfl, rfl⟩
    · exact absurd (List.prefix_append _ _) notInside
    · refine ⟨second, ?_, rfl, List.prefix_append _ _⟩
      rintro rfl
      exact notInside (by simp)
  · rintro ⟨second, some, rfl, begins⟩
    refine ⟨(List.prefix_append_right_inj _).mpr begins, fun inside => some ?_⟩
    have short := inside.length_le
    rw [List.length_append] at short
    exact List.length_eq_zero_iff.mp (by omega)

theorem crossingsAt_ne_zero_iff : crossingsAt phrase text behind ≠ 0 ↔ RunsOver phrase text behind := by
  induction text with
  | nil =>
      refine ⟨fun some => absurd rfl some, ?_⟩
      rintro ⟨first, -, some, -, -, ends, -⟩
      exact absurd (List.suffix_nil.mp ends) some
  | cons word rest ih =>
      have split : crossingsAt phrase (word :: rest) behind ≠ 0 ↔
          (phrase.isPrefixOf (word :: rest ++ behind) && !phrase.isPrefixOf (word :: rest)) = true ∨
            crossingsAt phrase rest behind ≠ 0 := by
        rw [crossingsAt]
        split <;> simp_all
      rw [split, isPrefixOf_over_iff, ih]
      constructor
      · rintro (⟨second, some, rfl, begins⟩ | ⟨first, second, some, some', rfl, ends, begins⟩)
        · exact ⟨word :: rest, second, List.cons_ne_nil _ _, some, rfl, List.suffix_rfl, begins⟩
        · exact ⟨first, second, some, some', rfl, ends.trans (List.suffix_cons _ _), begins⟩
      · rintro ⟨first, second, some, some', rfl, ends, begins⟩
        rcases List.suffix_cons_iff.mp ends with rfl | later
        · exact .inl ⟨second, some', rfl, begins⟩
        · exact .inr ⟨first, second, some, some', rfl, later, begins⟩

theorem crossings_ne_zero_iff :
    crossings phrase texts ≠ 0 ↔
      ∃ before text after, texts = before ++ text :: after ∧ RunsOver phrase text after.flatten := by
  induction texts with
  | nil => simp [crossings]
  | cons head rest ih =>
      rw [crossings, Ne, Nat.add_eq_zero_iff, not_and_or, ← Ne, ← Ne, crossingsAt_ne_zero_iff, ih]
      constructor
      · rintro (crosses | ⟨before, text, after, rfl, crosses⟩)
        · exact ⟨[], head, rest, rfl, crosses⟩
        · exact ⟨head :: before, text, after, rfl, crosses⟩
      · rintro ⟨before, text, after, same, crosses⟩
        cases before with
        | nil =>
            obtain ⟨rfl, rfl⟩ := List.cons.inj same
            exact .inl crosses
        | cons _ others =>
            obtain ⟨rfl, rfl⟩ := List.cons.inj same
            exact .inr ⟨others, text, after, rfl, crosses⟩

/-! ### Hits in a record -/

/-- The words of the searched strings of a record, string by string. -/
def wordTexts (m : TextMatcher) (doc : Document) : List (List Word) :=
  (searchedStrings m.fields doc).map fun s => m.sense.words s.toList

theorem flatten_wordTexts (m : TextMatcher) (doc : Document) :
    (m.wordTexts doc).flatten = m.searchedWords doc :=
  (List.flatMap_def ..).symm

/-- The number of hits, with those of the phrases inside single strings and those over their ends. -/
theorem hits_eq (m : TextMatcher) (doc : Document) :
    m.hits doc = (m.terms.map (m.searchedWords doc).count).sum +
      (m.phrases.map fun phrase => ((m.wordTexts doc).map (occurrences phrase)).sum +
        crossings phrase (m.wordTexts doc)).sum := by
  simp only [hits, hitsIn, ← occurrences_eq_countP, ← occurrences_flatten, flatten_wordTexts]

/-- **Where phrases are hit.**  The hits of a phrase in a record are those inside each of the searched
strings and those that run over the end of one.  A phrase has hits of the second kind exactly if the
end of some string splits it.  The relevance of a record that matches is the number of the hits of the
words and of the hits of both kinds of the phrases. -/
theorem phrase_hits (query : TextQuery) (fields : List String) (doc : Document) :
    let m := TextMatcher.ofQuery query fields
    let texts := m.wordTexts doc
    (∀ phrase ∈ m.phrases,
      occurrences phrase (m.searchedWords doc) =
          (texts.map (occurrences phrase)).sum + crossings phrase texts ∧
        (crossings phrase texts ≠ 0 ↔ ∃ before text after,
          texts = before ++ text :: after ∧ RunsOver phrase text after.flatten)) ∧
      ∀ score, m.score? doc = some score →
        score = .ofInt ((m.terms.map (m.searchedWords doc).count).sum +
          (m.phrases.map fun phrase =>
            (texts.map (occurrences phrase)).sum + crossings phrase texts).sum : Nat) := by
  intro m texts
  refine ⟨fun phrase _ => ⟨?_, crossings_ne_zero_iff⟩, fun score found => ?_⟩
  · rw [← flatten_wordTexts]
    exact occurrences_flatten phrase texts
  · rw [← hits_eq]
    exact (hits_of_score? found).1

/-- A phrase with a hit inside a string and one over its end. -/
theorem phrase_hits_letters :
    let query : TextQuery := ⟨"\"a b\" a", none, true, true⟩
    let doc : Document := [("x", .string "a b, a"), ("y", .array [.string "b"])]
    let m := TextMatcher.ofQuery query []
    let texts := m.wordTexts doc
    let phrase : List Word := [['a'], ['b']]
    phrase ∈ m.phrases ∧ m.score? doc = some (.ofInt 4) ∧
      (texts.map (occurrences phrase)).sum = 1 ∧
      occurrences phrase (m.searchedWords doc) =
        (texts.map (occurrences phrase)).sum + crossings phrase texts ∧
      (∃ before text after, texts = before ++ text :: after ∧ RunsOver phrase text after.flatten) ∧
      Binary64.ofInt 4 = .ofInt ((m.terms.map (m.searchedWords doc).count).sum +
        (m.phrases.map fun phrase =>
          (texts.map (occurrences phrase)).sum + crossings phrase texts).sum : Nat) := by
  intro query doc m texts phrase
  have computed : phrase ∈ m.phrases ∧ m.score? doc = some (.ofInt 4) ∧
      (texts.map (occurrences phrase)).sum = 1 ∧ crossings phrase texts ≠ 0 := by
    decide +kernel
  obtain ⟨mem, found, inside, crosses⟩ := computed
  obtain ⟨hits, runsOver⟩ := (phrase_hits query [] doc).1 phrase mem
  exact ⟨mem, found, inside, hits, runsOver.mp crosses, (phrase_hits query [] doc).2 _ found⟩

/-- A record matches by a phrase that is in none of its strings. -/
theorem phrase_across_strings :
    let query : TextQuery := ⟨"\"query engine\"", none, true, true⟩
    let doc : Document := [("title", .string "the query"), ("body", .string "engine room")]
    let m := TextMatcher.ofQuery query []
    let phrase : List Word := ["query".toList, "engine".toList]
    m.terms = [] ∧ m.phrases = [phrase] ∧ m.score? doc = some (.ofInt 1) ∧
      ∀ s ∈ searchedStrings [] doc, ¬phrase <:+: m.sense.words s.toList := by
  decide +kernel

end TextMatcher

end DocQuery
