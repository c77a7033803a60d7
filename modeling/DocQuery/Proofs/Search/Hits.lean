import DocQuery.Search.Matcher
import Mathlib.Algebra.BigOperators.Group.List.Basic
import Mathlib.Algebra.Order.BigOperators.Group.List
import Mathlib.Algebra.Order.Ring.Nat

/-!
# Hits of a text search

The relevance of a record that a search matches is the number of its hits: how often each word of the
search occurs in the words of the record, and at how many places each phrase begins.

## Main definitions

* `TextMatcher.hits`: the number of hits
* `TextMatcher.MatchesWords`: what a search asks of the words of a record
* `TextMatcher.scoreWords?_eq_some_iff`: the relevance as a number of hits
-/

namespace DocQuery

namespace TextMatcher

variable {m : TextMatcher} {doc : Document} {words : List Word} {score : Binary64}

/-- The number of hits of a search in a sequence of words: how often each word occurs in it, and at
how many places each phrase begins. -/
def hitsIn (m : TextMatcher) (words : List Word) : Nat :=
  (m.terms.map words.count).sum +
    (m.phrases.map fun phrase =>
      (List.range words.length).countP fun i => phrase.isPrefixOf (words.drop i)).sum

/-- The number of hits of a search in a record. -/
def hits (m : TextMatcher) (doc : Document) : Nat := m.hitsIn (m.searchedWords doc)

theorem occurrences_eq_countP (phrase words : List Word) :
    occurrences phrase words =
      (List.range words.length).countP fun i => phrase.isPrefixOf (words.drop i) := by
  induction words with
  | nil => rfl
  | cons word rest ih =>
      rw [occurrences, ih, List.length_cons, List.range_succ_eq_map, List.countP_cons,
        List.countP_map, Nat.add_comm]
      rfl

theorem hitsIn_eq (m : TextMatcher) (words : List Word) :
    m.hitsIn words = m.terms.foldl (fun hits term => hits + words.count term) 0 +
      m.phrases.foldl (fun hits phrase => hits + occurrences phrase words) 0 := by
  simp only [hitsIn, ← occurrences_eq_countP, List.sum_eq_foldl, List.foldl_map]

theorem occurrences_le_hitsIn {phrase : List Word} (mem : phrase ∈ m.phrases) (words : List Word) :
    occurrences phrase words ≤ m.hitsIn words := by
  rw [hitsIn, occurrences_eq_countP]
  exact Nat.le_add_left_of_le (List.le_sum_of_mem (List.mem_map_of_mem mem))

theorem count_le_hitsIn {term : Word} (mem : term ∈ m.terms) (words : List Word) :
    words.count term ≤ m.hitsIn words :=
  Nat.le_add_right_of_le (List.le_sum_of_mem (List.mem_map_of_mem mem))

/-- What a search asks of the words of a record: no excluded word and all phrases, and without phrases
one of its words. -/
structure MatchesWords (m : TextMatcher) (words : List Word) : Prop where
  negated : ∀ word ∈ m.negated, word ∉ words
  phrases : ∀ phrase ∈ m.phrases, occurrences phrase words ≠ 0
  terms : m.phrases = [] → ∃ term ∈ m.terms, term ∈ words

/-- A search finds the words that it matches, and their relevance is the number of hits. -/
theorem scoreWords?_eq_some_iff :
    m.scoreWords? words = some score ↔ m.MatchesWords words ∧ score = .ofInt (m.hitsIn words) := by
  have termHits : m.terms.foldl (fun hits term => hits + words.count term) 0 = 0 ↔
      ∀ term ∈ m.terms, term ∉ words := by
    rw [← List.foldl_map, ← List.sum_eq_foldl, List.sum_eq_zero_iff]
    simp [List.count_eq_zero]
  simp only [scoreWords?, ← hitsIn_eq, Option.ite_none_left_eq_some]
  constructor
  · rintro ⟨asks, excluded, everyPhrase, someTerm, isHits⟩
    refine ⟨⟨?_, ?_, fun none => ?_⟩, (Option.some.inj isHits).symm⟩
    · simpa using excluded
    · simpa using everyPhrase
    · simpa [none, termHits] using someTerm
  · rintro ⟨⟨excluded, everyPhrase, someTerm⟩, rfl⟩
    have asks : m.terms = [] → m.phrases ≠ [] := fun noTerms none => by
      obtain ⟨term, mem, -⟩ := someTerm none
      exact absurd (noTerms ▸ mem) List.not_mem_nil
    refine ⟨?_, by simpa using excluded, by simpa using everyPhrase, ?_, rfl⟩
    · simpa using asks
    · simpa [termHits] using someTerm

/-- The relevance of a record that a search matches is the number of hits, and there are some. -/
theorem hits_of_score? (found : m.score? doc = some score) :
    score = .ofInt (m.hits doc) ∧ 1 ≤ m.hits doc := by
  obtain ⟨matched, isHits⟩ := scoreWords?_eq_some_iff.mp found
  refine ⟨isHits, ?_⟩
  by_cases none : m.phrases = []
  · -- without phrases some word occurs
    obtain ⟨term, mem, occurs⟩ := matched.terms none
    exact (List.count_pos_iff.mpr occurs).trans_le (count_le_hitsIn mem _)
  · -- with phrases every one of them occurs
    obtain ⟨phrase, mem⟩ := List.exists_mem_of_ne_nil _ none
    have occurs := Nat.pos_of_ne_zero (matched.phrases phrase mem)
    exact occurs.trans_le (occurrences_le_hitsIn mem _)

end TextMatcher

end DocQuery
