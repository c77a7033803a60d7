import DocQuery.Proofs.Number.Whole
import DocQuery.Proofs.Search.Hits
import DocQuery.Proofs.Text.Split
import Mathlib.Algebra.Group.Nat.Even

/-!
# Composing searches

A search text grows at its end.  As long as its quotes are closed, a token that is added behind a
blank is one more token outside the quotes, and nothing in front of it is read in another way
(`TextMatcher.tokens_append`).  A token of words adds them to the words of which one must occur, so
the search finds what it found before, with at least the same relevance; a token behind a dash adds its
words to the excluded ones, so the search finds the same as before with the same relevance, apart from
the records in which one of the words occurs.

## Main definitions

* `TextMatcher.tokens`, `TextMatcher.quotedTexts`: the parts of a search text
* `TextMatcher.IsToken`: a text that is a token of its own
* `TextMatcher.ofQuery_append_words`, `TextMatcher.ofQuery_append_exclusion`
* `TextMatcher.score?_append`
-/

namespace DocQuery

namespace TextMatcher

variable {search w : String} {query : TextQuery} {fields : List String}

/-! ### The parts of a search text -/

/-- The tokens of a search text outside the quotes. -/
def tokens (search : String) : List (List Char) :=
  (chunks (Text.pieces '"' search.toList)).1.flatMap Text.blankWords

/-- The parts of a search text inside quotes. -/
def quotedTexts (search : String) : List (List Char) :=
  (chunks (Text.pieces '"' search.toList)).2

/-- The words of a token that excludes none. -/
def looseWords (sense : WordSense) (token : List Char) : List Word :=
  match exclusion? token with
  | some _ => []
  | none => sense.words token

theorem ofQuery_eq (query : TextQuery) (fields : List String) :
    let sense : WordSense := ⟨query.caseSensitive, query.diacriticSensitive⟩
    ofQuery query fields = {
      sense
      fields
      terms := (tokens query.search).flatMap (looseWords sense)
      phrases := ((quotedTexts query.search).map sense.words).filter fun phrase => !phrase.isEmpty
      negated := ((tokens query.search).filterMap exclusion?).flatMap sense.words } :=
  rfl

/-- Behind an even number of parts the next one is outside the quotes. -/
theorem chunks_concat {before : List (List Char)} (even : Even before.length) (last : List Char) :
    chunks (before ++ [last]) = ((chunks before).1 ++ [last], (chunks before).2) := by
  induction before using chunks.induct with
  | case1 => rfl
  | case2 outside => simp at even
  | case3 outside quoted rest _ _ _ ih =>
      have shorter : Even rest.length := by
        simpa [Nat.even_add_one] using even
      simp only [List.cons_append, chunks, ih shorter]

/-- A text that is a token of its own: there is something in it, and neither blanks nor quotes. -/
structure IsToken (token : List Char) : Prop where
  some : token ≠ []
  unbroken : ∀ c ∈ token, Text.isBlank c = false
  unquoted : '"' ∉ token

/-- **A token behind closed quotes** is one more token, and changes nothing before it. -/
theorem tokens_append (even : Even (search.toList.count '"')) (token : IsToken w.toList) :
    tokens (search ++ " " ++ w) = tokens search ++ [w.toList] ∧
      quotedTexts (search ++ " " ++ w) = quotedTexts search := by
  have chars : (search ++ " " ++ w).toList = search.toList ++ ' ' :: w.toList := by simp
  have unquoted : '"' ∉ ' ' :: w.toList := by
    simpa using token.unquoted
  obtain ⟨before, last, parts, split, split'⟩ :=
    Text.splitOn_append_of_notMem unquoted search.toList
  rw [← parts] at even
  -- the part behind the last quote is outside, and goes on with the token
  have behind : Text.blankWords (last ++ ' ' :: w.toList) = Text.blankWords last ++ [w.toList] := by
    rw [Text.blankWords, Text.runs_append_cons (by decide),
      Text.runs_of_forall token.some (by simpa using token.unbroken)]
    rfl
  rw [tokens, tokens, quotedTexts, quotedTexts, chars, Text.pieces_eq_splitOn,
    Text.pieces_eq_splitOn, split, split', chunks_concat even, chunks_concat even]
  simp [behind]

/-! ### Longer searches -/

theorem exclusion?_of_plain {token : List Char} (plain : token.head? ≠ some '-') :
    exclusion? token = none := by
  cases token with
  | nil => rfl
  | cons c rest =>
      cases rest with
      | nil => simp [exclusion?]
      | cons d more => simp_all [exclusion?]

/-- A token of words adds its words to those that are searched for. -/
theorem ofQuery_append_words (even : Even (query.search.toList.count '"'))
    (token : IsToken w.toList) (plain : w.toList.head? ≠ some '-') :
    let m := ofQuery query fields
    ofQuery { query with search := query.search ++ " " ++ w } fields =
      { m with terms := m.terms ++ m.sense.words w.toList } := by
  obtain ⟨added, quoted⟩ := tokens_append even token
  simp only [ofQuery_eq, added, quoted, List.flatMap_append, List.filterMap_append]
  simp [looseWords, exclusion?_of_plain plain]

/-- A token behind a dash adds its words to those that are excluded. -/
theorem ofQuery_append_exclusion (even : Even (query.search.toList.count '"'))
    (token : IsToken w.toList) :
    let m := ofQuery query fields
    ofQuery { query with search := query.search ++ " -" ++ w } fields =
      { m with negated := m.negated ++ m.sense.words w.toList } := by
  have chars : ("-" ++ w).toList = '-' :: w.toList := by simp
  have dashed : IsToken ("-" ++ w).toList := by
    rw [chars]
    refine ⟨List.cons_ne_nil _ _, ?_, by simpa using token.unquoted⟩
    exact List.forall_mem_cons.mpr ⟨by decide, token.unbroken⟩
  have excluded : exclusion? ('-' :: w.toList) = some w.toList := by
    obtain ⟨c, rest, word⟩ := List.exists_cons_of_ne_nil token.some
    rw [word, exclusion?]
  have same : query.search ++ " -" ++ w = query.search ++ " " ++ ("-" ++ w) :=
    String.toList_inj.mp (by simp)
  obtain ⟨added, quoted⟩ := tokens_append even dashed
  rw [chars] at added
  simp only [same, ofQuery_eq, added, quoted, List.flatMap_append, List.filterMap_append]
  simp [looseWords, excluded]

/-! ### The relevance of longer searches -/

section

variable {m : TextMatcher} {words : List Word} {score : Binary64}

/-- More words to search for find the same with at least the same relevance. -/
theorem scoreWords?_append_terms (more : List Word) (found : m.scoreWords? words = some score) :
    ∃ score', { m with terms := m.terms ++ more }.scoreWords? words = some score' ∧
      score.order score' ≠ .gt := by
  obtain ⟨matched, rfl⟩ := scoreWords?_eq_some_iff.mp found
  have matched' : { m with terms := m.terms ++ more }.MatchesWords words := by
    refine ⟨matched.negated, matched.phrases, fun none => ?_⟩
    obtain ⟨term, mem, occurs⟩ := matched.terms none
    exact ⟨term, List.mem_append_left _ mem, occurs⟩
  refine ⟨_, scoreWords?_eq_some_iff.mpr ⟨matched', rfl⟩, Binary64.ofInt_mono ?_⟩
  simp only [hitsIn, List.map_append, List.sum_append]
  omega

theorem matchesWords_append_negated {more : List Word} :
    { m with negated := m.negated ++ more }.MatchesWords words ↔
      m.MatchesWords words ∧ ∀ word ∈ more, word ∉ words := by
  constructor
  · intro matched
    refine ⟨⟨fun word mem => ?_, matched.phrases, matched.terms⟩, fun word mem => ?_⟩
    · exact matched.negated word (List.mem_append_left _ mem)
    · exact matched.negated word (List.mem_append_right _ mem)
  · rintro ⟨matched, absent⟩
    refine ⟨fun word mem => ?_, matched.phrases, matched.terms⟩
    exact (List.mem_append.mp mem).elim (matched.negated word) (absent word)

/-- More words to exclude find the same with the same relevance, unless one of them occurs. -/
theorem scoreWords?_append_negated (m : TextMatcher) (more words : List Word) :
    { m with negated := m.negated ++ more }.scoreWords? words =
      if ∃ word ∈ more, word ∈ words then none else m.scoreWords? words := by
  refine Option.ext fun score => ?_
  rw [scoreWords?_eq_some_iff, matchesWords_append_negated, Option.ite_none_left_eq_some,
    scoreWords?_eq_some_iff, not_exists]
  simp only [not_and]
  exact ⟨fun ⟨⟨matched, absent⟩, isHits⟩ => ⟨absent, matched, isHits⟩,
    fun ⟨absent, matched, isHits⟩ => ⟨⟨matched, absent⟩, isHits⟩⟩

end

/-- **Searches compose.**  Behind closed quotes, a token of words leaves a record with the relevance
that it has, or a greater one; and a token behind a dash leaves the relevance of a record as it is, if
none of its words occurs, and takes the record away otherwise. -/
theorem score?_append (query : TextQuery) (fields : List String) (doc : Document) {w : String}
    (even : Even (query.search.toList.count '"')) (token : IsToken w.toList)
    (plain : w.toList.head? ≠ some '-') :
    let m := ofQuery query fields
    let wider := ofQuery { query with search := query.search ++ " " ++ w } fields
    let narrower := ofQuery { query with search := query.search ++ " -" ++ w } fields
    (∀ score, m.score? doc = some score →
      ∃ score', wider.score? doc = some score' ∧ score.order score' ≠ .gt) ∧
      narrower.score? doc =
        if ∃ word ∈ m.sense.words w.toList, word ∈ m.searchedWords doc then none
        else m.score? doc := by
  intro m wider narrower
  have widens : wider = { m with terms := m.terms ++ m.sense.words w.toList } :=
    ofQuery_append_words even token plain
  have narrows : narrower = { m with negated := m.negated ++ m.sense.words w.toList } :=
    ofQuery_append_exclusion even token
  rw [widens, narrows]
  -- from here on it does not matter how the search was read
  clear_value m
  refine ⟨fun score found => ?_, ?_⟩
  · exact scoreWords?_append_terms (m.sense.words w.toList) found
  · exact scoreWords?_append_negated m (m.sense.words w.toList) (m.searchedWords doc)

/-- An excluded word occurs in a record that matches by a word and a phrase. -/
theorem score?_append_letters :
    let query : TextQuery := ⟨"a \"b c\" -d", none, true, true⟩
    let doc : Document := [("text", .string "a b c, e")]
    let m := ofQuery query []
    Even (query.search.toList.count '"') ∧ IsToken "e+f".toList ∧
      "e+f".toList.head? ≠ some '-' ∧ m.score? doc = some (.ofInt 2) ∧
      (∃ score', (ofQuery { query with search := query.search ++ " " ++ "e+f" } []).score? doc =
        some score' ∧ (Binary64.ofInt 2).order score' ≠ .gt) ∧
      (ofQuery { query with search := query.search ++ " -" ++ "e+f" } []).score? doc = none := by
  intro query doc m
  have even : Even (query.search.toList.count '"') := by decide
  have unbroken : ("e+f".toList.all fun c => !Text.isBlank c) = true := by decide
  have token : IsToken "e+f".toList := ⟨by decide, by simpa using unbroken, by decide⟩
  have plain : "e+f".toList.head? ≠ some '-' := by decide
  have computed : m.score? doc = some (.ofInt 2) ∧
      ∃ word ∈ m.sense.words "e+f".toList, word ∈ m.searchedWords doc := by
    decide +kernel
  obtain ⟨found, occurs⟩ := computed
  obtain ⟨wider, narrower⟩ := score?_append query [] doc even token plain
  exact ⟨even, token, plain, found, wider _ found, narrower.trans (if_pos occurs)⟩

end TextMatcher

end DocQuery
