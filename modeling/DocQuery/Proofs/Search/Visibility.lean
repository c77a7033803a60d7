import DocQuery.Proofs.Document.Place
import DocQuery.Proofs.Document.Without
import DocQuery.Proofs.Predicate.Meaning
import DocQuery.Query.Service

/-!
# What a text search can tell

The text clause of a request gives a record a relevance or none, and it reads no more of the record
than the strings that it searches.  Two records that agree once some fields are taken away are
therefore told apart by no search, as long as the collection names the paths to search and none of
them starts at such a field.

This condition is exact.  Without named paths every string of a record is searched, the hidden ones
included, and a named path that starts at a hidden field is searched as any other: in both cases one
word is enough to tell a record that holds it from one that does not.  Nothing on the way of a
request looks at the restricted fields before a text is searched.

## Main definitions

* `FullTextSearch.query`: the text query that a request comes to
* `TextMatcher.score?_congr`: what a search does not read does not change the relevance
* `Document.exists_hidden_text`: any text can stand where only a restricted field is read
* `search_blind_iff`
-/

namespace DocQuery

variable {names fields : List String} {doc doc' : Document}

/-! ### The clause of a request -/

/-- The text query that a request comes to. -/
def FullTextSearch.query (search : FullTextSearch) : TextQuery where
  search := Text.trim search.searchText
  language := (search.language.map Text.trim).filter fun l => !l.isEmpty
  caseSensitive := search.caseSensitive
  diacriticSensitive := search.diacriticSensitive

/-- A text clause that has a search text is read member by member. -/
theorem TextQuery.ofClause_object {members : Document} {text : String}
    (found : members.get? "$search" = some (.string text)) :
    TextQuery.ofClause (.object members) = .ok {
      search := text
      language := (members.get? "$language").bind Json.string?
      caseSensitive := ((members.get? "$caseSensitive").bind Json.bool?).getD false
      diacriticSensitive :=
        ((members.get? "$diacriticSensitive").bind Json.bool?).getD false } := by
  simp only [TextQuery.ofClause, Json.object?, found, Option.bind_some, Json.string?]

/-- The clause of a request is read back as its text query. -/
theorem FullTextSearch.ofClause_clause? {search : FullTextSearch} {clause : Json}
    (asked : search.clause? = some clause) : TextQuery.ofClause clause = .ok search.query := by
  rw [clause?] at asked
  split at asked
  · cases asked
  · rw [← Option.some.inj asked]
    refine Eq.trans (TextQuery.ofClause_object (if_pos rfl)) ?_
    cases named : (search.language.map Text.trim).filter fun l => !l.isEmpty <;>
      simp [query, named, Document.get?, Json.string?, Json.bool?]

theorem compileClause_text [PatternReader] {clause : Json} {query : TextQuery}
    (read : TextQuery.ofClause clause = .ok query) :
    compileClause fields "$text" clause = .ok (.text (.ofQuery query fields)) := by
  cases clause with
  | object members =>
      rw [compileClause, read]
      rfl
  | _ => cases read

/-- A text clause alone compiles to the search for its query. -/
theorem compile_text [PatternReader] {clause : Json} {query : TextQuery}
    (read : TextQuery.ofClause clause = .ok query) :
    Predicate.compile [("$text", clause)] fields =
      .ok (.allOf [.text (.ofQuery query fields)]) := by
  rw [Predicate.compile, compileClauses, compileClause_text read]
  rfl

/-- What a text clause alone says of a record is its relevance. -/
theorem evaluate_text (m : TextMatcher) (doc : Document) :
    (Predicate.allOf [.text m]).evaluate doc none = ((m.score? doc).isSome, m.score? doc) := by
  rw [Predicate.evaluate, evaluateAll, Predicate.evaluate]
  cases m.score? doc <;> rfl

/-! ### What is read of a record -/

namespace TextMatcher

/-- A search of named paths does not read fields at which none of them starts. -/
theorem searchedStrings_without (named : fields ≠ [])
    (visible : ∀ f ∈ fields, Path.root f ∉ names) :
    searchedStrings fields (doc.without names) = searchedStrings fields doc := by
  have some : ¬fields.isEmpty = true := by simpa using named
  rw [searchedStrings, searchedStrings, if_neg some, if_neg some]
  exact List.flatMap_congr fun f mem => by rw [Document.lookup_without (visible f mem)]

/-- What a search does not read does not change the relevance. -/
theorem score?_congr {m : TextMatcher} (named : m.fields ≠ [])
    (visible : ∀ f ∈ m.fields, Path.root f ∉ names)
    (agree : doc.without names = doc'.without names) : m.score? doc = m.score? doc' := by
  rw [score?, score?, searchedWords, searchedWords, ← searchedStrings_without named visible, agree,
    searchedStrings_without named visible]

theorem fields_ofQuery (query : TextQuery) (fields : List String) :
    (ofQuery query fields).fields = fields := by
  rw [ofQuery]

theorem searchedStrings_nil : searchedStrings fields [] = [] := by
  have nothing : ∀ f, Document.lookup [] f = [] := by
    intro f
    rw [Document.lookup, Path.segments_eq_cons]
    generalize (Path.segments f).tail = rest
    induction rest with
    | nil => rfl
    | cons s rest ih => exact ih
  rw [searchedStrings]
  split
  · rfl
  · simp [nothing]

/-- A search for one word gives a relevance to the records that have it. -/
theorem isSome_score? {m : TextMatcher} {word : Word} (terms : m.terms = [word])
    (phrases : m.phrases = []) (negated : m.negated = []) :
    (m.score? doc).isSome = true ↔ word ∈ m.searchedWords doc := by
  rw [score?, scoreWords?, terms, phrases, negated]
  by_cases mem : word ∈ m.searchedWords doc <;> simp [List.count_eq_zero, mem]

end TextMatcher

/-- Any text can stand where only restricted fields are read, if one of them is searched. -/
theorem Document.exists_hidden_text (text : String)
    (searched : fields = [] ∧ names ≠ [] ∨ ∃ f ∈ fields, Path.root f ∈ names) :
    ∃ doc : Document, doc.without names = [] ∧ text ∈ TextMatcher.searchedStrings fields doc := by
  rcases searched with ⟨rfl, some⟩ | ⟨f, mem, hidden⟩
  · obtain ⟨name, rest, rfl⟩ := List.exists_cons_of_ne_nil some
    refine ⟨[(name, .string text)], ?_, ?_⟩
    · simp [without]
    · simp [TextMatcher.searchedStrings, TextMatcher.stringsOfMembers, TextMatcher.stringsOf]
  · -- a write into the empty record makes the field at which the path starts and no other
    have reached : (setPath [] f (.string text)).lookup f = [.string text] := by
      refine lookup_of_getPath? ?_
      rw [getPath?, setPath]
      exact descend?_write_self (Path.segments_ne_nil f)
    refine ⟨setPath [] f (.string text), ?_, ?_⟩
    · obtain ⟨value, only⟩ := exists_setPath_eq_insert [] f (.string text)
      simp [only, insert, without, hidden]
    · have some : ¬fields.isEmpty = true := by simpa using List.ne_nil_of_mem mem
      rw [TextMatcher.searchedStrings, if_neg some, List.mem_flatMap]
      exact ⟨f, mem, by simp [reached, TextMatcher.stringsOf]⟩

/-! ### Searches of requests -/

/-- A request to search for a single letter, taken as it stands. -/
def FullTextSearch.letter : FullTextSearch := ⟨"a", none, true, true, false⟩

theorem FullTextSearch.ofQuery_letter :
    TextMatcher.ofQuery letter.query fields = ⟨⟨true, true⟩, fields, [['a']], [], []⟩ := by
  have parts : TextMatcher.chunks (Text.pieces '"' letter.query.search.toList) = ([['a']], []) := by
    decide +kernel
  have token : Text.blankWords ['a'] = [['a']] := by decide +kernel
  have word : WordSense.words ⟨true, true⟩ ['a'] = [['a']] := by decide +kernel
  rw [TextMatcher.ofQuery, parts]
  simp [token, TextMatcher.exclusion?, query, letter, word]

/-- The search for a letter finds the records that have it among their searched strings. -/
theorem FullTextSearch.isSome_letter_iff :
    ((TextMatcher.ofQuery letter.query fields).score? doc).isSome = true ↔
      ['a'] ∈ (TextMatcher.searchedStrings fields doc).flatMap
        fun s => WordSense.words ⟨true, true⟩ s.toList := by
  rw [ofQuery_letter]
  exact TextMatcher.isSome_score? rfl rfl rfl

/-- **What a text search can tell about restricted fields.**  The text clause of every request
compiles, and it gives the same verdict and the same relevance to any two records that agree once
the restricted fields are taken away, exactly if no field is restricted, or the collection names the
paths to search and none of them starts at a restricted field. -/
theorem search_blind_iff [PatternReader] (c : Collection) (settings : PageSettings) :
    (∀ (request : Request) (clause : Json),
      (request.normalize c settings).fullText.bind FullTextSearch.clause? = some clause →
        ∃ p, Predicate.compile [("$text", clause)] c.textFields = .ok p ∧
          ∀ doc doc' : Document,
            doc.without c.restrictedFields = doc'.without c.restrictedFields →
              p.evaluate doc none = p.evaluate doc' none) ↔
      c.restrictedFields = [] ∨
        (c.textFields ≠ [] ∧ ∀ f ∈ c.textFields, Path.root f ∉ c.restrictedFields) := by
  constructor
  · intro blind
    obtain ⟨p, compiled, alike⟩ :=
      blind { Request.empty with fullText := some .letter } _ (by rfl)
    have read : TextQuery.ofClause _ = .ok FullTextSearch.letter.query :=
      FullTextSearch.ofClause_clause? rfl
    obtain rfl := Except.ok_unique compiled (compile_text read)
    by_contra open_
    rw [not_or, not_and_or, not_not] at open_
    have searched : c.textFields = [] ∧ c.restrictedFields ≠ [] ∨
        ∃ f ∈ c.textFields, Path.root f ∈ c.restrictedFields := by
      rcases open_.2 with unnamed | named
      · exact .inl ⟨unnamed, open_.1⟩
      · exact .inr (by simpa using named)
    -- a record of nothing but a hidden letter is told from the empty one
    obtain ⟨doc, hidden, letter⟩ := Document.exists_hidden_text "a" searched
    have same := alike doc [] hidden
    rw [evaluate_text, evaluate_text] at same
    have found := FullTextSearch.isSome_letter_iff.mpr
      (List.mem_flatMap.mpr ⟨"a", letter, by decide +kernel⟩)
    rw [(Prod.mk.inj same).2, FullTextSearch.isSome_letter_iff,
      TextMatcher.searchedStrings_nil] at found
    cases found
  · intro condition request clause asked
    obtain ⟨search, -, built⟩ := Option.bind_eq_some_iff.mp asked
    refine ⟨_, compile_text (FullTextSearch.ofClause_clause? built), fun doc doc' agree => ?_⟩
    rw [evaluate_text, evaluate_text]
    rcases condition with none | ⟨named, visible⟩
    · have whole : ∀ doc : Document, doc.without [] = doc := fun doc =>
        Document.without_eq_self (by simp)
      rw [none, whole, whole] at agree
      rw [agree]
    · rw [← TextMatcher.fields_ofQuery search.query c.textFields] at named visible
      rw [TextMatcher.score?_congr named visible agree]

end DocQuery
