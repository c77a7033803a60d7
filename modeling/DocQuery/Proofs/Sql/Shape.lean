import DocQuery.Sql.Text

/-!
# The shape of an SQL text

The shape of a text is what is left when every string literal in single quotes is replaced by a
placeholder.  Where a literal begins and ends is decided by the database that reads the text, so the
shape is defined for characters, with the lexical rules of that database: a quote is written twice
inside a literal, an `E` in front of a literal makes the backslash an escape, and no literal begins
inside a name in double quotes, a comment or a text between dollar tags.

Two texts are compared from places that need not be the same, because a text that follows a literal
cannot know whether the literal had an `E`.

## Main definitions

* `Sql.Place`, `Sql.step`, `Sql.scan`: reading a text character by character
* `Sql.shape`: the shape of a text
* `Sql.Agree`: two texts have one shape, from any two places of a kind
* `Sql.agree_literal`: any two literals agree
-/

namespace DocQuery.Sql

/-- Where a reader of a text stands. -/
inductive Place where
  /-- Where a word may begin. -/
  | between
  /-- Inside a word or a number. -/
  | word
  /-- Behind an `E` that may belong to a literal. -/
  | mark (letter : Char)
  /-- Behind a minus sign. -/
  | dash
  /-- Behind a slash. -/
  | slash
  /-- Inside a literal; in one with an `E` a backslash is an escape. -/
  | literal (escapes : Bool)
  /-- Behind a backslash that is an escape. -/
  | escape
  /-- Behind a quote inside a literal: its end, or the first half of a quote. -/
  | quote (escapes : Bool)
  /-- Inside a name in double quotes. -/
  | name
  /-- Inside a comment that ends with the line. -/
  | line
  /-- Inside comments in each other, and the character read last. -/
  | block (depth : Nat) (last : Char)
  /-- Behind a dollar sign and the characters of a tag, the last one first. -/
  | tag (read : List Char)
  /-- Inside a text between dollar tags: what ends it and what was read of it, both from the end. -/
  | dollar (ending read : List Char)
deriving DecidableEq

/-- The characters of words. -/
def isWordChar (c : Char) : Bool := c.isAlphanum || c = '_' || 0x80 ≤ c.toNat

/-- Read the first character of what comes next. -/
def start (c : Char) : Place × List (Option Char) :=
  if c = '\'' then (.literal false, [none])
  else if c = 'E' || c = 'e' then (.mark c, [])
  else if isWordChar c then (.word, [some c])
  else if c = '"' then (.name, [some c])
  else if c = '-' then (.dash, [some c])
  else if c = '/' then (.slash, [some c])
  else if c = '$' then (.tag [], [some c])
  else (.between, [some c])

/-- Read a character inside a word. -/
def continueWord (c : Char) : Place × List (Option Char) :=
  if isWordChar c || c = '$' then (.word, [some c]) else start c

/-- Read one character: the next place, and what the character leaves in the shape.  A literal
leaves the placeholder `none`. -/
def step : Place → Char → Place × List (Option Char)
  | .between, c => start c
  | .word, c => continueWord c
  | .mark letter, c =>
    if c = '\'' then (.literal true, [none])
    else ((continueWord c).1, some letter :: (continueWord c).2)
  | .dash, c => if c = '-' then (.line, [some c]) else start c
  | .slash, c => if c = '*' then (.block 1 ' ', [some c]) else start c
  | .literal escapes, c =>
    if c = '\'' then (.quote escapes, [])
    else if escapes && c = '\\' then (.escape, [])
    else (.literal escapes, [])
  | .escape, _ => (.literal true, [])
  | .quote escapes, c => if c = '\'' then (.literal escapes, []) else start c
  -- a double quote that is written twice ends the name and opens it again
  | .name, c => (if c = '"' then .between else .name, [some c])
  | .line, c => (if c = '\n' then .between else .line, [some c])
  | .block depth last, c =>
    (if last = '*' && c = '/' then if depth = 1 then .between else .block (depth - 1) ' '
      else if last = '/' && c = '*' then .block (depth + 1) ' '
      else .block depth c, [some c])
  | .tag read, c =>
    if c = '$' then (.dollar ('$' :: read ++ ['$']) [], [some c])
    else if isWordChar c && !(read.isEmpty && c.isDigit) then (.tag (c :: read), [some c])
    else start c
  | .dollar ending read, c =>
    (if ending.isPrefixOf (c :: read) then .between else .dollar ending (c :: read), [some c])

/-- Read a text from a place. -/
def scan : Place → List Char → Place × List (Option Char)
  | place, [] => (place, [])
  | place, c :: rest =>
    let (next, left) := step place c
    let (last, more) := scan next rest
    (last, left ++ more)

/-- What is left in the shape at the end of a text, unless something is left open there. -/
def Place.rest? : Place → Option (List (Option Char))
  | .literal _ | .escape | .name | .block .. | .dollar .. => none
  | .mark letter => some [some letter]
  | _ => some []

/-- The shape of a text, `none` if the text ends inside a literal, a name or a comment. -/
def shape (text : String) : Option (List (Option Char)) :=
  let (place, left) := scan .between text.toList
  place.rest?.map (left ++ ·)

variable {place : Place} {c : Char} {xs ys : List Char}

@[simp] theorem scan_nil : scan place [] = (place, []) := rfl

theorem scan_cons :
    scan place (c :: xs) =
      ((scan (step place c).1 xs).1, (step place c).2 ++ (scan (step place c).1 xs).2) := rfl

theorem scan_append : scan place (xs ++ ys) =
    ((scan (scan place xs).1 ys).1, (scan place xs).2 ++ (scan (scan place xs).1 ys).2) := by
  induction xs generalizing place with
  | nil => rfl
  | cons c rest ih => rw [List.cons_append, scan_cons, scan_cons, ih, List.append_assoc]

/-! ### Texts of one shape -/

namespace Place

/-- A word may begin. -/
def isReady (place : Place) : Bool := place = .between

/-- Inside a literal without escapes. -/
def isInside (place : Place) : Bool := place = .literal false

/-- Nothing is left open, and what was read last ends where no quote and no word follows. -/
def isSettled : Place → Bool
  | .between | .word | .quote _ => true
  | _ => false

end Place

/-- Two texts leave the same in the shape and end at places of one kind, from any two places of a
kind. -/
def Agree (before : Place → Bool) (xs ys : List Char) (after : Place → Bool) : Prop :=
  ∀ a b, before a = true → before b = true →
    (scan a xs).2 = (scan b ys).2 ∧ after (scan a xs).1 = true ∧ after (scan b ys).1 = true

namespace Agree

variable {before after last : Place → Bool} {us vs : List Char}

theorem append (first : Agree before xs ys after) (second : Agree after us vs last) :
    Agree before (xs ++ us) (ys ++ vs) last := by
  intro a b fromA fromB
  obtain ⟨same, toA, toB⟩ := first a b fromA fromB
  rw [scan_append, scan_append, same, (second _ _ toA toB).1]
  exact ⟨rfl, (second _ _ toA toB).2⟩

/-- From one place a text agrees with itself. -/
theorem self (place : Place) (ends : after (scan place xs).1 = true) :
    Agree (fun a => a = place) xs xs after := by
  intro a b fromA fromB
  obtain rfl : a = place := of_decide_eq_true fromA
  obtain rfl : b = a := of_decide_eq_true fromB
  exact ⟨rfl, ends, ends⟩

end Agree

/-- The characters that end a word and a literal. -/
def splits (c : Char) : Bool := !isWordChar c && c ≠ '$' && c ≠ '\''

theorem step_of_splits (settled : place.isSettled = true) (split : splits c = true) :
    step place c = start c := by
  simp only [splits, Bool.and_eq_true, Bool.not_eq_true', decide_eq_true_eq] at split
  obtain ⟨⟨notWord, notDollar⟩, notQuote⟩ := split
  cases place with
  | between => rfl
  | word => simp [step, continueWord, notWord, notDollar]
  | quote escapes => simp [step, notQuote]
  | _ => cases settled

/-- Texts that begin with a character that ends words do not depend on what they follow. -/
theorem Agree.settled {after : Place → Bool} (split : splits c = true)
    (agree : Agree Place.isReady (c :: xs) (c :: ys) after) :
    Agree Place.isSettled (c :: xs) (c :: ys) after := by
  have start {place : Place} (settled : place.isSettled = true) (text : List Char) :
      scan place (c :: text) = scan .between (c :: text) := by
    rw [scan_cons, scan_cons, step_of_splits settled split]
    rfl
  intro a b fromA fromB
  rw [start fromA, start fromB]
  exact agree _ _ rfl rfl

/-! ### Literals -/

/-- A character of a value stands for itself, or is written behind a backslash. -/
theorem escaped_cases (c : Char) :
    (∃ d, escaped c = ['\\', d]) ∨ escaped c = [c] ∧ c ≠ '\\' ∧ c ≠ '\'' := by
  unfold escaped
  split
  case h_10 notBackslash _ notQuote _ _ _ _ _ _ => exact .inr ⟨rfl, notBackslash, notQuote⟩
  all_goals exact .inl ⟨_, rfl⟩

/-- Inside a literal with escapes every character of its value is read as a part of it. -/
theorem scan_escaped (value : List Char) :
    scan (.literal true) (value.flatMap escaped) = (.literal true, []) := by
  induction value with
  | nil => rfl
  | cons c rest ih =>
      rw [List.flatMap_cons, scan_append]
      obtain ⟨d, written⟩ | ⟨written, notBackslash, notQuote⟩ := escaped_cases c
      · simp [written, scan, step, ih]
      · simp [written, scan, step, notBackslash, notQuote, ih]

/-- A value without characters to escape is its own body, and holds no quote. -/
theorem scan_of_noEscape {value : List Char} (plain : '\\' ∉ value.flatMap escaped) :
    scan (.literal false) (value.flatMap escaped) = (.literal false, []) := by
  induction value with
  | nil => rfl
  | cons c rest ih =>
      rw [List.flatMap_cons, List.mem_append, not_or] at plain
      rw [List.flatMap_cons, scan_append]
      obtain ⟨d, written⟩ | ⟨written, -, notQuote⟩ := escaped_cases c
      · exact absurd (written ▸ List.mem_cons_self) plain.1
      · simp [written, scan, step, notQuote, ih plain.2]

/-- **A literal leaves a placeholder**, whatever its value. -/
theorem exists_scan_quotedLiteral (value : String) :
    ∃ escapes, scan .between (quotedLiteral value) = (.quote escapes, [none]) := by
  simp only [quotedLiteral]
  split
  · refine ⟨true, ?_⟩
    rw [scan_cons, List.cons_append, scan_cons, scan_append]
    simp [step, start, scan_escaped, scan]
  · next plain =>
      refine ⟨false, ?_⟩
      have plain : '\\' ∉ value.toList.flatMap escaped := by simpa using plain
      rw [List.cons_append, scan_cons, scan_append]
      simp [step, start, scan_of_noEscape plain, scan]

theorem agree_literal (value other : String) :
    Agree Place.isReady (quotedLiteral value) (quotedLiteral other) Place.isSettled := by
  intro a b fromA fromB
  obtain rfl : a = .between := of_decide_eq_true fromA
  obtain rfl : b = .between := of_decide_eq_true fromB
  obtain ⟨escapes, first⟩ := exists_scan_quotedLiteral value
  obtain ⟨escapes', second⟩ := exists_scan_quotedLiteral other
  rw [first, second]
  exact ⟨rfl, rfl, rfl⟩

/-- Literals differ in their contents and in the `E` only. -/
example : shape "a = E'it\\'s' AND b = ''" = shape "a = '' AND b = E'\\\\'" := by decide +kernel

/-! ### Names, numbers and the insides of literals -/

/-- Characters inside a literal of which none is a quote. -/
theorem agree_inside (noQuote : ∀ c ∈ xs, c ≠ '\'') :
    Agree Place.isInside xs xs Place.isInside := by
  have inside : (scan (.literal false) xs).1 = .literal false := by
    induction xs with
    | nil => rfl
    | cons c rest ih =>
        rw [List.forall_mem_cons] at noQuote
        rw [scan_cons]
        simpa [step, noQuote.1] using ih noQuote.2
  exact .self _ (by simp [Place.isInside, inside])

theorem start_doubleQuote : start '"' = (.name, [some '"']) := by decide

/-- A name in double quotes, whatever its characters. -/
theorem agree_quotedName (name : String) :
    Agree Place.isReady (quotedName name).toList (quotedName name).toList Place.isReady := by
  have inside (value : List Char) :
      (scan .name (value.flatMap fun c => if c = '"' then ['"', '"'] else [c])).1 = .name := by
    induction value with
    | nil => rfl
    | cons c rest ih =>
        rw [List.flatMap_cons, scan_append]
        by_cases quote : c = '"'
        · simpa [quote, scan, step, start_doubleQuote] using ih
        · simpa [quote, scan, step] using ih
  refine .self _ ?_
  rw [quotedName, String.toList_ofList, List.cons_append, scan_cons, scan_append]
  simp [step, start_doubleQuote, inside, scan, Place.isReady]

/-- Digits. -/
theorem agree_digits (digits : ∀ c ∈ xs, c.isDigit = true) :
    Agree Place.isReady xs xs Place.isSettled := by
  refine .self _ ?_
  have more : ∀ xs : List Char, (∀ c ∈ xs, c.isDigit = true) → (scan .word xs).1 = .word := by
    intro xs digits
    induction xs with
    | nil => rfl
    | cons c rest ih =>
        rw [List.forall_mem_cons] at digits
        have isWord : isWordChar c = true := by simp [isWordChar, Char.isAlphanum, digits.1]
        rw [scan_cons]
        simpa [step, continueWord, isWord] using ih digits.2
  cases xs with
  | nil => rfl
  | cons c rest =>
      rw [List.forall_mem_cons] at digits
      have isWord : isWordChar c = true := by simp [isWordChar, Char.isAlphanum, digits.1]
      have noQuote : c ≠ '\'' := by rintro rfl; exact absurd digits.1 (by decide)
      have noMark : c ≠ 'E' ∧ c ≠ 'e' := by
        constructor <;> rintro rfl <;> exact absurd digits.1 (by decide)
      rw [scan_cons]
      simp [step, start, noQuote, noMark, isWord, more rest digits.2, Place.isSettled]

end DocQuery.Sql
