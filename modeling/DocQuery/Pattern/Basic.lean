import DocQuery.Text.Word

/-!
# Patterns

Regular expressions as trees, and the places of a text where they match.

A pattern is asked only whether it matches somewhere in a text, so greediness and captured groups
have no part in it.  The meaning of a pattern is a map from sets of places to sets of places: where
can a match end that starts at one of the given places?  A place is the number of characters before
it and a set of places is a natural number, bit by bit, so that one shift advances every match.

## Main definitions

* `Pattern`: the tree
* `Pattern.advance`: the places where a match ends
* `Pattern.matchesIn`: whether there is a match
-/

namespace DocQuery

/-- A condition on a place of a text. -/
inductive Pattern.Anchor where
  | textStart
  | textEnd
  /-- Start of a line; with `crlf`, a carriage return ends a line too. -/
  | lineStart (crlf : Bool)
  | lineEnd (crlf : Bool)
  /-- A condition on the characters before and behind the place, each a word character or not. -/
  | word (ascii : Bool) (condition : Bool → Bool → Bool)

/-- A regular expression. -/
inductive Pattern where
  | empty
  | oneOf (chars : Text.Ranges)
  | anchor (condition : Pattern.Anchor)
  | sequence (first second : Pattern)
  | choice (first second : Pattern)
  | repetition (least : Nat) (most : Option Nat) (body : Pattern)

namespace Pattern

/-- A set of places. -/
abbrev Places := Nat

/-- Whether a character is a letter, a digit or the underscore of ASCII. -/
def isAsciiWordChar (c : Char) : Bool := c.isAlphanum || c = '_'

/-- Whether a condition holds between the characters `before` and `behind`. -/
def Anchor.holds (before behind : Option Char) : Anchor → Bool
  | .textStart => before.isNone
  | .textEnd => behind.isNone
  | .lineStart false => before.isNone || before == some '\n'
  | .lineStart true =>
    before.isNone || before == some '\n' || (before == some '\r' && behind != some '\n')
  | .lineEnd false => behind.isNone || behind == some '\n'
  | .lineEnd true =>
    behind.isNone || behind == some '\r' || (behind == some '\n' && before != some '\r')
  | .word ascii condition =>
    let isWord := fun c => if ascii then isAsciiWordChar c else Text.isWordChar c
    condition (before.any isWord) (behind.any isWord)

/-- The places before a character that lies in a set. -/
def placesBefore (chars : Text.Ranges) : List Char → Places
  | [] => 0
  | c :: rest => 2 * placesBefore chars rest + if chars.contains c.toNat then 1 else 0

/-- The places of a text, preceded by the character `before`, at which a condition holds. -/
def placesAt (condition : Anchor) : Option Char → List Char → Places
  | before, [] => if condition.holds before none then 1 else 0
  | before, c :: rest =>
    2 * placesAt condition (some c) rest + if condition.holds before (some c) then 1 else 0

/-- Apply a step a number of times, or until no place is left. -/
def times (step : Places → Places) : Nat → Places → Places
  | 0, places => places
  | n + 1, places => if places = 0 then 0 else times step n (step places)

/-- All places reached by at most the given number of steps; it ends when nothing new is reached. -/
def upTo (step : Places → Places) : Nat → Places → Places
  | 0, places => places
  | n + 1, places =>
    let more := places ||| step places
    if more = places then places else upTo step n more

/-- The places where a match can end that starts at one of the given places. -/
def advance (text : List Char) : Pattern → Places → Places
  | .empty, places => places
  | .oneOf chars, places => (places &&& placesBefore chars text) <<< 1
  | .anchor condition, places => places &&& placesAt condition none text
  | .sequence p q, places => advance text q (advance text p places)
  | .choice p q, places => advance text p places ||| advance text q places
  | .repetition least most p, places =>
    let started := times (advance text p) least places
    match most with
    -- A text of `n` characters has `n + 1` places, so as many steps reach all that can be reached.
    | none => upTo (advance text p) (text.length + 1) started
    | some most => upTo (advance text p) (min (most - least) (text.length + 1)) started

/-- Whether the pattern matches somewhere in a text. -/
def matchesIn (p : Pattern) (text : String) : Bool :=
  let chars := text.toList
  p.advance chars (1 <<< (chars.length + 1) - 1) != 0

end Pattern

end DocQuery
