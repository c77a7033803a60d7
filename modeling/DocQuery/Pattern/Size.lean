import DocQuery.Pattern.Reader

/-!
# The size of patterns

A pattern is refused when the automaton that matches it would grow too large, as nested counted
repetitions make it do.  The size is an estimate in bytes: a state for every character and branch,
more for sets beyond ASCII, and a copy of the body for every counted repetition.

## Main definitions

* `Pattern.size`
* `Pattern.compile?`: the pattern of a text, if it is one and not too large
-/

namespace DocQuery.Pattern

/-- The bytes of one state. -/
def stateSize : Nat := 32

/-- The bytes for a range of code points, by the lengths of their encodings. -/
def rangeSize (first last : Nat) : Nat :=
  if last < 0x80 then 8
  else
    let spans := [(0x80, 0x7FF, 56), (0x800, 0xFFFF, 56), (0x10000, 0x10FFFF, 72)]
    spans.foldl (fun total (low, high, size) =>
      if first ≤ high ∧ low ≤ last then total + size else total) 0

/-- The bytes for a set of characters. -/
def setSize (chars : Text.Ranges) : Nat :=
  chars.foldl (fun total range => total + rangeSize range.1 range.2) stateSize

/-- The estimated size of the automaton of a pattern. -/
def size : Pattern → Nat
  | .empty => stateSize
  | .oneOf [(a, b)] => if a = b && a < 0x80 then stateSize else setSize [(a, b)]
  | .oneOf chars => setSize chars
  | .anchor _ => stateSize
  | .sequence p q => p.size + q.size
  | .choice p q => p.size + q.size + stateSize
  | .repetition least none p => max least 1 * p.size + stateSize
  | .repetition least (some most) p => most * p.size + (most - least) * stateSize

/-- The size from which on a pattern is refused. -/
def sizeLimit : Nat := 0xA00000

/-- The pattern of a text under the given modes, unless it is too large. -/
def compile? (flags : Flags) (text : String) : Option Pattern :=
  (ofText? flags text).filter fun p => p.size ≤ sizeLimit

end DocQuery.Pattern
