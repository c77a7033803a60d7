import DocQuery.Pattern.Size

/-!
# Engines of regular expressions

Filters take their patterns from an engine of regular expressions.  What they need of it is one
function: the pattern that a text denotes under given modes, or the remark that the report of a
refusal ends in.  Which texts an engine takes and what it says of the others is its own affair, and
what is proved of filters holds with any engine.  The one at hand reads a text by
`Pattern.compile?`.

## Main definitions

* `PatternReader`: an engine, as far as filters use it
* `Pattern.builtInReader`: the reader of `Pattern.compile?` as an engine
-/

namespace DocQuery

/-- An engine of regular expressions. -/
class PatternReader where
  /-- The pattern of a text under the given modes.  A refusal carries the remark that is put behind
  the message, its separator included: `": "` and the description of the fault, for an engine that
  describes it. -/
  read : Pattern.Flags → String → Except String Pattern

/-- The built-in engine, which refuses without a remark.  Another engine in scope goes before it. -/
instance (priority := low) Pattern.builtInReader : PatternReader where
  read flags text :=
    match Pattern.compile? flags text with
    | some p => .ok p
    | none => .error ""

end DocQuery
