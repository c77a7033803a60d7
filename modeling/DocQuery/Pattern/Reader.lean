import DocQuery.Pattern.Basic
import DocQuery.Pattern.PropertyValue
import DocQuery.Text.CaseFold

/-!
# The written form of patterns

Reads the text of a pattern.  The syntax has no look-around and no back-references, so that every
pattern can be matched in time linear in the text.  Flags are set for the rest of a group, `(?i)`, or
for a group of their own, `(?i:…)`; in verbose mode blanks and comments are skipped.

A reader returns `none` where the text is no pattern.  Readers that call each other take a bound on
the number of steps, which the length of the text provides.

## Main definitions

* `Pattern.Flags`: the modes of matching
* `Pattern.ofText?`: the pattern of a text
-/

namespace DocQuery.Pattern

open Text (Ranges)

/-- The modes of matching. -/
structure Flags where
  ignoreCase : Bool
  multiLine : Bool
  /-- The point matches line ends too. -/
  dotAll : Bool
  /-- Blanks and comments are skipped. -/
  verbose : Bool
  /-- Classes and case follow the Unicode standard; otherwise ASCII. -/
  unicode : Bool
  /-- A carriage return ends a line too. -/
  crlf : Bool
deriving DecidableEq

namespace Flags

/-- The modes in force at the start of a pattern unless chosen otherwise. -/
def standard : Flags := ⟨false, false, false, false, true, false⟩

/-- Switch one mode, named by its letter.  The letter for lazy repetition changes no match. -/
def set? (f : Flags) (letter : Char) (on : Bool) : Option Flags :=
  match letter with
  | 'i' => some { f with ignoreCase := on }
  | 'm' => some { f with multiLine := on }
  | 's' => some { f with dotAll := on }
  | 'x' => some { f with verbose := on }
  | 'u' => some { f with unicode := on }
  | 'R' => some { f with crlf := on }
  | 'U' => some f
  | _ => none

end Flags

/-- A part of a pattern that has been read. -/
structure Piece where
  pattern : Pattern
  /-- How deeply its parts are nested. -/
  depth : Nat
  /-- Whether a repetition may follow; it may not after a change of flags. -/
  repeatable : Bool

/-- Where a reader stands. -/
structure Cursor where
  rest : List Char
  flags : Flags
  /-- The names of groups so far; each may be used once. -/
  names : List String

/-- Skip blanks and comments; the first argument says whether a comment is open. -/
def skipComments : Bool → List Char → List Char
  | _, [] => []
  | true, c :: rest => skipComments (c != '\n') rest
  | false, c :: rest =>
    if Text.isBlank c then skipComments false rest
    else if c = '#' then skipComments true rest
    else c :: rest

/-- In verbose mode, the text after blanks and comments. -/
def skipFor (f : Flags) (cs : List Char) : List Char :=
  if f.verbose then skipComments false cs else cs

/-- A set of characters closed under case where case is ignored. -/
def foldedFor (f : Flags) (r : Ranges) : Ranges :=
  if !f.ignoreCase then r
  else if f.unicode then Text.caseClosure r
  else
    let upper := r.intersection [(0x41, 0x5A)]
    let lower := r.intersection [(0x61, 0x7A)]
    r.union ((upper.map fun (a, b) => (a + 32, b + 32)) ++ lower.map fun (a, b) => (a - 32, b - 32))

/-- The characters outside a set; without Unicode only bytes are considered. -/
def negatedFor (f : Flags) (negated : Bool) (r : Ranges) : Ranges :=
  if !negated then r
  else if f.unicode then r.complement
  else r.complement.intersection [(0, 0xFF)]

/-- A set as a pattern.  Without Unicode it must not contain bytes that are no characters. -/
def setFor? (f : Flags) (r : Ranges) : Option Pattern :=
  if f.unicode || r.all (fun range => range.2 < 0x80) then some (.oneOf r) else none

/-- A character as a pattern. -/
def literalFor (f : Flags) (c : Char) : Pattern :=
  .oneOf (foldedFor f [(c.toNat, c.toNat)])

/-- What a backslash introduces. -/
inductive Escape where
  /-- A character; `byte` marks a two-digit hexadecimal escape. -/
  | literal (c : Char) (byte : Bool)
  | set (chars : Ranges)
  | anchor (condition : Anchor)

/-- Characters with a meaning of their own, which a backslash takes away. -/
def isMeta (c : Char) : Bool := "\\.+*?()|[]\x7b\x7d^$#&-~".toList.contains c

/-- Characters that stand for themselves after a backslash. -/
def isEscapable (c : Char) : Bool :=
  isMeta c || (c.toNat < 128 && !c.isAlphanum && c != '<' && c != '>')

/-- The digits of a hexadecimal escape of fixed length, blanks between them skipped. -/
def hexDigits? (f : Flags) : Nat → List Char → List Char → Option (List Char × List Char)
  | 0, read, cs => some (read.reverse, cs)
  | n + 1, read, cs =>
    match (if read.isEmpty then cs else skipFor f cs) with
    | c :: rest => if c.isDigit || ('a' ≤ c.toLower && c.toLower ≤ 'f') then hexDigits? f n (c :: read) rest else none
    | [] => none

/-- The digits of a hexadecimal escape up to the closing brace. -/
def hexBraced? (f : Flags) : List Char → List Char → Option (List Char × List Char)
  | _, [] => none
  | read, c :: rest =>
    if c = '\x7d' then some (read.reverse, rest)
    else if c.isDigit || ('a' ≤ c.toLower && c.toLower ≤ 'f') then hexBraced? f (c :: read) rest
    else if f.verbose && Text.isBlank c then hexBraced? f read rest
    else none

/-- The character with a hexadecimal code point. -/
def charOfHex? (digits : List Char) : Option Char :=
  let n := Text.hexNumeral (digits.map Char.toLower)
  if digits.isEmpty || 0x10FFFF < n || (0xD800 ≤ n && n < 0xE000) then none else some (Char.ofNat n)

/-- The name of a special word boundary, up to its closing brace. -/
def boundaryName? (f : Flags) : List Char → List Char → Option (String × List Char)
  | _, [] => none
  | read, c :: rest =>
    if c = '\x7d' then some (String.ofList read.reverse, rest)
    else if c.isAlpha || c = '-' then boundaryName? f (c :: read) rest
    else if f.verbose && Text.isBlank c then boundaryName? f read rest
    else none

/-- The word boundary of a name. -/
def boundary? (name : String) : Option (Bool → Bool → Bool) :=
  match name with
  | "start" => some fun before behind => !before && behind
  | "end" => some fun before behind => before && !behind
  | "start-half" => some fun before _ => !before
  | "end-half" => some fun _ behind => !behind
  | _ => none

/-- Split a property text at the first `!=`, `:` or `=`; the flag tells the first of these. -/
def propertyParts (name : List Char) : Option (String × String × Bool) :=
  let rec unequal : List Char → List Char → Option (String × String)
    | _, [] => none
    | before, '!' :: '=' :: rest => some (String.ofList before.reverse, String.ofList rest)
    | before, c :: rest => unequal (c :: before) rest
  match unequal [] name with
  | some (n, v) => some (n, v, true)
  | none =>
    match Text.splitOnce ':' name with
    | some (n, v) => some (String.ofList n, String.ofList v, false)
    | none =>
      (Text.splitOnce '=' name).map fun (n, v) => (String.ofList n, String.ofList v, false)

/-- The set of a property and whether the text itself negates it. -/
def property? (name : List Char) : Option (Ranges × Bool) :=
  match propertyParts name with
  | some (n, v, negated) => (valued? n v).map (·, negated)
  | none => (named? (String.ofList name)).map (·, false)

/-- The characters up to a closing brace, blanks skipped in verbose mode. -/
def braced? (f : Flags) : List Char → List Char → Option (List Char × List Char)
  | _, [] => none
  | read, c :: rest =>
    if c = '\x7d' then some (read.reverse, rest)
    else if f.verbose && Text.isBlank c then braced? f read rest
    else braced? f (c :: read) rest

/-- A property after its letter. -/
def readProperty? (f : Flags) (negated : Bool) (cs : List Char) : Option (Escape × List Char) := do
  let (name, rest) ← match skipFor f cs with
    | [] => none
    | c :: rest =>
      if c = '\x7b' then braced? f [] rest
      else if c = '\\' then none
      else some ([c], rest)
  if !f.unicode then none
  let (chars, flipped) ← property? name
  some (.set (negatedFor f (negated != flipped) (foldedFor f chars)), rest)

/-- The classes of digits, blanks and word characters, negated by a capital letter. -/
def shorthand (f : Flags) (letter : Char) : Ranges :=
  let chars := match letter.toLower with
    | 'd' => if f.unicode then Text.digitRanges else [(0x30, 0x39)]
    | 's' => if f.unicode then Text.blankRanges else [(0x09, 0x0D), (0x20, 0x20)]
    | _ => if f.unicode then Text.wordRanges else [(0x30, 0x39), (0x41, 0x5A), (0x5F, 0x5F), (0x61, 0x7A)]
  negatedFor f letter.isUpper chars

/-- A hexadecimal escape after its letter. -/
def readHex? (f : Flags) (letter : Char) (cs : List Char) : Option (Escape × List Char) := do
  match skipFor f cs with
  | [] => none
  | c :: rest =>
    if c = '\x7b' then
      let (digits, rest) ← hexBraced? f [] rest
      let c ← charOfHex? digits
      some (.literal c false, rest)
    else
      let count := if letter = 'x' then 2 else if letter = 'u' then 4 else 8
      let (digits, rest) ← hexDigits? f count [] (c :: rest)
      let c ← charOfHex? digits
      some (.literal c (letter = 'x'), rest)

/-- What follows a backslash. -/
def readEscape? (f : Flags) (cs : List Char) : Option (Escape × List Char) :=
  match cs with
  | [] => none
  | c :: rest =>
    let ascii := !f.unicode
    if c.isDigit then none
    else if c = 'x' || c = 'u' || c = 'U' then readHex? f c rest
    else if c = 'p' || c = 'P' then readProperty? f (c = 'P') rest
    else if "dswDSW".toList.contains c then some (.set (shorthand f c), rest)
    else if isEscapable c then some (.literal c false, rest)
    else
      match c with
      | 'a' => some (.literal '\x07' false, rest)
      | 'f' => some (.literal '\x0c' false, rest)
      | 't' => some (.literal '\t' false, rest)
      | 'n' => some (.literal '\n' false, rest)
      | 'r' => some (.literal '\r' false, rest)
      | 'v' => some (.literal '\x0b' false, rest)
      | 'A' => some (.anchor .textStart, rest)
      | 'z' => some (.anchor .textEnd, rest)
      | 'B' => some (.anchor (.word ascii fun before behind => before == behind), rest)
      | '<' => some (.anchor (.word ascii fun before behind => !before && behind), rest)
      | '>' => some (.anchor (.word ascii fun before behind => before && !behind), rest)
      | 'b' =>
        let plain := some (.anchor (.word ascii fun before behind => before != behind), rest)
        match rest with
        | '\x7b' :: inner =>
          -- A brace that does not start a name belongs to a repetition.
          match skipFor f inner with
          | [] => none
          | d :: _ =>
            if d.isAlpha || d = '-' then do
              let (name, rest) ← boundaryName? f [] (skipFor f inner)
              let condition ← boundary? name
              some (.anchor (.word ascii condition), rest)
            else plain
        | _ => plain
      | _ => none

/-- An element of a bracketed class: a single character that may bound a range, or a set. -/
def readClassElement? (f : Flags) (cs : List Char) : Option ((Nat ⊕ Ranges) × List Char) :=
  match cs with
  | [] => none
  | '\\' :: rest =>
    match readEscape? f rest with
    | some (.literal c byte, rest) =>
      if !f.unicode && c.toNat ≥ 0x80 && !byte then none else some (.inl c.toNat, rest)
    | some (.set chars, rest) => some (.inr chars, rest)
    | _ => none
  | c :: rest => if !f.unicode && c.toNat ≥ 0x80 then none else some (.inl c.toNat, rest)

/-- An element of a bracketed class or a range of characters. -/
def readClassRange? (f : Flags) (cs : List Char) : Option (Ranges × List Char) := do
  let (first, rest) ← readClassElement? f cs
  let single : Ranges := match first with
    | .inl n => [(n, n)]
    | .inr chars => chars
  match skipFor f rest with
  | [] => none
  | '-' :: after =>
    match skipFor f after with
    | ']' :: _ => some (single, '-' :: after)
    | '-' :: _ => some (single, '-' :: after)
    | [] => none
    | after =>
      let (last, rest) ← readClassElement? f after
      match first, last with
      | .inl a, .inl b => if a ≤ b then some ([(a, b)], rest) else none
      | _, _ => none
  | rest => some (single, rest)

/-- A class such as `[:alpha:]` inside brackets, after its first bracket. -/
def readAsciiClass? (f : Flags) (cs : List Char) : Option (Ranges × List Char) :=
  match cs with
  | ':' :: rest =>
    let (negated, rest) := match rest with
      | '^' :: rest => (true, rest)
      | rest => (false, rest)
    match Text.splitOnce ':' rest with
    | some (name, ']' :: rest) =>
      (asciiClass? (String.ofList name)).map fun chars =>
        (negatedFor f negated (foldedFor f chars), rest)
    | _ => none
  | _ => none

/-- An operation on sets inside brackets. -/
inductive ClassOperation where
  | intersection
  | difference
  | symmetricDifference

/-- Combine the set read so far with the one before a pending operation. -/
def combined (f : Flags) (pending : Option (ClassOperation × Ranges)) (r : Ranges) : Ranges :=
  match pending with
  | none => r
  | some (.intersection, l) => (foldedFor f l).intersection (foldedFor f r)
  | some (.difference, l) => (foldedFor f l).difference (foldedFor f r)
  | some (.symmetricDifference, l) => (foldedFor f l).symmetricDifference (foldedFor f r)

/-- Hyphens at the start of a class stand for themselves. -/
def leadingHyphens (f : Flags) : Nat → List Char → Bool × List Char
  | 0, cs => (false, cs)
  | fuel + 1, cs =>
    match cs with
    | '-' :: rest => (true, (leadingHyphens f fuel (skipFor f rest)).2)
    | cs => (false, cs)

mutual

/-- A bracketed class after its opening bracket; also how deeply it is nested. -/
def readClass? : Nat → Flags → List Char → Option (Ranges × Nat × List Char)
  | 0, _, _ => none
  | fuel + 1, f, cs => do
    let cs := skipFor f cs
    let (negated, cs) := match cs with
      | '^' :: rest => (true, skipFor f rest)
      | cs => (false, cs)
    let (hyphens, cs) := leadingHyphens f cs.length cs
    let start : Ranges := if hyphens then [(0x2D, 0x2D)] else []
    let (start, cs) := match hyphens, cs with
      | false, ']' :: rest => ([(0x5D, 0x5D)], skipFor f rest)
      | _, cs => (start, cs)
    if cs.isEmpty then none
    let (chars, depth, rest) ← readClassItems? fuel f none start 0 cs
    some (negatedFor f negated (foldedFor f chars), depth + 2, rest)

/-- The items of a bracketed class up to its closing bracket. -/
def readClassItems? : Nat → Flags → Option (ClassOperation × Ranges) → Ranges → Nat → List Char →
    Option (Ranges × Nat × List Char)
  | 0, _, _, _, _, _ => none
  | fuel + 1, f, pending, chars, depth, cs =>
    match skipFor f cs with
    | [] => none
    | '[' :: rest =>
      match readAsciiClass? f rest with
      | some (more, rest) => readClassItems? fuel f pending (chars.union more) depth rest
      | none =>
        match readClass? fuel f rest with
        | some (more, inner, rest) =>
          readClassItems? fuel f pending (chars.union more) (max depth inner) rest
        | none => none
    | ']' :: rest => some (combined f pending chars, depth, rest)
    | '&' :: '&' :: rest =>
      readClassItems? fuel f (some (.intersection, combined f pending chars)) [] (depth + 1) rest
    | '-' :: '-' :: rest =>
      readClassItems? fuel f (some (.difference, combined f pending chars)) [] (depth + 1) rest
    | '~' :: '~' :: rest =>
      readClassItems? fuel f (some (.symmetricDifference, combined f pending chars)) [] (depth + 1) rest
    | cs =>
      match readClassRange? f cs with
      | some (more, rest) => readClassItems? fuel f pending (chars.union more) depth rest
      | none => none

end

/-- A number inside the braces of a repetition, with blanks around it; it fits 32 bits. -/
def readCount? (f : Flags) (cs : List Char) : Option (Nat × List Char) :=
  let cs := cs.dropWhile Text.isBlank
  let rec digits (read : Nat) (some? : Bool) : List Char → Option (Nat × List Char)
    | [] => if some? then some (read, []) else none
    | c :: rest =>
      if c.isDigit then digits (read * 10 + (c.toNat - 48)) true rest
      else if f.verbose && some? && Text.isBlank c then digits read some? rest
      else if some? then some (read, (c :: rest).dropWhile Text.isBlank) else none
  (digits 0 false cs).bind fun (n, rest) => if n < 0x100000000 then some (n, rest) else none

/-- The bounds of a counted repetition after its opening brace. -/
def readBounds? (f : Flags) (cs : List Char) : Option (Nat × Option Nat × List Char) := do
  let (least, rest) ← readCount? f (skipFor f cs)
  let (least, most, rest) ← match skipFor f rest with
    | ',' :: rest =>
      match skipFor f rest with
      | '\x7d' :: _ => some (least, none, skipFor f rest)
      | rest => (readCount? f rest).map fun (most, rest) => (least, some most, skipFor f rest)
    | rest => some (least, some least, rest)
  match rest with
  | '\x7d' :: rest => if most.all (least ≤ ·) then some (least, most, rest) else none
  | _ => none

/-- The letters of a flag group up to its colon or parenthesis, which is returned too. -/
def readFlags? (f : Flags) (on : Bool) (dangling : Bool) (seen : List Char) :
    List Char → Option (Flags × Bool × Char × List Char)
  | [] => none
  | c :: rest =>
    if c = ':' || c = ')' then
      if dangling then none else some (f, !seen.isEmpty, c, rest)
    else if seen.contains c then none
    else if c = '-' then readFlags? f false true (c :: seen) rest
    else
      match f.set? c on with
      | some f => readFlags? f on false (c :: seen) rest
      | none => none

/-- Whether a character may stand in the name of a group. -/
def isNameChar (first : Bool) (c : Char) : Bool :=
  c = '_' ||
    if first then Text.isAlphanumeric c && !(["Nd", "No"].contains (Text.categoryOf c.toNat))
    else c = '.' || c = '[' || c = ']' || Text.isAlphanumeric c

/-- The name of a group up to its closing angle. -/
def readName? (cs : List Char) : Option (String × List Char) :=
  (Text.splitOnce '>' cs).bind fun (name, rest) =>
    match name with
    | [] => none
    | c :: more =>
      if isNameChar true c && more.all (isNameChar false) then some (String.ofList name, rest)
      else none

/-- Pieces one after the other. -/
def sequenced (pieces : List Piece) : Piece :=
  match pieces with
  | [] => ⟨.empty, 0, true⟩
  | [piece] => piece
  | pieces =>
    ⟨pieces.foldr (fun piece p => .sequence piece.pattern p) .empty,
      (pieces.foldl (fun d piece => max d piece.depth) 0) + 1, true⟩

/-- Alternatives. -/
def alternatives (pieces : List Piece) : Piece :=
  match pieces with
  | [] => ⟨.empty, 0, true⟩
  | [piece] => piece
  | piece :: more =>
    ⟨more.foldl (fun p next => .choice p next.pattern) piece.pattern,
      (pieces.foldl (fun d next => max d next.depth) 0) + 1, true⟩

/-- The repetition of the last piece, if there is one that may be repeated. -/
def repeated? (least : Nat) (most : Option Nat) (reading : List Piece) : Option (List Piece) :=
  match reading with
  | [] => none
  | piece :: before =>
    if piece.repeatable then
      some (⟨.repetition least most piece.pattern, piece.depth + 1, true⟩ :: before)
    else none

/-- The text after the question mark that makes a repetition lazy. -/
def skipLazy (cs : List Char) : List Char :=
  match cs with
  | '?' :: rest => rest
  | cs => cs

mutual

/-- Alternatives up to a closing parenthesis or the end.  `done` holds the alternatives read before,
and `reading` the pieces of the current one, both latest first. -/
def readBranches? : Nat → List Piece → List Piece → Cursor → Option (Piece × Cursor)
  | 0, _, _, _ => none
  | fuel + 1, done, reading, cursor =>
    let f := cursor.flags
    let continueWith (piece : Piece) (rest : List Char) :=
      readBranches? fuel done (piece :: reading) { cursor with rest }
    let repeatWith (least : Nat) (most : Option Nat) (rest : List Char) :=
      match repeated? least most reading with
      | some reading => readBranches? fuel done reading { cursor with rest }
      | none => none
    match skipFor f cursor.rest with
    | [] =>
      some (alternatives ((sequenced reading.reverse :: done).reverse), { cursor with rest := [] })
    | ')' :: rest =>
      some (alternatives ((sequenced reading.reverse :: done).reverse),
        { cursor with rest := ')' :: rest })
    | '|' :: rest =>
      readBranches? fuel (sequenced reading.reverse :: done) [] { cursor with rest }
    | '(' :: rest =>
      match readGroup? fuel { cursor with rest := skipFor f rest } with
      | some (piece, cursor) => readBranches? fuel done (piece :: reading) cursor
      | none => none
    | '[' :: rest =>
      match readClass? (2 * rest.length + 2) f rest with
      | some (chars, depth, rest) =>
        match setFor? f chars with
        | some pattern => continueWith ⟨pattern, depth, true⟩ rest
        | none => none
      | none => none
    | '?' :: rest => repeatWith 0 (some 1) (skipLazy rest)
    | '*' :: rest => repeatWith 0 none (skipLazy rest)
    | '+' :: rest => repeatWith 1 none (skipLazy rest)
    | '\x7b' :: rest =>
      match readBounds? f rest with
      | some (least, most, rest) => repeatWith least most (skipLazy (skipFor f rest))
      | none => none
    | '\\' :: rest =>
      match readEscape? f rest with
      | some (.literal c byte, rest) =>
        if !f.unicode && byte && c.toNat ≥ 0x80 then none
        else continueWith ⟨literalFor f c, 0, true⟩ rest
      | some (.set chars, rest) =>
        match setFor? f chars with
        | some pattern => continueWith ⟨pattern, 0, true⟩ rest
        | none => none
      | some (.anchor condition, rest) => continueWith ⟨.anchor condition, 0, true⟩ rest
      | none => none
    | '.' :: rest =>
      if !f.unicode then none
      else
        let lineEnds : Ranges :=
          if f.dotAll then [] else if f.crlf then [(0x0A, 0x0A), (0x0D, 0x0D)] else [(0x0A, 0x0A)]
        continueWith ⟨.oneOf lineEnds.complement, 0, true⟩ rest
    | '^' :: rest =>
      continueWith ⟨.anchor (if f.multiLine then .lineStart f.crlf else .textStart), 0, true⟩ rest
    | '$' :: rest =>
      continueWith ⟨.anchor (if f.multiLine then .lineEnd f.crlf else .textEnd), 0, true⟩ rest
    | c :: rest => continueWith ⟨literalFor f c, 0, true⟩ rest

/-- A group or a change of flags after its opening parenthesis. -/
def readGroup? : Nat → Cursor → Option (Piece × Cursor)
  | 0, _ => none
  | fuel + 1, cursor =>
    let body (inner : Cursor) : Option (Piece × Cursor) :=
      match readBranches? fuel [] [] inner with
      | some (piece, after) =>
        match after.rest with
        | ')' :: rest =>
          some (⟨piece.pattern, piece.depth + 1, true⟩,
            { rest, flags := cursor.flags, names := after.names })
        | _ => none
      | none => none
    let namedBody (cs : List Char) : Option (Piece × Cursor) :=
      match readName? cs with
      | some (name, rest) =>
        if cursor.names.contains name then none
        else body { cursor with rest, names := name :: cursor.names }
      | none => none
    match cursor.rest with
    | '?' :: '=' :: _ => none
    | '?' :: '!' :: _ => none
    | '?' :: '<' :: '=' :: _ => none
    | '?' :: '<' :: '!' :: _ => none
    | '?' :: 'P' :: '<' :: rest => namedBody rest
    | '?' :: '<' :: rest => namedBody rest
    | '?' :: rest =>
      match readFlags? cursor.flags true false [] rest with
      | some (flags, changed, ')', rest) =>
        if changed then some (⟨.empty, 0, false⟩, { cursor with rest, flags }) else none
      | some (flags, _, _, rest) => body { cursor with rest, flags }
      | none => none
    | rest => body { cursor with rest }

end

/-- The number of levels to which the parts of a pattern may be nested. -/
def depthLimit : Nat := 250

/-- The pattern of a text under the given modes. -/
def ofText? (flags : Flags) (text : String) : Option Pattern :=
  let cs := text.toList
  match readBranches? (2 * cs.length + 2) [] [] ⟨cs, flags, []⟩ with
  | some (piece, cursor) =>
    if cursor.rest.isEmpty && piece.depth ≤ depthLimit then some piece.pattern else none
  | none => none

end DocQuery.Pattern
