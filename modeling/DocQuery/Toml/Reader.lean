import DocQuery.Toml.Scalar
import DocQuery.Toml.Table

/-!
# Reading TOML

A file is a sequence of lines: keys with their values, and headers that begin a table.  Arrays may
run over several lines, inline tables may not.

## Main definitions

* `Toml.readValue`: a value at the head of a text
* `Toml.read?`: the value of a whole file
-/

namespace DocQuery.Toml

/-- The text after blanks at its head. -/
def skipBlanks (cs : List Char) : List Char := cs.dropWhile fun c => c = ' ' || c = '\t'

/-- The text after a comment at its head, up to the end of the line. -/
def skipComment (cs : List Char) : List Char :=
  match cs with
  | '#' :: rest => rest.dropWhile isPrintable
  | cs => cs

/-- The text after blanks, comments and line ends at its head; `fuel` bounds the number of lines. -/
def skipLines : Nat → List Char → List Char
  | 0, cs => cs
  | fuel + 1, cs =>
    let rest := skipComment (skipBlanks cs)
    match lineEnd? rest with
    | some rest => skipLines fuel rest
    | none => rest

/-- The text after the end of a line, before which blanks and a comment may stand. -/
def endLine? (cs : List Char) : Option (List Char) :=
  match skipComment (skipBlanks cs) with
  | [] => some []
  | rest => lineEnd? rest

/-- Whether a character may stand in a bare key. -/
def isKeyChar (c : Char) : Bool := c.isAlphanum || c = '_' || c = '-'

/-- One segment of a key. -/
def readSegment (cs : List Char) : Option (String × List Char) :=
  match cs with
  | '"' :: _ => if cs.take 3 = ['"', '"', '"'] then none else readString cs
  | '\'' :: _ => if cs.take 3 = ['\'', '\'', '\''] then none else readString cs
  | _ =>
    let segment := cs.takeWhile isKeyChar
    if segment.isEmpty then none else some (String.ofList segment, cs.drop segment.length)

/-- A key: segments with points between them.  The last segment stands apart. -/
def readKey : Nat → List Char → Option (List String × String × List Char)
  | 0, _ => none
  | fuel + 1, cs => do
    let (segment, rest) ← readSegment (skipBlanks cs)
    match skipBlanks rest with
    | '.' :: rest => do
      let (path, key, rest) ← readKey fuel rest
      some (segment :: path, key, rest)
    | rest => some ([], segment, rest)

/-- Whether a character ends a bare word. -/
def endsWord (c : Char) : Bool :=
  c = ' ' || c = '\t' || c = '\r' || c = '\n' || c = '#' || c = ',' || c = ']' || c = '}'

/-- A bare word at the head of a text.  Between a date and a time there may be a blank. -/
def readWord (cs : List Char) : List Char × List Char :=
  let word := cs.takeWhile (!endsWord ·)
  let rest := cs.drop word.length
  match date? word, rest with
  | some (_, []), ' ' :: d :: more =>
    if d.isDigit then
      let time := (d :: more).takeWhile (!endsWord ·)
      (word ++ ' ' :: time, (d :: more).drop time.length)
    else (word, rest)
  | _, _ => (word, rest)

mutual

/-- A value at the head of a text; `fuel` bounds the number of steps. -/
def readValue : Nat → List Char → Option (Json × List Char)
  | 0, _ => none
  | fuel + 1, cs =>
    match cs with
    | '[' :: rest =>
      match skipLines rest.length rest with
      | ']' :: rest => some (.array [], rest)
      | rest => readElements fuel rest []
    | '{' :: rest =>
      match skipBlanks rest with
      | '}' :: rest => some (.object [], rest)
      | rest => readPairs fuel rest []
    | c :: _ =>
      if c = '"' ∨ c = '\'' then (readString cs).map fun (s, rest) => (.string s, rest)
      else
        let (word, rest) := readWord cs
        (scalar? word).map fun v => (v, rest)
    | [] => none

/-- The elements of an array up to its closing bracket; a comma may follow the last one. -/
def readElements : Nat → List Char → List Json → Option (Json × List Char)
  | 0, _, _ => none
  | fuel + 1, cs, done => do
    let (v, rest) ← readValue fuel cs
    match skipLines rest.length rest with
    | ']' :: rest => some (.array (v :: done).reverse, rest)
    | ',' :: rest =>
      match skipLines rest.length rest with
      | ']' :: rest => some (.array (v :: done).reverse, rest)
      | rest => readElements fuel rest (v :: done)
    | _ => none

/-- The pairs of an inline table up to its closing brace. -/
def readPairs : Nat → List Char → Members → Option (Json × List Char)
  | 0, _, _ => none
  | fuel + 1, cs, done => do
    let (path, key, rest) ← readKey (cs.length + 1) cs
    match skipBlanks rest with
    | '=' :: rest => do
      let (v, rest) ← readValue fuel (skipBlanks rest)
      let members ← defineKey path key v done
      match skipBlanks rest with
      | '}' :: rest => some (.object (membersToJson members), rest)
      | ',' :: rest => readPairs fuel rest members
      | _ => none
    | _ => none

end

/-- The file so far: its tables and where the open one is. -/
structure Progress where
  root : Members
  /-- The path of the open table. -/
  current : List String

/-- A header whose opening brackets have been read: begin a table, or a further one of a list. -/
def readHeader (isElement : Bool) (p : Progress) (cs : List Char) :
    Option (Progress × List Char) := do
  let (path, key, rest) ← readKey (cs.length + 1) cs
  let (root, rest) ← match isElement, rest with
    | true, ']' :: ']' :: rest => (openElement path key p.root).map fun root => (root, rest)
    | false, ']' :: rest => (openTable path key p.root).map fun root => (root, rest)
    | _, _ => none
  some (⟨root, path ++ [key]⟩, rest)

/-- A key and its value. -/
def readPair (p : Progress) (cs : List Char) : Option (Progress × List Char) := do
  let (path, key, rest) ← readKey (cs.length + 1) cs
  match rest with
  | '=' :: rest => do
    let (v, rest) ← readValue (2 * rest.length + 2) (skipBlanks rest)
    let root ← descend false (fun _ members => defineKey path key v members) p.current .declared p.root
    some (⟨root, p.current⟩, rest)
  | _ => none

/-- Read the lines of a file; `fuel` bounds their number. -/
def readLines? : Nat → Progress → List Char → Option Members
  | 0, _, _ => none
  | fuel + 1, p, cs =>
    match skipLines (cs.length + 1) cs with
    | [] => some p.root
    | '[' :: '[' :: rest => do
      let (p, rest) ← readHeader true p rest
      readLines? fuel p (← endLine? rest)
    | '[' :: rest => do
      let (p, rest) ← readHeader false p rest
      readLines? fuel p (← endLine? rest)
    | rest => do
      let (p, rest) ← readPair p rest
      readLines? fuel p (← endLine? rest)

/-- The value of a file.  A mark of the byte order at its start does not count. -/
def read? (text : String) : Option Document :=
  let cs := match text.toList with
    | '\uFEFF' :: rest => rest
    | cs => cs
  (readLines? (cs.length + 1) ⟨[], []⟩ cs).map membersToJson

end DocQuery.Toml
