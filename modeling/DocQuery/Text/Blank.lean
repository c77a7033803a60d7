import DocQuery.Text.Ranges

/-!
# Blank characters

The characters with the Unicode property of white space, trimming them off both ends of a text and
cutting a text into the words between them.
-/

namespace DocQuery.Text

/-- The white space of the Unicode standard. -/
def blankRanges : Ranges :=
  [(0x09, 0x0D), (0x20, 0x20), (0x85, 0x85), (0xA0, 0xA0), (0x1680, 0x1680), (0x2000, 0x200A),
   (0x2028, 0x2029), (0x202F, 0x202F), (0x205F, 0x205F), (0x3000, 0x3000)]

/-- Whether a character is white space. -/
def isBlank (c : Char) : Bool := blankRanges.contains c.toNat

/-- A text without the blanks at its start. -/
def trimStart (cs : List Char) : List Char := cs.dropWhile isBlank

/-- A text without the blanks at its end. -/
def trimEnd (cs : List Char) : List Char := (cs.reverse.dropWhile isBlank).reverse

/-- A text without the blanks at its ends. -/
def trimChars (cs : List Char) : List Char := trimEnd (trimStart cs)

/-- A text without the blanks at its ends. -/
def trim (s : String) : String := String.ofList (trimChars s.toList)

/-- The maximal runs of characters that satisfy a test, in order. -/
def runs (p : Char → Bool) : List Char → List (List Char)
  | [] => []
  | c :: rest =>
    if p c then
      match rest, runs p rest with
      | d :: _, run :: more => if p d then (c :: run) :: more else [c] :: run :: more
      | _, more => [c] :: more
    else runs p rest

/-- The words between blanks. -/
def blankWords (cs : List Char) : List (List Char) := runs (fun c => !isBlank c) cs

/-- Whether a text has nothing but blanks. -/
def isBlankText (s : String) : Bool := s.toList.all isBlank

/-- The parts of a text between occurrences of a character; there is always at least one. -/
def splitOnChar (separator : Char) (s : String) : List String :=
  (pieces separator s.toList).map String.ofList

/-- The text before the first occurrence of a character and the text after it. -/
def splitOnce (separator : Char) : List Char → Option (List Char × List Char)
  | [] => none
  | c :: rest =>
    if c = separator then some ([], rest)
    else (splitOnce separator rest).map fun (before, after) => (c :: before, after)

/-- The text before the last occurrence of a character and the text after it. -/
def splitLast (separator : Char) : List Char → Option (List Char × List Char)
  | [] => none
  | c :: rest =>
    match splitLast separator rest with
    | some (before, after) => some (c :: before, after)
    | none => if c = separator then some ([], rest) else none

/-- Texts joined with a separator between them. -/
def join (separator : String) (parts : List String) : String :=
  separator.intercalate parts

/-- Whether a text starts with a character. -/
def startsWith (c : Char) (s : String) : Bool := s.toList.head? == some c

/-- A text without the first character, when it is the given one. -/
def stripStart? (c : Char) (s : String) : Option String :=
  match s.toList with
  | d :: rest => if d = c then some (String.ofList rest) else none
  | [] => none

/-- Lower case of the ASCII letters only. -/
def asciiLower (s : String) : String := String.ofList (s.toList.map Char.toLower)

end DocQuery.Text
