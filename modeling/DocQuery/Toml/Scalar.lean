import DocQuery.Document.Instant
import DocQuery.Json.Draft
import DocQuery.Text.Blank

/-!
# Scalars of TOML

Numbers, truth values, dates and strings as they are written in a configuration file.  A scalar is
read as a JSON value; a date becomes an object with its text under a reserved key, and a number that
is not finite becomes null.

## Main definitions

* `Toml.scalar?`: the value of a bare word
* `Toml.readString`: a string in one of its four forms
-/

namespace DocQuery.Toml

/-! ### Numbers -/

/-- Digits that may have single underscores between them, without the underscores. -/
def digitRun? (isDigit : Char → Bool) (cs : List Char) : Option (List Char) :=
  let runs := Text.pieces '_' cs
  if runs.all fun run => !run.isEmpty && run.all isDigit then some runs.flatten else none

/-- The value of digits to a base. -/
def valueOf (base : Nat) (digits : List Char) : Nat :=
  digits.foldl (fun n c => n * base + (Draft.hexValue? c).getD 0) 0

/-- The sign in front of a number, and the rest. -/
def splitSign (cs : List Char) : Bool × List Char :=
  match cs with
  | '-' :: rest => (true, rest)
  | '+' :: rest => (false, rest)
  | cs => (false, cs)

/-- Decimal digits of which the first of several is not zero. -/
def wholeDigits? (cs : List Char) : Option (List Char) :=
  match digitRun? Char.isDigit cs with
  | some ('0' :: _ :: _) => none
  | digits => digits

/-- An integer of 64 bits in decimal, or without a sign to the base sixteen, eight or two. -/
def integer? (cs : List Char) : Option Int :=
  let based (base : Nat) (isDigit : Char → Bool) (digits : List Char) : Option Int :=
    (digitRun? isDigit digits).map fun ds => (valueOf base ds : Int)
  let value : Option Int := match cs with
    | '0' :: 'x' :: rest => based 16 (fun c => (Draft.hexValue? c).isSome) rest
    | '0' :: 'o' :: rest => based 8 (fun c => '0' ≤ c && c ≤ '7') rest
    | '0' :: 'b' :: rest => based 2 (fun c => c = '0' || c = '1') rest
    | cs =>
      let (negative, digits) := splitSign cs
      (wholeDigits? digits).map fun ds =>
        if negative then -(valueOf 10 ds : Int) else (valueOf 10 ds : Int)
  value.filter fun n => -0x8000000000000000 ≤ n ∧ n < 0x8000000000000000

/-- The digits of an exponent, which may be signed. -/
def exponent? (cs : List Char) : Option Int :=
  let (negative, digits) := splitSign cs
  (digitRun? Char.isDigit digits).map fun ds =>
    if negative then -(valueOf 10 ds : Int) else (valueOf 10 ds : Int)

/-- Whether a character marks an exponent. -/
def marksExponent (c : Char) : Bool := c = 'e' || c = 'E'

/-- A number with a fraction, an exponent or both.  An overflow is refused; below zero it is a
number that is not finite. -/
def float? (cs : List Char) : Option Json :=
  let (negative, body) := splitSign cs
  let mantissa := body.takeWhile (!marksExponent ·)
  let rest := body.drop mantissa.length
  let exponent := match rest with
    | [] => some none
    | _ :: ds => (exponent? ds).map some
  let fraction := match Text.splitOnce '.' mantissa with
    | none => some (mantissa, none)
    | some (whole, digits) => (digitRun? Char.isDigit digits).map fun ds => (whole, some ds)
  match fraction, exponent with
  | some (whole, digits?), some exponent? =>
    if digits?.isNone ∧ exponent?.isNone then none
    else
      (wholeDigits? whole).bind fun ds =>
        let digits := digits?.getD []
        let scale := exponent?.getD 0 - digits.length
        match Binary64.ofDecimal negative (valueOf 10 (ds ++ digits)) scale with
        | some x => some (.number (.float x))
        | none => if negative then some .null else none
  | _, _ => none

/-- A number that is not finite. -/
def notFinite? (cs : List Char) : Option Json :=
  match String.ofList (splitSign cs).2 with
  | "inf" | "nan" => some .null
  | _ => none

/-! ### Dates and times -/

/-- The number of two digits. -/
def twoDigits? (cs : List Char) : Option (Nat × List Char) := Instant.number? 2 cs

/-- A date at the head of a text; its text, and the rest. -/
def date? (cs : List Char) : Option (List Char × List Char) := do
  let (year, rest) ← Instant.number? 4 cs
  let (month, rest) ← twoDigits? (← Instant.mark? '-' rest)
  let (day, rest) ← twoDigits? (← Instant.mark? '-' rest)
  if 1 ≤ day ∧ day ≤ Instant.daysInMonth year month then some (cs.take 10, rest) else none

/-- The decimals of a second: nine of them count, and zeros at the end are left out. -/
def decimals? (cs : List Char) : Option (List Char × List Char) :=
  match cs with
  | '.' :: rest =>
    let digits := rest.takeWhile Char.isDigit
    let counted := ((digits.take 9).reverse.dropWhile (· = '0')).reverse
    if digits.isEmpty then none
    else some (if counted.isEmpty then [] else '.' :: counted, rest.drop digits.length)
  | cs => some ([], cs)

/-- A time at the head of a text; its text, and the rest. -/
def time? (cs : List Char) : Option (List Char × List Char) := do
  let (hour, rest) ← twoDigits? cs
  let (minute, rest) ← twoDigits? (← Instant.mark? ':' rest)
  let (second, rest) ← twoDigits? (← Instant.mark? ':' rest)
  let (decimals, rest) ← decimals? rest
  if hour < 24 ∧ minute < 60 ∧ second ≤ 60 then some (cs.take 8 ++ decimals, rest) else none

/-- An offset from the world's common time as a whole text; its text. -/
def offset? (cs : List Char) : Option (List Char) :=
  match cs with
  | [] => some []
  | ['Z'] | ['z'] => some ['Z']
  | sign :: rest => do
    let (hours, minutes) ← twoDigits? rest
    let (minutes, rest) ← twoDigits? (← Instant.mark? ':' minutes)
    if (sign = '+' ∨ sign = '-') ∧ hours < 24 ∧ minutes < 60 ∧ rest.isEmpty then
      if hours = 0 ∧ minutes = 0 then some "+00:00".toList else some cs
    else none

/-- The text of a date, a time or both. -/
def moment? (cs : List Char) : Option (List Char) :=
  match date? cs with
  | some (date, []) => some date
  | some (date, separator :: rest) => do
    let (time, rest) ← time? rest
    let offset ← offset? rest
    if separator = 'T' ∨ separator = 't' ∨ separator = ' ' then
      some (date ++ 'T' :: time ++ offset)
    else none
  | none =>
    match time? cs with
    | some (time, []) => some time
    | _ => none

/-- The key under which the text of a date is found. -/
def momentKey : String := "$__toml_private_datetime"

/-! ### Words -/

/-- The value of a bare word. -/
def scalar? (word : List Char) : Option Json :=
  match String.ofList word with
  | "true" => some (.bool true)
  | "false" => some (.bool false)
  | _ =>
    match integer? word with
    | some n => (Number.ofInt? n).map .number
    | none =>
      match float? word <|> notFinite? word with
      | some v => some v
      | none => (moment? word).map fun text => .object [(momentKey, .string (String.ofList text))]

/-! ### Strings -/

/-- Whether a character may stand in a text or a comment. -/
def isPrintable (c : Char) : Bool := c = '\t' || (0x20 ≤ c.toNat && c.toNat ≠ 0x7F)

/-- The character of an escape, whose backslash has been read. -/
def escape? (cs : List Char) : Option (Char × List Char) :=
  let unicode (count : Nat) (rest : List Char) : Option (Char × List Char) :=
    let digits := rest.take count
    let n := valueOf 16 digits
    if digits.length = count ∧ digits.all (fun c => (Draft.hexValue? c).isSome)
        ∧ (n < 0xD800 ∨ (0xDFFF < n ∧ n ≤ 0x10FFFF)) then
      some (Char.ofNat n, rest.drop count)
    else none
  match cs with
  | 'b' :: rest => some ('\x08', rest)
  | 't' :: rest => some ('\t', rest)
  | 'n' :: rest => some ('\n', rest)
  | 'f' :: rest => some ('\x0c', rest)
  | 'r' :: rest => some ('\r', rest)
  | '"' :: rest => some ('"', rest)
  | '\\' :: rest => some ('\\', rest)
  | 'u' :: rest => unicode 4 rest
  | 'U' :: rest => unicode 8 rest
  | _ => none

/-- The text after a line end at its head. -/
def lineEnd? : List Char → Option (List Char)
  | '\n' :: rest => some rest
  | '\r' :: '\n' :: rest => some rest
  | _ => none

/-- The text after blanks and line ends at its head. -/
def skipBlankLines (cs : List Char) : List Char :=
  match cs with
  | [] => []
  | '\r' :: '\n' :: rest => skipBlankLines rest
  | c :: rest => if c = ' ' || c = '\t' || c = '\n' then skipBlankLines rest else c :: rest

/-- The rest of a string between single delimiters; `escapes` tells whether a backslash is one. -/
def readLine (delimiter : Char) (escapes : Bool) : Nat → List Char → List Char →
    Option (String × List Char)
  | 0, _, _ => none
  | _, [], _ => none
  | fuel + 1, c :: rest, read =>
    if c = delimiter then some (String.ofList read.reverse, rest)
    else if c = '\\' ∧ escapes then
      (escape? rest).bind fun (d, rest) => readLine delimiter escapes fuel rest (d :: read)
    else if isPrintable c then readLine delimiter escapes fuel rest (c :: read)
    else none

/-- The rest of a string between triple delimiters.  Up to two delimiters may stand right before the
closing ones.  A backslash at the end of a line takes all blanks and line ends after it away. -/
def readLines (delimiter : Char) (escapes : Bool) : Nat → List Char → List Char →
    Option (String × List Char)
  | 0, _, _ => none
  | _, [], _ => none
  | fuel + 1, c :: rest, read =>
    let run := (c :: rest).takeWhile (· = delimiter)
    if 3 ≤ run.length then
      let inside := min (run.length - 3) 2
      some (String.ofList (read.reverse ++ List.replicate inside delimiter),
        (c :: rest).drop (inside + 3))
    else if c = '\\' ∧ escapes then
      match lineEnd? (rest.dropWhile fun d => d = ' ' || d = '\t') with
      | some after => readLines delimiter escapes fuel (skipBlankLines after) read
      | none => (escape? rest).bind fun (d, rest) => readLines delimiter escapes fuel rest (d :: read)
    else
      match lineEnd? (c :: rest) with
      | some after => readLines delimiter escapes fuel after ('\n' :: read)
      | none =>
        if isPrintable c then readLines delimiter escapes fuel rest (c :: read) else none

/-- A string at the head of a text, in quotes or apostrophes, single or triple. -/
def readString (cs : List Char) : Option (String × List Char) :=
  let fuel := cs.length + 1
  let triple (delimiter : Char) (escapes : Bool) (rest : List Char) :=
    readLines delimiter escapes fuel ((lineEnd? rest).getD rest) []
  match cs with
  | '"' :: '"' :: '"' :: rest => triple '"' true rest
  | '\'' :: '\'' :: '\'' :: rest => triple '\'' false rest
  | '"' :: rest => readLine '"' true fuel rest []
  | '\'' :: rest => readLine '\'' false fuel rest []
  | _ => none

end DocQuery.Toml
