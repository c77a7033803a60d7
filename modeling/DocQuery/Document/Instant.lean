import DocQuery.Number.Numeral

/-!
# Timestamps

Texts in the internet date and time format, such as `2024-02-29T12:00:00.5+01:00`, and the order of
the instants they denote.

The date and the time are separated by `T`, `t` or a space, the offset is `Z`, `z` or a sign with
hours and minutes, and a second may have any number of decimals, of which nine count.  A second 60
stands for the leap second after second 59.
-/

namespace DocQuery

/-- A point in time: seconds since the start of year zero in the world's common time, and the
nanoseconds after it, which exceed a second inside a leap second. -/
structure Instant where
  seconds : Int
  nanoseconds : Nat
deriving DecidableEq

namespace Instant

/-- The order in time. -/
def order (a b : Instant) : Ordering :=
  (compare a.seconds b.seconds).then (compare a.nanoseconds b.nanoseconds)

/-- Exactly `count` decimal digits at the head of a text. -/
def number? (count : Nat) (cs : List Char) : Option (Nat × List Char) :=
  if cs.length < count then none
  else (Numeral.digits? (cs.take count)).map fun n => (n, cs.drop count)

/-- The text after an expected character. -/
def mark? (c : Char) : List Char → Option (List Char)
  | d :: rest => if d = c then some rest else none
  | [] => none

/-- Whether a year of the Gregorian calendar has a leap day. -/
def isLeapYear (y : Nat) : Bool := y % 4 = 0 && (y % 100 ≠ 0 || y % 400 = 0)

/-- The number of days of a month. -/
def daysInMonth (y m : Nat) : Nat :=
  match m with
  | 1 | 3 | 5 | 7 | 8 | 10 | 12 => 31
  | 4 | 6 | 9 | 11 => 30
  | 2 => if isLeapYear y then 29 else 28
  | _ => 0

/-- The number of days from the start of year zero to the start of a year. -/
def daysBeforeYear (y : Nat) : Nat :=
  365 * y + (y + 3) / 4 - (y + 99) / 100 + (y + 399) / 400

/-- The number of days from the start of year zero to a date. -/
def dayNumber (y m d : Nat) : Nat :=
  (List.range (m - 1)).foldl (fun days i => days + daysInMonth y (i + 1)) (daysBeforeYear y) + (d - 1)

/-- The nanoseconds of the decimals after the point: at least one digit, of which nine count. -/
def fraction? (cs : List Char) : Option (Nat × List Char) :=
  match cs with
  | '.' :: rest =>
    let digits := rest.takeWhile Char.isDigit
    (Numeral.digits? digits).map fun _ =>
      let counted := (digits ++ List.replicate 9 '0').take 9
      ((Numeral.digits? counted).getD 0, rest.dropWhile Char.isDigit)
  | _ => some (0, cs)

/-- The offset from the world's common time in seconds. -/
def offset? (cs : List Char) : Option (Int × List Char) :=
  let signed (negative : Bool) (cs : List Char) : Option (Int × List Char) := do
    let (hours, cs) ← number? 2 cs
    let cs ← mark? ':' cs
    let (minutes, cs) ← number? 2 cs
    if minutes < 60 ∧ hours < 24 then
      let seconds : Int := (hours * 3600 + minutes * 60 : Nat)
      some (if negative then -seconds else seconds, cs)
    else none
  match cs with
  | 'Z' :: rest => some (0, rest)
  | 'z' :: rest => some (0, rest)
  | '+' :: rest => signed false rest
  | '-' :: rest => signed true rest
  | '−' :: rest => signed true rest
  | _ => none

/-- The instant that a timestamp denotes; `none` when the text is no timestamp. -/
def ofText? (text : String) : Option Instant := do
  let (year, cs) ← number? 4 text.toList
  let cs ← mark? '-' cs
  let (month, cs) ← number? 2 cs
  let cs ← mark? '-' cs
  let (day, cs) ← number? 2 cs
  let cs ← match cs with
    | c :: rest => if c = 'T' || c = 't' || c = ' ' then some rest else none
    | [] => none
  let (hour, cs) ← number? 2 cs
  let cs ← mark? ':' cs
  let (minute, cs) ← number? 2 cs
  let cs ← mark? ':' cs
  let (second, cs) ← number? 2 cs
  let (nanoseconds, cs) ← fraction? cs
  let (offset, cs) ← offset? cs
  if cs.isEmpty ∧ 1 ≤ day ∧ day ≤ daysInMonth year month ∧ hour < 24 ∧ minute < 60 ∧ second ≤ 60 then
    let leap := second == 60
    let clock := hour * 3600 + minute * 60 + (if leap then 59 else second)
    some {
      seconds := (dayNumber year month day * 86400 + clock : Nat) - offset
      nanoseconds := nanoseconds + if leap then 1000000000 else 0 }
  else none

end Instant

end DocQuery
