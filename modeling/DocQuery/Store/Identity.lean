import DocQuery.Json.Text
import DocQuery.Text.Ranges

/-!
# Invented identities

A record that arrives without an identity is given one.  Invented identities have the form of a
time-ordered unique identifier: eight, four, four, four and twelve hexadecimal digits, the third
group starting with the version 7.  Their order is the order of invention.
-/

namespace DocQuery.Identity

/-- The last `count` hexadecimal digits of a number. -/
def digits : Nat → Nat → List Char
  | 0, _ => []
  | count + 1, n => digits count (n / 16) ++ [hexDigit (n % 16)]

/-- The identity of a number: the leading 48 bits come first and the others after the marks of
version and variant. -/
def ofNat (n : Nat) : String :=
  let time := n >>> 62
  String.ofList (digits 8 (time >>> 16) ++ '-' :: digits 4 time ++ '-' :: '7' :: digits 3 0
    ++ '-' :: '8' :: digits 3 (n >>> 48) ++ '-' :: digits 12 n)

/-- Whether the groups of a text have the given numbers of hexadecimal digits. -/
def hasGroups : List Nat → List (List Char) → Bool
  | [], [] => true
  | n :: ns, g :: gs =>
    g.length == n && g.all (fun c => c.isDigit || ('a' ≤ c && c ≤ 'f') || ('A' ≤ c && c ≤ 'F'))
      && hasGroups ns gs
  | _, _ => false

/-- Whether a text has the form of an invented identity. -/
def isInvented (s : String) : Bool :=
  let groups := Text.pieces '-' s.toList
  hasGroups [8, 4, 4, 4, 12] groups && (groups[2]?.bind List.head?) == some '7'

end DocQuery.Identity
