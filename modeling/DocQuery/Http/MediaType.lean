import DocQuery.Text.Blank

/-!
# Media types

The declared type of a body, such as `application/json; charset=utf-8`: a type, a subtype with a
suffix behind its last plus sign, and parameters.
-/

namespace DocQuery.Http

/-- A media type without its parameters, in lower case. -/
structure MediaType where
  type : List Char
  subtype : List Char
  suffix : Option (List Char)
deriving DecidableEq

namespace MediaType

/-- Whether a character may stand in an unquoted part of a media type. -/
def isToken (c : Char) : Bool :=
  c.isAlphanum || "!#$%&'+-.^_`|~".toList.contains c

/-- Whether the parameters behind a semicolon are well formed: names and values, the values perhaps
in quotes.  `fuel` bounds their number. -/
def areParameters : Nat → List Char → Bool
  | 0, _ => false
  | fuel + 1, cs =>
    match cs.dropWhile (· = ' ') with
    | [] => true
    | cs =>
      match cs.takeWhile isToken, cs.dropWhile isToken with
      | _ :: _, '=' :: '"' :: rest =>
        let inside := rest.takeWhile fun c => c ≠ '"' && 0x20 ≤ c.toNat && c.toNat ≠ 0x7F
        match rest.drop inside.length with
        | '"' :: after =>
          match after.dropWhile (· = ' ') with
          | [] => !inside.isEmpty
          | ';' :: more => !inside.isEmpty && areParameters fuel more
          | _ => false
        | _ => false
      | _ :: _, '=' :: rest =>
        match rest.takeWhile isToken, rest.dropWhile isToken with
        | _, [] => true
        | _ :: _, ';' :: more => areParameters fuel more
        | _, _ => false
      | _, _ => false

/-- Cut a subtype at its last plus sign, which may not be its first character. -/
def splitSuffix (cs : List Char) : List Char × Option (List Char) :=
  match Text.splitLast '+' cs with
  | some (before, after) => if before.isEmpty then (cs, none) else (before, some after)
  | none => (cs, none)

/-- Whether a character may stand in a header. -/
def isPlain (c : Char) : Bool := c = '\t' || (0x20 ≤ c.toNat && c.toNat < 0x7F)

/-- The media type that a text declares. -/
def ofText? (text : String) : Option MediaType :=
  let cs := if text.toList.all isPlain then text.toList else []
  let type := cs.takeWhile isToken
  match type, cs.drop type.length with
  | _ :: _, '/' :: rest =>
    let sub := rest.takeWhile isToken
    let parts := splitSuffix (sub.map Char.toLower)
    let result : MediaType := ⟨type.map Char.toLower, parts.1, parts.2⟩
    match sub, rest.drop sub.length with
    | _, [] => some result
    | _ :: _, ';' :: more => if areParameters (more.length + 1) more then some result else none
    | _, _ => none
  | _, _ => none

/-- Whether a media type is that of JSON, as such or by its suffix. -/
def isJson (m : MediaType) : Bool :=
  m.type == "application".toList
    && (m.subtype == "json".toList || m.suffix == some "json".toList)

end MediaType

end DocQuery.Http
