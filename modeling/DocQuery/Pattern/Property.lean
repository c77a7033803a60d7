import DocQuery.Text.Alphanumeric
import DocQuery.Text.BinaryProperty
import DocQuery.Text.Blank
import DocQuery.Text.Category
import DocQuery.Text.LowerCase
import DocQuery.Text.Script

/-!
# Named sets of characters

The sets that a pattern may name by one word: general categories and their groups, scripts, binary
properties, and the bracketed classes of ASCII.  Names of properties are compared without case,
blanks, hyphens and underscores, and without a leading `is`.
-/

namespace DocQuery.Pattern

open Text (Ranges)

/-- The form in which names are compared. -/
def normalizedName (name : String) : String :=
  let cs := (name.toList.filter fun c => c.toNat < 128 && c != ' ' && c != '-' && c != '_').map Char.toLower
  match cs with
  | ['i', 's', 'c'] => "isc"
  | 'i' :: 's' :: rest => String.ofList rest
  | cs => String.ofList cs

/-- Long name, short name and members of every general category and every group of them.  A set of
characters has no surrogates, and a name that stands for nothing else is refused. -/
def categoryNames : List (List String × List String) := [
  (["uppercaseletter", "lu"], ["Lu"]), (["lowercaseletter", "ll"], ["Ll"]),
  (["titlecaseletter", "lt"], ["Lt"]), (["casedletter", "lc"], ["Lu", "Ll", "Lt"]),
  (["modifierletter", "lm"], ["Lm"]), (["otherletter", "lo"], ["Lo"]),
  (["letter", "l"], ["Lu", "Ll", "Lt", "Lm", "Lo"]),
  (["nonspacingmark", "mn"], ["Mn"]), (["spacingmark", "mc"], ["Mc"]),
  (["enclosingmark", "me"], ["Me"]), (["mark", "m", "combiningmark"], ["Mn", "Mc", "Me"]),
  (["decimalnumber", "nd", "digit"], ["Nd"]), (["letternumber", "nl"], ["Nl"]),
  (["othernumber", "no"], ["No"]), (["number", "n"], ["Nd", "Nl", "No"]),
  (["connectorpunctuation", "pc"], ["Pc"]), (["dashpunctuation", "pd"], ["Pd"]),
  (["openpunctuation", "ps"], ["Ps"]), (["closepunctuation", "pe"], ["Pe"]),
  (["initialpunctuation", "pi"], ["Pi"]), (["finalpunctuation", "pf"], ["Pf"]),
  (["otherpunctuation", "po"], ["Po"]),
  (["punctuation", "p", "punct"], ["Pc", "Pd", "Ps", "Pe", "Pi", "Pf", "Po"]),
  (["mathsymbol", "sm"], ["Sm"]), (["currencysymbol", "sc"], ["Sc"]),
  (["modifiersymbol", "sk"], ["Sk"]), (["othersymbol", "so"], ["So"]),
  (["symbol", "s"], ["Sm", "Sc", "Sk", "So"]),
  (["spaceseparator", "zs"], ["Zs"]), (["lineseparator", "zl"], ["Zl"]),
  (["paragraphseparator", "zp"], ["Zp"]), (["separator", "z"], ["Zs", "Zl", "Zp"]),
  (["control", "cc", "cntrl"], ["Cc"]), (["format", "cf"], ["Cf"]),
  (["privateuse", "co"], ["Co"]), (["unassigned", "cn"], ["Cn"]),
  (["other", "c"], ["Cc", "Cf", "Co", "Cn"])]

/-- The characters of a general category or of a group of them. -/
def category? (name : String) : Option Ranges :=
  match name with
  | "any" => some [(0, Ranges.lastCodePoint)]
  | "ascii" => some [(0, 0x7F)]
  | "assigned" => some (Text.rangesOfRuns (· ≠ "Cn") Text.categoryRuns)
  | name =>
    (categoryNames.find? fun entry => entry.1.contains name).map fun entry =>
      Text.rangesOfRuns entry.2.contains Text.categoryRuns

/-- The characters of the given general categories. -/
def categories (codes : List String) : Ranges :=
  Text.rangesOfRuns codes.contains Text.categoryRuns

/-- The characters in upper case. -/
def upperCase : Ranges := (categories ["Lu"]).union Text.otherUpperCase

/-- What an identifier may start with. -/
def identifierStart : Ranges :=
  ((categories ["Lu", "Ll", "Lt", "Lm", "Lo", "Nl"]).union Text.otherIdentifierStart).difference
    Text.noIdentifierStart

/-- What an identifier may hold. -/
def identifierPart : Ranges :=
  (identifierStart.union (categories ["Mn", "Mc", "Nd", "Pc"])).union Text.otherIdentifierPart

/-- What extends the character before it: marks, the non-joiner and the tags among it. -/
def graphemeExtend : Ranges :=
  ((categories ["Mn", "Me"]).union Text.attachedRanges).union [(0x200C, 0x200C), (0xE0020, 0xE007F)]

/-- The characters of a property that has a table under the given name. -/
def tabulated? (name : String) : Option Ranges :=
  (Text.propertyTables.find? fun entry => entry.1.contains name).map fun entry =>
    Ranges.ofLines entry.2

/-- The characters of a property that has a table. -/
def tabulated (name : String) : Ranges := (tabulated? name).getD []

/-- The letters of all scripts, the letter numbers, and what else words are spelled with. -/
def alphabetic : Ranges := Text.alphanumericRanges.difference (categories ["Nd", "No"])

/-- The characters in lower case. -/
def lowerCase : Ranges := (categories ["Ll"]).union Text.otherLowerCase

/-- The characters that change in lower case. -/
def changedInLowerCase : Ranges := Text.caseMappedRanges.intersection (upperCase.union (categories ["Lt"]))

/-- The characters with a binary property that follows from others. -/
def derivedProperty? (name : String) : Option Ranges :=
  match name with
  | "alphabetic" | "alpha" => some alphabetic
  | "otheralphabetic" | "oalpha" =>
    some (alphabetic.difference (categories ["Lu", "Ll", "Lt", "Lm", "Lo", "Nl"]))
  | "whitespace" | "wspace" | "space" => some Text.blankRanges
  | "cased" => some Text.casedRanges
  | "caseignorable" | "ci" => some Text.caseIgnorableRanges
  | "lowercase" | "lower" => some lowerCase
  | "otherlowercase" | "olower" => some Text.otherLowerCase
  | "uppercase" | "upper" => some upperCase
  | "otheruppercase" | "oupper" => some Text.otherUpperCase
  | "idstart" | "ids" => some identifierStart
  | "idcontinue" | "idc" => some identifierPart
  | "otheridstart" | "oids" => some Text.otherIdentifierStart
  | "otheridcontinue" | "oidc" => some Text.otherIdentifierPart
  | "xidstart" | "xids" => some (identifierStart.difference Text.unstableIdentifierStart)
  | "xidcontinue" | "xidc" => some (identifierPart.difference Text.unstableIdentifierPart)
  | "graphemeextend" | "grext" => some graphemeExtend
  | "othergraphemeextend" | "ogrext" => some (graphemeExtend.difference (categories ["Mn", "Me"]))
  | "graphemebase" | "grbase" =>
    some ((categories ["Cc", "Cf", "Co", "Cn", "Zl", "Zp"]).union graphemeExtend).complement
  | "othermath" | "omath" => some ((tabulated "math").difference (categories ["Sm"]))
  | "otherdefaultignorablecodepoint" | "odi" =>
    some (((tabulated "defaultignorablecodepoint").difference (categories ["Cf"])).difference
      (tabulated "variationselector"))
  | "changeswhencasemapped" | "cwcm" => some Text.caseMappedRanges
  | "changeswhenlowercased" | "cwl" => some changedInLowerCase
  | "changeswhenuppercased" | "cwu" => some (Text.caseMappedRanges.difference upperCase)
  | "changeswhentitlecased" | "cwt" =>
    some (((Text.caseMappedRanges.difference upperCase).union Text.titleCaseOnly).difference Text.upperCaseOnly)
  | "changeswhencasefolded" | "cwcf" =>
    some ((changedInLowerCase.union Text.foldedOnly).difference Text.notFolded)
  | _ => none

/-- The characters with a binary property. -/
def binaryProperty? (name : String) : Option Ranges :=
  match derivedProperty? name with
  | some ranges => some ranges
  | none => tabulated? name

/-- The code of the script of a name, which may also be the code. -/
def scriptCode? (name : String) : Option String :=
  (Text.scriptNames.find? fun names => (names.map normalizedName).contains name).bind List.head?

/-- The characters of a property given by one name.  Three names that stand for a property and for a
category mean the category. -/
def named? (name : String) : Option Ranges :=
  let name := normalizedName name
  let property :=
    if name = "cf" || name = "sc" || name = "lc" then none else binaryProperty? name
  match property with
  | some ranges => some ranges
  | none =>
    match category? name with
    | some ranges => some ranges
    | none => (scriptCode? name).map Text.scriptRanges

/-- A bracketed class of ASCII. -/
def asciiClass? (name : String) : Option Ranges :=
  match name with
  | "alnum" => some [(0x30, 0x39), (0x41, 0x5A), (0x61, 0x7A)]
  | "alpha" => some [(0x41, 0x5A), (0x61, 0x7A)]
  | "ascii" => some [(0, 0x7F)]
  | "blank" => some [(0x09, 0x09), (0x20, 0x20)]
  | "cntrl" => some [(0, 0x1F), (0x7F, 0x7F)]
  | "digit" => some [(0x30, 0x39)]
  | "graph" => some [(0x21, 0x7E)]
  | "lower" => some [(0x61, 0x7A)]
  | "print" => some [(0x20, 0x7E)]
  | "punct" => some [(0x21, 0x2F), (0x3A, 0x40), (0x5B, 0x60), (0x7B, 0x7E)]
  | "space" => some [(0x09, 0x0D), (0x20, 0x20)]
  | "upper" => some [(0x41, 0x5A)]
  | "word" => some [(0x30, 0x39), (0x41, 0x5A), (0x5F, 0x5F), (0x61, 0x7A)]
  | "xdigit" => some [(0x30, 0x39), (0x41, 0x46), (0x61, 0x66)]
  | _ => none

end DocQuery.Pattern
