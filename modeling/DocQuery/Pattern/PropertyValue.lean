import DocQuery.Pattern.Property
import DocQuery.Text.Age

/-!
# Values of properties

The sets that a pattern may name by a property and one of its values: general categories, scripts,
ages, and the classes by which texts are cut into what readers take for characters, for words and
for sentences.  The classes follow from categories, scripts and binary properties as Annex 29 of the
Unicode standard says, version 17; what belongs to no class has no name here.

## Main definitions

* `age?`: the characters of a version of the standard and of those before it
* `graphemeBreak?`, `wordBreak?`, `sentenceBreak?`: the classes of the three ways of cutting
* `valued?`: the characters with a value of a property
-/

namespace DocQuery.Pattern

open Text (Ranges)

/-- The characters of a version of the standard, which is written `6.0` or `v60`. -/
def age? (name : String) : Option Ranges :=
  (Text.ageVersions.findIdx? fun version =>
    name = version || name = "v" ++ String.ofList (version.toList.filter (· != '.'))).map
      Text.agedRanges

/-! ### Grapheme clusters -/

/-- The marks that stand before what they are put on, and the letters that go with what follows. -/
def prepended : Ranges :=
  (tabulated "prependedconcatenationmark").union
    (Ranges.ofLines ["d4e 111c2-111c3 113d1 1193f 11941 11a84-11a89 11d46 11f02"])

/-- What extends a cluster whatever it starts with. -/
def clusterExtend : Ranges := graphemeExtend.union (tabulated "emojimodifier")

/-- What ends every cluster before and behind it. -/
def clusterControl : Ranges :=
  let unseen := (categories ["Cn"]).intersection (tabulated "defaultignorablecodepoint")
  [prepended, graphemeExtend, [(0x0A, 0x0A), (0x0D, 0x0D), (0x200D, 0x200D)]].foldl Ranges.difference
    ((categories ["Cc", "Cf", "Zl", "Zp"]).union unseen)

/-- Spacing marks, without those that stand apart from what they belong to. -/
def spacingMark : Ranges :=
  (((categories ["Mc"]).union [(0xE33, 0xE33), (0xEB3, 0xEB3)]).difference clusterExtend).difference
    (Ranges.ofLines ["102b-102c 1038 1062-1064 1067-106d 1083 1087-108c 108f 109a-109c 1a61",
      "1a63-1a64 aa7b aa7d 11720-11721"])

/-- The syllables of Hangul. -/
def hangulSyllables : Ranges := [(0xAC00, 0xD7A3)]

/-- The syllables of Hangul without a final consonant. -/
def openSyllables : Ranges :=
  (List.range 399).map fun place => (0xAC00 + 28 * place, 0xAC00 + 28 * place)

/-- The flags of countries are pairs of these. -/
def regionalIndicators : Ranges := tabulated "regionalindicator"

/-- The classes of characters by which texts are cut into clusters. -/
def graphemeBreak? (name : String) : Option Ranges :=
  match name with
  | "cr" => some [(0x0D, 0x0D)]
  | "lf" => some [(0x0A, 0x0A)]
  | "zwj" => some [(0x200D, 0x200D)]
  | "control" | "cn" => some clusterControl
  | "extend" | "ex" => some clusterExtend
  | "prepend" | "pp" => some prepended
  | "spacingmark" | "sm" => some spacingMark
  | "regionalindicator" | "ri" => some regionalIndicators
  | "l" => some [(0x1100, 0x115F), (0xA960, 0xA97C)]
  | "v" => some (Ranges.ofLines ["1160-11a7 d7b0-d7c6 16d63 16d67-16d6a"])
  | "t" => some [(0x11A8, 0x11FF), (0xD7CB, 0xD7FB)]
  | "lv" => some openSyllables
  | "lvt" => some (hangulSyllables.difference openSyllables)
  | _ => none

/-! ### Words -/

/-- The digits and the signs inside numbers.  The sign of a year and its like count as digits, the
Syriac abbreviation mark among them does not. -/
def numeric : Ranges :=
  ((categories ["Nd"]).union (Ranges.ofLines ["66b-66c 19da"])).union
    ((tabulated "prependedconcatenationmark").difference [(0x70F, 0x70F)])

/-- What extends a word whatever it starts with. -/
def wordExtend : Ranges := clusterExtend.union (categories ["Mc"])

/-- Katakana and what is written with it. -/
def katakana : Ranges :=
  (Text.scriptRanges "Kana").union (Ranges.ofLines ["3031-3035 309b-309c 30a0 30fc ff70"])

/-- The letters of Hebrew. -/
def hebrewLetter : Ranges := (Text.scriptRanges "Hebr").intersection (categories ["Lo"])

/-- Letters of the scripts that are written without blanks between words; where these end, only a
dictionary tells. -/
def unspacedLetter : Ranges :=
  let scripts := ["Ahom", "Khmr", "Lana", "Laoo", "Mymr", "Tale", "Talu", "Tavt", "Thai"]
  (Text.rangesOfRuns scripts.contains Text.scriptRuns).intersection (categories ["Lm", "Lo"])

/-- The letters that words are made of: neither ideographs nor letters of the scripts above. -/
def wordLetter : Ranges :=
  let spelled := alphabetic.union (Ranges.ofLines [
    "b8 2c2-2c5 2d2-2d7 2de-2df 2e5-2eb 2ed 2ef-2ff 55a-55c 55e 58a 5f3 70f a708-a716 a720-a721",
    "a789-a78a ab5b"])
  [tabulated "ideographic", unspacedLetter, Text.scriptRanges "Hira", katakana, hebrewLetter,
    wordExtend].foldl Ranges.difference spelled

/-- The classes of characters by which texts are cut into words. -/
def wordBreak? (name : String) : Option Ranges :=
  match name with
  | "cr" => some [(0x0D, 0x0D)]
  | "lf" => some [(0x0A, 0x0A)]
  | "newline" | "nl" => some (Ranges.ofLines ["b-c 85 2028-2029"])
  | "zwj" => some [(0x200D, 0x200D)]
  | "extend" => some wordExtend
  | "format" | "fo" =>
    some (((categories ["Cf"]).difference (prepended.union graphemeExtend)).difference
      [(0x200B, 0x200D)])
  | "regionalindicator" | "ri" => some regionalIndicators
  | "katakana" | "ka" => some katakana
  | "hebrewletter" | "hl" => some hebrewLetter
  | "aletter" | "le" => some wordLetter
  | "singlequote" | "sq" => some [(0x27, 0x27)]
  | "doublequote" | "dq" => some [(0x22, 0x22)]
  | "midnumlet" | "mb" => some (Ranges.ofLines ["2e 2018-2019 2024 fe52 ff07 ff0e"])
  | "midletter" | "ml" => some (Ranges.ofLines ["3a b7 387 55f 5f4 2027 fe13 fe55 ff1a"])
  | "midnum" | "mn" =>
    some (Ranges.ofLines ["2c 3b 37e 589 60c-60d 66c 7f8 2044 fe50 fe54 ff0c ff1b"])
  | "numeric" | "nu" => some (numeric.difference [(0x66C, 0x66C)])
  | "extendnumlet" | "ex" => some ((categories ["Pc"]).union [(0x202F, 0x202F)])
  | "wsegspace" => some (Ranges.ofLines ["20 1680 2000-2006 2008-200a 205f 3000"])
  | _ => none

/-! ### Sentences -/

/-- What extends a sentence whatever stands before it. -/
def sentenceExtend : Ranges :=
  (graphemeExtend.union (categories ["Mc"])).union [(0x200D, 0x200D)]

/-- The letters in lower case, without those of the Georgian scripts, which have no case in running
text. -/
def sentenceLower : Ranges :=
  (lowerCase.difference graphemeExtend).difference [(0x10D0, 0x10FA), (0x10FD, 0x10FF)]

/-- The letters that may begin a sentence in a script with case. -/
def sentenceUpper : Ranges :=
  (upperCase.union (categories ["Lt"])).difference [(0x1C90, 0x1CBA), (0x1CBD, 0x1CBF)]

/-- The full stop and its forms, which may also stand inside a number or behind an abbreviation. -/
def fullStops : Ranges := Ranges.ofLines ["2e 2024 fe52 ff0e"]

/-- What ends a sentence for certain. -/
def sentenceTerminal : Ranges := (tabulated "sentenceterminal").difference fullStops

/-- The classes of characters by which texts are cut into sentences. -/
def sentenceBreak? (name : String) : Option Ranges :=
  match name with
  | "cr" => some [(0x0D, 0x0D)]
  | "lf" => some [(0x0A, 0x0A)]
  | "sep" | "se" => some (Ranges.ofLines ["85 2028-2029"])
  | "extend" | "ex" => some sentenceExtend
  | "format" | "fo" =>
    some (((categories ["Cf"]).difference numeric).difference sentenceExtend)
  | "sp" => some (Text.blankRanges.difference (Ranges.ofLines ["a d 85 2028-2029"]))
  | "lower" | "lo" => some sentenceLower
  | "upper" | "up" => some sentenceUpper
  | "oletter" | "le" =>
    some ([sentenceLower, sentenceUpper, sentenceExtend].foldl Ranges.difference
      (alphabetic.union [(0x5F3, 0x5F3)]))
  | "numeric" | "nu" => some numeric
  | "aterm" | "at" => some fullStops
  | "sterm" | "st" => some sentenceTerminal
  | "scontinue" | "sc" =>
    some (Ranges.ofLines ["2c-2d 3a-3b 37e 55d 60c-60d 7f8 1802 1808 2013-2014 3001 fe10-fe11",
      "fe13-fe14 fe31-fe32 fe50-fe51 fe54-fe55 fe58 fe63 ff0c-ff0d ff1a-ff1b ff64"])
  | "close" | "cl" =>
    some ((categories ["Ps", "Pe", "Pi", "Pf"]).union
      (Ranges.ofLines ["22 27 275b-2760 2e00-2e0d 1f676-1f678"]))
  | _ => none

/-! ### Values by name -/

/-- The characters with a value of a property. -/
def valued? (name value : String) : Option Ranges :=
  let value := normalizedName value
  match normalizedName name with
  | "generalcategory" | "gc" => category? value
  | "script" | "sc" => (scriptCode? value).map Text.scriptRanges
  | "scriptextensions" | "scx" => (scriptCode? value).map Text.sharedScriptRanges
  | "age" => age? value
  | "graphemeclusterbreak" | "gcb" => graphemeBreak? value
  | "wordbreak" | "wb" => wordBreak? value
  | "sentencebreak" | "sb" => sentenceBreak? value
  | _ => none

end DocQuery.Pattern
