import DocQuery.Filter.Operator
import DocQuery.Json.Draft
import DocQuery.Number.Numeral
import DocQuery.Pattern.Engine

/-!
# Operands of filter operators

Values arrive as texts as often as not, so each operator brings its operand into the form that the
native filter needs, or says why it cannot.  A pattern is tried with the engine of regular
expressions, whose remark on a refusal becomes part of the reason.

## Main definitions

* `OperandFault`: why an operand was refused
* `Operand.coerce`: the native operand of an operator
* `Operand.bounds`: the two bounds of a range
-/

namespace DocQuery

/-- Why a clause of a flat filter map was refused. -/
inductive OperandFault where
  /-- The key of the entry is itself an operator. -/
  | operatorKey
  /-- An operator map holds a key that clients may not use. -/
  | unsupportedOperator (key : String)
  | betweenNeedsTwoValues
  | betweenCount (count : Nat)
  | betweenNeedsNumbers
  | regexNeedsString
  /-- The engine of regular expressions refused the pattern with this remark. -/
  | invalidRegex (remark : String)
  | sizeNeedsNatural
  | elemMatchNeedsObject
deriving DecidableEq

/-- The text of a fault. -/
def OperandFault.reason : OperandFault → String
  | .operatorKey => "operator keys are not accepted as filter fields"
  | .unsupportedOperator key => s!"unsupported operator '{key}'"
  | .betweenNeedsTwoValues => "between expects two values"
  | .betweenCount count => s!"between expects two values, got {count}"
  | .betweenNeedsNumbers => "between expects numeric bounds"
  | .regexNeedsString => "regex filters expect a string"
  | .invalidRegex remark => s!"invalid regular expression{remark}"
  | .sizeNeedsNatural => "size expects a non-negative integer"
  | .elemMatchNeedsObject => "elemMatch expects a JSON object"

/-- A native operand. -/
inductive Operand where
  | single (value : Json)
  /-- A regular expression and its options, if it was written with some. -/
  | regex (pattern : String) (options : Option String)

namespace Operand

/-- The number that a text denotes, blanks around it aside: a signed integer or else a decimal. -/
def number? (text : String) : Option Number :=
  let text := Text.trim text
  match (Numeral.integer? text).bind Number.ofInt? with
  | some n => some n
  | none => (Numeral.decimal? text).map .float

/-- Cut `/pattern/flags` into its parts; any other text is a pattern without options. -/
def splitRegex (raw : String) : String × Option String :=
  match raw.toList with
  | '/' :: body =>
    match Text.splitLast '/' body with
    | some (pattern, flags) =>
      if flags.all fun c => c = 'i' || c = 'm' || c = 's' || c = 'x' then
        (String.ofList pattern, if flags.isEmpty then none else some (String.ofList flags))
      else (raw, none)
    | none => (raw, none)
  | _ => (raw, none)

/-- The trimmed non-empty parts of a list written with commas. -/
def commaList (text : String) : List String :=
  ((Text.splitOnChar ',' text).map Text.trim).filter fun part => !part.isEmpty

/-- The text of a value, without quotes if it is a string. -/
def plainText : Json → String
  | .string s => s
  | v => v.text

/-- The natural number that the operand of a size test denotes. -/
def count? : Json → Option Nat
  | .number n => n.natural?
  | .string s => Numeral.word? (Text.trim s)
  | _ => none

/-- The object that the operand of an element test denotes, given as such or as its text. -/
def objectOf? : Json → Option Document
  | .object members => some members
  | .string s => (Json.ofText? s).bind Json.object?
  | _ => none

/-- The native operand of an operator. -/
def coerce [PatternReader] (op : Operator) (value : Json) : Except OperandFault Operand :=
  match op with
  | .eq | .ne => .ok (.single value)
  | .gt | .gte | .lt | .lte =>
    match value with
    | .string s => .ok (.single (((number? s).map .number).getD value))
    | _ => .ok (.single value)
  | .isIn | .notIn | .all =>
    match value with
    | .string s => .ok (.single (Json.ofStrings (commaList s)))
    | .array _ => .ok (.single value)
    | _ => .ok (.single (.array [value]))
  | .exists => .ok (.single (.bool (Text.asciiLower (plainText value) == "true")))
  | .regex =>
    match value with
    | .string raw =>
      let (pattern, options) := splitRegex raw
      let ignoreCase := options.any fun o => o.toList.contains 'i'
      match PatternReader.read { Pattern.Flags.standard with ignoreCase } pattern with
      | .ok _ => .ok (.regex pattern options)
      | .error remark => .error (.invalidRegex remark)
    | _ => .error .regexNeedsString
  | .size =>
    match count? value with
    | some n => .ok (.single (.ofNat n))
    | none => .error .sizeNeedsNatural
  | .elemMatch =>
    match objectOf? value with
    | some members => .ok (.single (.object members))
    | none => .error .elemMatchNeedsObject

/-- The number that a bound of a range denotes. -/
def boundNumber? : Json → Option Number
  | .number n => some n
  | .string s => number? s
  | _ => none

/-- The parts of a range: the elements of a list, or the trimmed parts of a text with commas. -/
def boundParts : Json → Except OperandFault (List Json)
  | .array items => .ok items
  | .string s => .ok ((Text.splitOnChar ',' s).map fun part => .string (Text.trim part))
  | _ => .error .betweenNeedsTwoValues

/-- The lower and the upper bound of a range, which may be given in either order. -/
def bounds (value : Json) : Except OperandFault (Number × Number) :=
  match boundParts value with
  | .error fault => .error fault
  | .ok [first, second] =>
    match boundNumber? first, boundNumber? second with
    | some a, some b => .ok (if a.order b ≠ .gt then (a, b) else (b, a))
    | _, _ => .error .betweenNeedsNumbers
  | .ok parts => .error (.betweenCount parts.length)

end Operand

end DocQuery
