import DocQuery.Json.Draft

/-!
# Decoding values into types

A decoder takes a draft apart as far as it needs to.  The first trouble in reading order decides the
kind of fault: a value of the wrong shape, or a text that ends being well formed.

A record is written as an object or, in the order of its fields, as an array.  A field may have
several names, of which only one may be used.

## Main definitions

* `DecodeFault`, `Decoder`
* `Decoder.text`, `Decoder.natural`, `Decoder.list`, `Decoder.optional`: basic decoders
* `RecordField`, `Decoder.record`: records
* `Decoder.buffered`: read a value as a whole before looking at its shape
-/

namespace DocQuery

/-- Why a draft was refused. -/
inductive DecodeFault where
  /-- The text is not well-formed JSON. -/
  | text
  /-- The text is well formed so far, but the value is not of the expected shape. -/
  | shape
deriving DecidableEq

/-- A reader of drafts. -/
abbrev Decoder (α : Type) := Draft → Except DecodeFault α

namespace Decoder

variable {α : Type}

/-- Refuse a draft: a missing value is a fault of the text, a present one has the wrong shape. -/
def refuse : Draft → Except DecodeFault α
  | .broken | .unusable => .error .text
  | _ => .error .shape

/-- Any value. -/
def value : Decoder Json := fun draft =>
  match draft.whole? with
  | some v => .ok v
  | none => .error .text

/-- A string. -/
def text : Decoder String
  | .string s => .ok s
  | draft => refuse draft

/-- A truth value. -/
def flag : Decoder Bool
  | .bool b => .ok b
  | draft => refuse draft

/-- An unsigned 64-bit integer. -/
def natural : Decoder Nat
  | .number n =>
    match n.natural? with
    | some k => .ok k
    | none => .error .shape
  | draft => refuse draft

/-- An object of any members. -/
def document : Decoder Document
  | .object members ending =>
    match (Draft.object members ending).whole? with
    | some (.object members) => .ok members
    | _ => .error .text
  | draft => refuse draft

/-- A value or null. -/
def optional (decode : Decoder α) : Decoder (Option α)
  | .null => .ok none
  | draft => (decode draft).map some

/-- The elements of an array. -/
def items (decode : Decoder α) (ending : Ending) : List Draft → Except DecodeFault (List α)
  | [] => if ending = .closed then .ok [] else .error .text
  | d :: ds => do
    let v ← decode d
    let vs ← items decode ending ds
    .ok (v :: vs)

/-- An array. -/
def list (decode : Decoder α) : Decoder (List α)
  | .array drafts ending => items decode ending drafts
  | draft => refuse draft

/-- The members of an object, repeated keys included. -/
def members (decode : Decoder α) (ending : Ending) :
    List (String × Draft) → Except DecodeFault (List (String × α))
  | [] => if ending = .closed then .ok [] else .error .text
  | (k, d) :: ds => do
    let v ← decode d
    let vs ← members decode ending ds
    .ok ((k, v) :: vs)

/-- An object whose members are all alike. -/
def table (decode : Decoder α) : Decoder (List (String × α))
  | .object drafts ending => members decode ending drafts
  | draft => refuse draft

/-- Read the whole value first, so that a fault of the text wins over one of the shape. -/
def buffered (decode : Decoder α) : Decoder α := fun draft =>
  if draft.whole?.isSome then decode draft else .error .text

end Decoder

/-- A field of a record of type `σ`. -/
structure RecordField (σ : Type) where
  /-- The names that the field goes by. -/
  names : List String
  /-- Whether the record is incomplete without the field. -/
  required : Bool
  /-- Store a decoded value in the record. -/
  read : Draft → σ → Except DecodeFault σ

namespace RecordField

variable {σ α : Type}

/-- A field that has to be present. -/
def needed (names : List String) (decode : Decoder α) (set : α → σ → σ) : RecordField σ :=
  ⟨names, true, fun draft record => (decode draft).map fun v => set v record⟩

/-- A field that keeps its default when it is absent. -/
def defaulted (names : List String) (decode : Decoder α) (set : α → σ → σ) : RecordField σ :=
  { needed names decode set with required := false }

/-- Whether a record is complete without these fields. -/
def dispensable (fields : List (RecordField σ)) : Bool := fields.all fun f => !f.required

end RecordField

namespace Decoder

variable {σ : Type}

/-- The fields of a record in the order of their arrival; `pending` are those yet to come.  A strict
record refuses names that it does not know, any other skips their values. -/
def recordMembers (fields : List (RecordField σ)) (strict : Bool) (ending : Ending) :
    List (String × Draft) → List (RecordField σ) → σ → Except DecodeFault σ
  | [], pending, record =>
    if ending ≠ .closed then .error .text
    else if RecordField.dispensable pending then .ok record
    else .error .shape
  | (key, draft) :: rest, pending, record =>
    match pending.find? (·.names.contains key) with
    | some f =>
      match f.read draft record with
      | .ok record =>
        recordMembers fields strict ending rest (pending.filter (!·.names.contains key)) record
      | .error fault => .error fault
    | none =>
      if strict || fields.any (·.names.contains key) then .error .shape
      else if draft.isWellFormed then recordMembers fields strict ending rest pending record
      else .error .text

/-- The fields of a record in the order of their declaration. -/
def recordItems (ending : Ending) :
    List (RecordField σ) → List Draft → σ → Except DecodeFault σ
  | [], [], record => if ending = .closed then .ok record else .error .text
  | [], _ :: _, _ => .error .text
  | f :: fs, [], record =>
    if ending ≠ .closed then .error .text
    else if RecordField.dispensable (f :: fs) then .ok record
    else .error .shape
  | f :: fs, d :: ds, record =>
    match f.read d record with
    | .ok record => recordItems ending fs ds record
    | .error fault => .error fault

/-- A record that may be written as an object only; absent fields are those of `start`. -/
def keyedRecord (fields : List (RecordField σ)) (start : σ) : Decoder σ
  | .object drafts ending => recordMembers fields false ending drafts fields start
  | draft => refuse draft

/-- A record, written as an object or as an array; absent fields are those of `start`. -/
def record (fields : List (RecordField σ)) (strict : Bool) (start : σ) : Decoder σ
  | .object drafts ending => recordMembers fields strict ending drafts fields start
  | .array drafts ending => recordItems ending fields drafts start
  | draft => refuse draft

end Decoder

/-- The decoded value of a value at hand. -/
def Json.decode? {α : Type} (decode : Decoder α) (v : Json) : Option α :=
  (decode (Draft.ofJson v)).toOption

end DocQuery
