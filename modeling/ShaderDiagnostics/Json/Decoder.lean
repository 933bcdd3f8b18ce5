import ShaderDiagnostics.Json.Fault

/-!
# Decoding values

Decoders for the kinds of values that settings, capabilities and messages are made of. A record is an
object, of which unknown keys are ignored and the first fault in the order of keys is reported, and only
then a missing field; or it is a list of its fields in their order, of which the last ones may be missing
if they have a default.
-/

namespace ShaderDiagnostics.Json

/-- Reads a value. -/
abbrev Decoder (α : Type) := Json → Except Fault α

namespace Decoder

/-- Anything. -/
def any : Decoder Json := .ok

/-- A truth value. -/
def bool : Decoder Bool
  | .bool b => .ok b
  | j => .error (.wrongType j "a boolean")

/-- A text. -/
def string : Decoder String
  | .str s => .ok s
  | j => .error (.wrongType j "a string")

/-- An integer of a range, called `name`. -/
def integer (low high : Int) (name : String) : Decoder Int
  | .int n => if low ≤ n && n ≤ high then .ok n else .error (.outOfRange n name)
  | j => .error (.wrongType j name)

/-- An unsigned integer of 32 bits. -/
def u32 : Decoder Nat := fun j => (integer 0 4294967295 "u32" j).map Int.toNat

/-- An unsigned integer of 64 bits. -/
def u64 : Decoder Nat := fun j => (integer 0 18446744073709551615 "u64" j).map Int.toNat

/-- A signed integer of 32 bits. -/
def i32 : Decoder Int := integer (-2147483648) 2147483647 "i32"

/-- A value that may be `null`. -/
def optional {α : Type} (d : Decoder α) : Decoder (Option α)
  | .null => .ok none
  | j => (d j).map some

/-- A list. -/
def list {α : Type} (d : Decoder α) : Decoder (List α)
  | .arr items => items.mapM d
  | j => .error (.wrongType j "a sequence")

/-- Values by keys. -/
def map {α : Type} (d : Decoder α) : Decoder (List (String × α))
  | .obj members => members.mapM fun m => (d m.2).map fun a => (m.1, a)
  | j => .error (.wrongType j "a map")

/-- A URI reference. -/
def uri : Decoder Uri := fun j =>
  match string j with
  | .error e => .error e
  | .ok s =>
    match Uri.ofString s with
    | .ok u => .ok u
    | .error e => .error (.badUri e)

/-- One of some words, also as the only key of an object with the value `null`. -/
def word (known : List String) : Decoder String
  | .str s => if known.contains s then .ok s else .error (.unknownWord s known)
  | .obj [(key, value)] =>
    if known.contains key then
      match value with
      | .null => .ok key
      | j => .error (.wrongType j "unit")
    else .error (.unknownWord key known)
  | .obj _ => .error .notSingle
  | j => .error (.wrongType j "string or map")

/-- The first of two forms that fits. -/
def either {α : Type} (type : String) (a b : Decoder α) : Decoder α := fun j =>
  match a j with
  | .ok x => .ok x
  | .error _ =>
    match b j with
    | .ok x => .ok x
    | .error _ => .error (.noForm type)

end Decoder

/-- Whether a field must be there. -/
inductive Presence where
  /-- It must. -/
  | required
  /-- It may be missing from an object, but not from a list. -/
  | optional
  /-- It may be missing. -/
  | defaulted
  deriving DecidableEq, Repr

/-- A field of a record under construction. -/
structure RecordField (σ : Type) where
  /-- The key. -/
  key : String
  /-- Whether the field must be there. -/
  presence : Presence
  /-- Reads the value into the record. -/
  read : Json → σ → Except Fault σ

namespace RecordField

/-- A field that must be there. -/
def required {σ α : Type} (key : String) (d : Decoder α) (set : α → σ → σ) : RecordField σ :=
  ⟨key, .required, fun j r => (d j).map fun a => set a r⟩

/-- A field that may be missing or `null`. -/
def optional {σ α : Type} (key : String) (d : Decoder α) (set : Option α → σ → σ) : RecordField σ :=
  ⟨key, .optional, fun j r => (d.optional j).map fun a => set a r⟩

/-- A field with a default. -/
def defaulted {σ α : Type} (key : String) (d : Decoder α) (set : α → σ → σ) : RecordField σ :=
  ⟨key, .defaulted, fun j r => (d j).map fun a => set a r⟩

end RecordField

/-- The form of a record: its name, its fields in order, and whether it may be given as a list. -/
structure RecordForm (σ : Type) where
  /-- The name. -/
  name : String
  /-- The fields. -/
  fields : List (RecordField σ)
  /-- Whether a list of the fields stands for the record. -/
  listed : Bool

namespace RecordForm

variable {σ : Type}

/-- How a value of this form is called. -/
def want (form : RecordForm σ) : String := "struct " ++ form.name

/-- How a list of the fields is called. -/
def wantList (form : RecordForm σ) : String :=
  let n := form.fields.length
  form.want ++ " with " ++ toString n ++ (if n == 1 then " element" else " elements")

/-- Reads the members of an object one by one; those that are no fields are ignored. -/
def readMembers (form : RecordForm σ) : List (String × Json) → σ → Except Fault σ
  | [], r => .ok r
  | (key, value) :: rest, r =>
    match form.fields.find? fun f => f.key == key with
    | none => readMembers form rest r
    | some f =>
      match f.read value r with
      | .ok r => readMembers form rest r
      | .error e => .error e

/-- The first required field that the members lack. -/
def missing? (form : RecordForm σ) (members : List (String × Json)) : Option String :=
  (form.fields.find? fun f =>
    f.presence == .required && !members.any fun m => m.1 == f.key).map (·.key)

/-- Reads the items of a list into the fields in order; `count` items have been read. -/
def readItems (form : RecordForm σ) (length : Nat) :
    Nat → List (RecordField σ) → List Json → σ → Except Fault σ
  | _, [], items, r => if items.isEmpty then .ok r else .error (.tooLong length)
  | count, f :: fields, [], r =>
    if f.presence == .defaulted then readItems form length (count + 1) fields [] r
    else .error (.tooShort count form.wantList)
  | count, f :: fields, j :: items, r =>
    match f.read j r with
    | .ok r => readItems form length (count + 1) fields items r
    | .error e => .error e

/-- Reads a record, starting from `initial`. -/
def decode (form : RecordForm σ) (initial : σ) : Decoder σ
  | .obj members =>
    match form.readMembers members initial with
    | .error e => .error e
    | .ok r =>
      match form.missing? members with
      | some name => .error (.missingField name)
      | none => .ok r
  | .arr items =>
    if form.listed then form.readItems items.length 0 form.fields items initial
    else .error (.wrongType (.arr items) form.want)
  | j => .error (.wrongType j form.want)

end RecordForm

end ShaderDiagnostics.Json
