import ShaderDiagnostics.Json.Decoder

/-!
# Shapes of values

A shape reads a value that is looked at only here and there but must be well formed as a whole. It
answers with the value in normal form: records given as lists have become objects, and members without a
value are left out.
-/

namespace ShaderDiagnostics.Json

/-- Checks a value and puts it into normal form. -/
abbrev Shape := Decoder Json

/-- The members of an object. -/
abbrev Members := List (String × Json)

namespace Shape

/-- Anything. -/
def any : Shape := Decoder.any

/-- A truth value. -/
def bool : Shape := fun j => (Decoder.bool j).map .bool

/-- A text. -/
def string : Shape := fun j => (Decoder.string j).map .str

/-- A signed integer of 32 bits. -/
def i32 : Shape := fun j => (Decoder.i32 j).map .int

/-- An unsigned integer of 32 bits. -/
def u32 : Shape := fun j => (Decoder.u32 j).map .nat

/-- One of some words. -/
def word (known : List String) : Shape := fun j => (Decoder.word known j).map .str

/-- A list of values of one shape. -/
def list (s : Shape) : Shape := fun j => (Decoder.list s j).map .arr

/-- The first of two shapes that fits. -/
def either (type : String) (a b : Shape) : Shape := Decoder.either type a b

/-- A member that may be missing or `null`. -/
def optional (key : String) (s : Shape) : RecordField Members :=
  .optional key s fun v members =>
    match v with
    | some v => insert key v members
    | none => members

/-- A member that must be there. -/
def required (key : String) (s : Shape) : RecordField Members := .required key s (insert key)

/-- A record. -/
def record (name : String) (fields : List (RecordField Members)) : Shape := fun j =>
  ((RecordForm.mk name fields true).decode [] j).map .obj

/-- A record that may not be given as a list. -/
def unlistedRecord (name : String) (fields : List (RecordField Members)) : Shape := fun j =>
  ((RecordForm.mk name fields false).decode [] j).map .obj

end Shape

end ShaderDiagnostics.Json
