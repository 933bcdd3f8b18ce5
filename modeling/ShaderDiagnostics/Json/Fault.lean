import ShaderDiagnostics.Json.Printer
import ShaderDiagnostics.Text.Quoted
import ShaderDiagnostics.Uri.Reference

/-!
# Faults of values

Why a JSON value is not what was expected of it, with the wording of each cause.
-/

namespace ShaderDiagnostics.Json

/-- Why a value cannot be read as what was expected. -/
inductive Fault where
  /-- A value of another kind. -/
  | wrongType (got : Json) (want : String)
  /-- An integer out of range. -/
  | outOfRange (got : Int) (want : String)
  /-- A list with too few items for the required fields. -/
  | tooShort (length : Nat) (want : String)
  /-- A list with more items than there are fields. -/
  | tooLong (length : Nat)
  /-- A required field that is missing. -/
  | missingField (name : String)
  /-- A word that is none of those expected. -/
  | unknownWord (got : String) (known : List String)
  /-- An object that should have had a single key. -/
  | notSingle
  /-- A value that fits none of the forms of a type. -/
  | noForm (type : String)
  /-- A text that is no URI. -/
  | badUri (fault : UriFault)

namespace Fault

/-- How a value is called. -/
def kindText : Json → String
  | .null => "null"
  | .bool b => if b then "boolean `true`" else "boolean `false`"
  | .int n => "integer `" ++ toString n ++ "`"
  | .float x => "floating point `" ++ x.text floatStyle ++ "`"
  | .str s => "string " ++ Text.quoted s
  | .arr _ => "sequence"
  | .obj _ => "map"

/-- Words between backticks: one, two, or a list of them. -/
def wordList : List String → String
  | [] => "there are no variants"
  | [a] => "expected `" ++ a ++ "`"
  | [a, b] => "expected `" ++ a ++ "` or `" ++ b ++ "`"
  | words => "expected one of " ++ String.intercalate ", " (words.map fun w => "`" ++ w ++ "`")

/-- The wording of a fault. -/
def message : Fault → String
  | wrongType got want => "invalid type: " ++ kindText got ++ ", expected " ++ want
  | outOfRange got want => "invalid value: integer `" ++ toString got ++ "`, expected " ++ want
  | tooShort n want => "invalid length " ++ toString n ++ ", expected " ++ want
  | tooLong n => "invalid length " ++ toString n ++ ", expected fewer elements in array"
  | missingField name => "missing field `" ++ name ++ "`"
  | unknownWord got known => "unknown variant `" ++ got ++ "`, " ++ wordList known
  | notSingle => "invalid value: map, expected map with a single key"
  | noForm type => "data did not match any variant of untagged enum " ++ type
  | badUri fault => fault.message

end Fault

end ShaderDiagnostics.Json
