import ShaderDiagnostics.Json.Printer
import ShaderDiagnostics.Text.Decimal
import ShaderDiagnostics.Text.Utf8

/-!
# Frames

Messages on a stream of bytes. Each follows a header: lines of a name and a value that end with a carriage
return and a line feed, and an empty line. One of them tells how many bytes the message has. A
message names the version of its format.
-/

namespace ShaderDiagnostics.Frame

/-- What a line of a header says. -/
inductive HeaderLine where
  /-- The header ends here. -/
  | blank
  /-- The length of the message in bytes. -/
  | length (bytes : Nat)
  /-- Anything else. -/
  | other
  deriving DecidableEq, Repr

/-- The name of the line about the length. -/
def lengthName : String := "Content-Length"

/-- Splits a line into its name and its value. -/
def nameAndValue? : List Char → Option (List Char × List Char)
  | [] => none
  | ':' :: ' ' :: rest => some ([], rest)
  | c :: rest => (nameAndValue? rest).map fun r => (c :: r.1, r.2)

/-- A line without the line break that has to end it. -/
def withoutBreak? : List Char → Option (List Char)
  | [] => none
  | ['\r', '\n'] => some []
  | c :: rest => (withoutBreak? rest).map (c :: ·)

/-- Lengths are below this bound. -/
def lengthBound : Nat := UInt64.size

/-- Reads a line of a header with its line break. -/
def HeaderLine.ofText? (line : List Char) : Option HeaderLine :=
  match withoutBreak? line with
  | none => none
  | some [] => some .blank
  | some s =>
    match nameAndValue? s with
    | none => none
    | some (name, value) =>
      if name.map Char.toLower = lengthName.toList.map Char.toLower then
        (Text.readNat lengthBound value).map length
      else some .other

/-- The length that a header tells; the last line about it counts. -/
def lengthOf? (header : List HeaderLine) : Option Nat :=
  header.foldl (fun found line =>
    match line with
    | .length n => some n
    | _ => found) none

/-- The value with the version of the message format in front. -/
def versioned : Json → Json
  | .obj members => .obj (("jsonrpc", .str "2.0") :: members)
  | j => j

/-- A message with its header. -/
def render (message : Json) : String :=
  let body := (versioned message).text
  lengthName ++ ": " ++ String.ofList (Text.natText (Text.bytesOf body).length) ++ "\r\n\r\n" ++ body

end ShaderDiagnostics.Frame
