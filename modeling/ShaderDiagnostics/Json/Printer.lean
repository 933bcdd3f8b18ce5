import ShaderDiagnostics.Json.Value

/-!
# Writing JSON

The compact text of a value: no blanks, members in the order of the object. Strings escape the quote, the
backslash and control characters; with `careful`, also those characters that some readers take for line
breaks or drop.
-/

namespace ShaderDiagnostics.Json

open Number

/-- Whole floating point numbers keep a decimal point, and an exponent is signed. -/
def floatStyle : FloatStyle := ⟨-5, 15, "+"⟩

/-- A code unit as four hexadecimal digits. -/
def hex4 (n : Nat) : List Char :=
  let digit (k : Nat) : Char := if k < 10 then Char.ofNat (48 + k) else Char.ofNat (87 + k)
  [digit (n / 4096 % 16), digit (n / 256 % 16), digit (n / 16 % 16), digit (n % 16)]

/-- Characters that are escaped only to be safe. -/
def isDelicate (c : Char) : Bool :=
  let n := c.toNat
  (0x7F ≤ n && n ≤ 0x9F) || n == 0x2028 || n == 0x2029 || n == 0xFEFF

/-- One character of a string. -/
def escapeChar (careful : Bool) (c : Char) : List Char :=
  match c with
  | '"' => ['\\', '"']
  | '\\' => ['\\', '\\']
  | '\n' => ['\\', 'n']
  | '\r' => ['\\', 'r']
  | '\t' => ['\\', 't']
  | '\x08' => ['\\', 'b']
  | '\x0c' => ['\\', 'f']
  | c =>
    if c.toNat < 32 || (careful && isDelicate c) then ['\\', 'u'] ++ hex4 c.toNat else [c]

/-- A string between quotes. -/
def quote (careful : Bool) (s : String) : String :=
  "\"" ++ s.toList.foldl (fun acc c => (escapeChar careful c).foldl String.push acc) "" ++ "\""

/-- Texts between commas. -/
def commas : List String → String
  | [] => ""
  | [s] => s
  | s :: rest => s ++ "," ++ commas rest

mutual

/-- The text of a value. -/
def render (careful : Bool) : Json → String
  | .null => "null"
  | .bool b => if b then "true" else "false"
  | .int n => toString n
  | .float x => x.text floatStyle
  | .str s => quote careful s
  | .arr items => "[" ++ commas (renderItems careful items) ++ "]"
  | .obj members => "\x7b" ++ commas (renderMembers careful members) ++ "\x7d"

/-- The texts of the items of a list. -/
def renderItems (careful : Bool) : List Json → List String
  | [] => []
  | j :: rest => render careful j :: renderItems careful rest

/-- The texts of the members of an object. -/
def renderMembers (careful : Bool) : List (String × Json) → List String
  | [] => []
  | (k, j) :: rest => (quote careful k ++ ":" ++ render careful j) :: renderMembers careful rest

end

/-- The compact text of a value. -/
def text (j : Json) : String := j.render false

/-- The compact text of a value, with delicate characters escaped. -/
def carefulText (j : Json) : String := j.render true

end ShaderDiagnostics.Json
