/-!
# Decimal numbers

Reading an unsigned number: an optional plus sign, then one or more ASCII digits, and a value below the
given bound. Leading zeros are allowed.
-/

namespace ShaderDiagnostics.Text

/-- The value of an ASCII digit. -/
def digitValue (c : Char) : Nat := c.toNat - 48

/-- The value of a string of digits. -/
def digitsValue (s : List Char) : Nat := s.foldl (fun n c => 10 * n + digitValue c) 0

/-- Whether the text is one or more ASCII digits. -/
def isDigits (s : List Char) : Bool := !s.isEmpty && s.all Char.isDigit

/-- A number without its plus sign. -/
def dropPlus : List Char → List Char
  | '+' :: rest => rest
  | s => s

/-- Reads an unsigned number below `bound`. -/
def readNat (bound : Nat) (s : List Char) : Option Nat :=
  let digits := dropPlus s
  if isDigits digits && digitsValue digits < bound then some (digitsValue digits) else none

/-- The decimal digits of a number. -/
def natText (n : Nat) : List Char := Nat.toDigits 10 n

end ShaderDiagnostics.Text
