import ShaderDiagnostics.Unicode.Category
import ShaderDiagnostics.Unicode.Property

/-!
# Quoted text

The form in which a message shows a piece of text: between double quotes, with the quote, the
backslash and the common control characters escaped by a letter, and every character that would not
show as a character of its own written as its code point.
-/

namespace ShaderDiagnostics.Text

open ShaderDiagnostics.Unicode

/-- Characters without a picture of their own: controls, formats, private, unassigned and separators
other than the space, and those that extend the character before them. -/
def isUnprintable (c : Char) : Bool :=
  if c.toNat < 127 then c.toNat < 32
  else
    ["cc", "cf", "cs", "co", "cn", "zl", "zp", "zs"].any (fun g => (category g).has c) ||
      (property "graphemeextend").has c

/-- The lower-case hexadecimal digits of a number. -/
def hexText (n : Nat) : List Char := Nat.toDigits 16 n

/-- One character inside quotes. -/
def quoteChar (c : Char) : List Char :=
  match c with
  | '"' => ['\\', '"']
  | '\\' => ['\\', '\\']
  | '\n' => ['\\', 'n']
  | '\r' => ['\\', 'r']
  | '\t' => ['\\', 't']
  | '\x00' => ['\\', '0']
  | c => if isUnprintable c then ['\\', 'u', '\x7b'] ++ hexText c.toNat ++ ['\x7d'] else [c]

/-- The quoted form of a text. -/
def quoted (s : String) : String :=
  String.ofList (['"'] ++ s.toList.flatMap quoteChar ++ ['"'])

end ShaderDiagnostics.Text
