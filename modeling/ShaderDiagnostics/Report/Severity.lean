import ShaderDiagnostics.Diagnostic

/-!
# Severities in reports

A report line starts with words that say how bad it is. Only keywords inside them count, in upper or
lower case, and the worst one wins.
-/

namespace ShaderDiagnostics.Report

/-- The upper case of a character, as far as ASCII letters are concerned: characters whose upper case
has none stand for themselves, since no keyword can contain them. -/
def upperChar (c : Char) : List Char :=
  match c.toNat with
  | 0xDF => ['S', 'S']
  | 0x131 => ['I']
  | 0x149 => ['\u02bc', 'N']
  | 0x17F => ['S']
  | 0x1F0 => ['J', '\u030c']
  | 0x1E96 => ['H', '\u0331']
  | 0x1E97 => ['T', '\u0308']
  | 0x1E98 => ['W', '\u030a']
  | 0x1E99 => ['Y', '\u030a']
  | 0x1E9A => ['A', '\u02be']
  | 0xFB00 => ['F', 'F']
  | 0xFB01 => ['F', 'I']
  | 0xFB02 => ['F', 'L']
  | 0xFB03 => ['F', 'F', 'I']
  | 0xFB04 => ['F', 'F', 'L']
  | 0xFB05 => ['S', 'T']
  | 0xFB06 => ['S', 'T']
  | _ => [c.toUpper]

/-- The upper case of a text. -/
def upper (s : List Char) : List Char := s.flatMap upperChar

/-- Whether the text contains the other one. -/
def contains (s part : List Char) : Bool :=
  match s with
  | [] => part.isEmpty
  | c :: rest => part.isPrefixOf (c :: rest) || contains rest part

/-- The keywords of severities, the worst first. -/
def keywords : List (String × Severity) :=
  [("ERROR", .error), ("WARNING", .warning), ("UNIMPLEMENTED", .information), ("NOTE", .hint)]

/-- The severity that a token stands for: that of the first keyword in its upper case. -/
def severityOf (token : List Char) : Option Severity :=
  let token := upper token
  (keywords.find? fun k => contains token k.1.toList).map (·.2)

end ShaderDiagnostics.Report
