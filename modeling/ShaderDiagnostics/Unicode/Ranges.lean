/-!
# Ranges of code points

Sets of characters as ascending lists of closed ranges of code points, and the written form of such
lists used by the property tables: ranges in hexadecimal, separated by blanks, a lone code point
standing for a range of one.
-/

namespace ShaderDiagnostics.Unicode

/-- Closed ranges of code points, disjoint and ascending. -/
abbrev Ranges := List (Nat × Nat)

namespace Ranges

/-- Whether a range holds the code point; the search stops at the first range above it. -/
def mem : Ranges → Nat → Bool
  | [], _ => false
  | (lo, hi) :: rest, c => if c < lo then false else c ≤ hi || mem rest c

/-- Whether a range holds the character. -/
def has (r : Ranges) (c : Char) : Bool := r.mem c.toNat

/-- The value of a hexadecimal digit in upper case. -/
def hexValue (c : Char) : Nat := if c.isDigit then c.toNat - 48 else c.toNat - 55

/-- A number in hexadecimal. -/
def hexNumber (s : List Char) : Nat := s.foldl (fun n c => 16 * n + hexValue c) 0

/-- One written range, `lo-hi`, or a lone code point. -/
def readRange (s : List Char) : Nat × Nat :=
  let lo := s.takeWhile (· != '-')
  match s.dropWhile (· != '-') with
  | [] => (hexNumber lo, hexNumber lo)
  | _ :: hi => (hexNumber lo, hexNumber hi)

/-- Splits at blanks. -/
def words : List Char → List (List Char)
  | [] => [[]]
  | c :: rest =>
    match words rest with
    | [] => [[c]]
    | w :: ws => if c == ' ' then [] :: w :: ws else (c :: w) :: ws

/-- Reads the pairs of several lines. -/
def readPairs (lines : List String) : List (Nat × Nat) :=
  lines.flatMap fun line => (words line.toList).map readRange

/-- Reads the ranges of several lines. -/
def read (lines : List String) : Ranges := readPairs lines

end Ranges

/-- The form in which names of properties and their values are compared: letters in lower case, no
blanks, hyphens or underscores, and no leading `is` (unless the name is `isc`, which is its own). -/
def looseName (name : List Char) : String :=
  let kept := name.filter fun c => c.toNat < 128 && c != ' ' && c != '_' && c != '-'
  let lower := kept.map Char.toLower
  match lower with
  | 'i' :: 's' :: rest => if rest == ['c'] || rest == [] then String.ofList lower else String.ofList rest
  | _ => String.ofList lower

end ShaderDiagnostics.Unicode
