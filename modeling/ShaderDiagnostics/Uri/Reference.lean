import ShaderDiagnostics.Text.Decimal

/-!
# URI references

The syntax of URI references (RFC 3986): a scheme, an authority, a path, a query and a fragment, made of
a small set of ASCII characters and percent-encoded octets. Reading one says where the first fault is.
-/

namespace ShaderDiagnostics

/-- Why a text is no URI reference, with the index of the byte at fault. -/
inductive UriFault where
  /-- A character that cannot stand there. -/
  | unexpectedChar (index : Nat)
  /-- A percent sign without two hexadecimal digits. -/
  | badOctet (index : Nat)
  /-- Brackets that do not hold an address. -/
  | badAddress (index : Nat)
  deriving DecidableEq, Repr

namespace UriFault

/-- The wording of a fault. -/
def message : UriFault → String
  | unexpectedChar i => s!"unexpected character at index {i}"
  | badOctet i => s!"invalid percent-encoded octet at index {i}"
  | badAddress i => s!"invalid IP literal at index {i}"

end UriFault

namespace Uri

/-- Characters that never need encoding. -/
def isUnreserved (c : Char) : Bool :=
  c.isAlphanum || c == '-' || c == '.' || c == '_' || c == '~'

/-- Delimiters with a meaning inside the parts. -/
def isSubDelim (c : Char) : Bool := "!$&'()*+,;=".toList.contains c

/-- Hexadecimal digits. -/
def isHexDigit (c : Char) : Bool :=
  c.isDigit || ('a' ≤ c && c ≤ 'f') || ('A' ≤ c && c ≤ 'F')

/-- Characters of schemes. -/
def isSchemeChar (c : Char) : Bool := c.isAlphanum || c == '+' || c == '-' || c == '.'

/-- Characters of registered names. -/
def isNameChar (c : Char) : Bool := isUnreserved c || isSubDelim c

/-- Characters of user information, which may contain colons. -/
def isUserChar (c : Char) : Bool := isNameChar c || c == ':'

/-- Characters of paths. -/
def isPathChar (c : Char) : Bool := isUserChar c || c == '@' || c == '/'

/-- Characters of queries and fragments. -/
def isQueryChar (c : Char) : Bool := isPathChar c || c == '?'

/-- What is left to read, with the index of its first character. -/
structure Rest where
  /-- The index. -/
  index : Nat
  /-- The characters. -/
  chars : List Char
  deriving DecidableEq, Repr

/-- The rest after some characters. -/
def Rest.drop (r : Rest) (n : Nat) : Rest := ⟨r.index + n, r.chars.drop n⟩

/-- Passes characters of a class and percent-encoded octets. -/
def scan (allowed : Char → Bool) (index : Nat) : List Char → Except UriFault Rest
  | [] => .ok ⟨index, []⟩
  | '%' :: a :: b :: rest =>
    if isHexDigit a && isHexDigit b then scan allowed (index + 3) rest
    else .error (.badOctet index)
  | c :: rest =>
    if c == '%' then .error (.badOctet index)
    else if allowed c then scan allowed (index + 1) rest
    else .ok ⟨index, c :: rest⟩

/-- Passes characters of a class. -/
def Rest.scan (r : Rest) (allowed : Char → Bool) : Except UriFault Rest :=
  Uri.scan allowed r.index r.chars

/-- Splits a text at every separator. -/
def splitAt (sep : Char) : List Char → List (List Char)
  | [] => [[]]
  | c :: rest =>
    if c == sep then [] :: splitAt sep rest
    else
      match splitAt sep rest with
      | [] => [[c]]
      | part :: parts => (c :: part) :: parts

/-- A number of an IPv4 address: no leading zero, below 256. -/
def isOctet (s : List Char) : Bool :=
  Text.isDigits s && Text.digitsValue s < 256 && (s.length == 1 || s.head? != some '0')

/-- An IPv4 address. -/
def isAddress4 (s : List Char) : Bool :=
  let parts := splitAt '.' s
  parts.length == 4 && parts.all isOctet

/-- A group of an IPv6 address. -/
def isGroup (s : List Char) : Bool := 1 ≤ s.length && s.length ≤ 4 && s.all isHexDigit

/-- The number of groups in a list of them, of which the last may be an IPv4 address that counts for
two. -/
def groupCount : List (List Char) → Option Nat
  | [] => some 0
  | [g] => if isGroup g then some 1 else if isAddress4 g then some 2 else none
  | g :: rest => if isGroup g then (groupCount rest).map (· + 1) else none

/-- The groups on one side of the double colon. -/
def sideCount (last : Bool) (s : List Char) : Option Nat :=
  if s.isEmpty then some 0
  else
    let parts := splitAt ':' s
    if last then groupCount parts
    else if parts.all isGroup then some parts.length
    else none

/-- Cuts a text at its first double colon. -/
def cutColons : List Char → Option (List Char × List Char)
  | ':' :: ':' :: rest => some ([], rest)
  | c :: rest => (cutColons rest).map fun r => (c :: r.1, r.2)
  | [] => none

/-- An IPv6 address. -/
def isAddress6 (s : List Char) : Bool :=
  match cutColons s with
  | none => sideCount true s == some 8
  | some (left, right) =>
    match sideCount false left, sideCount true right with
    | some l, some r => l + r ≤ 7
    | _, _ => false

/-- An address of a later version. -/
def isFutureAddress : List Char → Bool
  | v :: rest =>
    let version := rest.takeWhile isHexDigit
    (v == 'v' || v == 'V') && !version.isEmpty &&
      match rest.dropWhile isHexDigit with
      | '.' :: address => !address.isEmpty && address.all isUserChar
      | _ => false
  | [] => false

/-- An address in brackets. -/
def address (r : Rest) : Except UriFault Rest :=
  let inside := r.chars.drop 1 |>.takeWhile (· != ']')
  let closed := inside.length + 2 ≤ r.chars.length
  if closed && (isAddress6 inside || isFutureAddress inside) then .ok (r.drop (inside.length + 2))
  else .error (.badAddress r.index)

/-- A port, if a colon announces one. -/
def port (r : Rest) : Rest :=
  match r.chars with
  | ':' :: rest => r.drop (1 + (rest.takeWhile Char.isDigit).length)
  | _ => r

/-- A host and its port. -/
def hostPort (r : Rest) : Except UriFault Rest :=
  match r.chars with
  | '[' :: _ => (address r).map port
  | _ => (r.scan isNameChar).map port

/-- The index of the last character that is no digit. -/
def lastNonDigit (r : Rest) (length : Nat) : Option (Nat × Char) :=
  let part := r.chars.take length
  let digits := (part.reverse.takeWhile Char.isDigit).length
  match part.reverse.drop digits with
  | [] => none
  | c :: before => some (r.index + before.length, c)

/-- An authority: user information up to an at sign, then a host and a port. -/
def authority (r : Rest) : Except UriFault Rest := do
  let after ← r.scan isUserChar
  let length := after.index - r.index
  match after.chars with
  | '@' :: _ => hostPort (after.drop 1)
  | _ =>
    if length == 0 then
      match after.chars with
      | '[' :: _ => hostPort after
      | _ => .ok after
    else
      match (r.chars.take length).count ':' with
      | 0 => .ok after
      | 1 =>
        match lastNonDigit r length with
        | some (i, c) => if c == ':' then .ok after else .error (.unexpectedChar i)
        | none => .ok after
      | _ => .error (.unexpectedChar r.index)

/-- A query and a fragment, and then the end of the text. -/
def tail (r : Rest) : Except UriFault Unit := do
  let r ← match r.chars with
    | '?' :: _ => (r.drop 1).scan isQueryChar
    | _ => .ok r
  let r ← match r.chars with
    | '#' :: _ => (r.drop 1).scan isQueryChar
    | _ => .ok r
  match r.chars with
  | [] => .ok ()
  | _ => .error (.unexpectedChar r.index)

/-- A path after an authority: empty, or starting with a slash. -/
def pathAfterAuthority (r : Rest) : Except UriFault Unit := do
  let after ← r.scan isPathChar
  if after.index != r.index && r.chars.head? != some '/' then .error (.unexpectedChar r.index)
  else tail after

/-- What follows a scheme, or two slashes at the start. -/
def hierarchy (r : Rest) : Except UriFault Unit := do
  match r.chars with
  | '/' :: '/' :: _ => do
    let r ← authority (r.drop 2)
    pathAfterAuthority r
  | _ => do
    let r ← r.scan isPathChar
    tail r

/-- A path without a scheme, whose first segment holds no colon. -/
def relative (r : Rest) : Except UriFault Unit := do
  let after ← r.scan fun c => isPathChar c && c != ':' && c != '/'
  match after.chars with
  | ':' :: _ => .error (.unexpectedChar after.index)
  | _ => do
    let after ← after.scan isPathChar
    tail after

/-- Reads a URI reference. -/
def check (s : List Char) : Except UriFault Unit :=
  let scheme := s.takeWhile isSchemeChar
  match s.dropWhile isSchemeChar with
  | ':' :: rest =>
    match scheme with
    | c :: _ =>
      if c.isAlpha then hierarchy ⟨scheme.length + 1, rest⟩ else .error (.unexpectedChar 0)
    | [] => .error (.unexpectedChar 0)
  | rest =>
    match scheme, rest with
    | [], '/' :: '/' :: _ => hierarchy ⟨0, rest⟩
    | _, _ => relative ⟨scheme.length, rest⟩

end Uri

/-- A URI reference. -/
structure Uri where
  /-- The text. -/
  text : String
  /-- The text is a URI reference. -/
  valid : Uri.check text.toList = .ok ()
  deriving DecidableEq

/-- The URI reference that a text is. -/
def Uri.ofString (s : String) : Except UriFault Uri :=
  match h : Uri.check s.toList with
  | .ok () => .ok ⟨s, h⟩
  | .error e => .error e

end ShaderDiagnostics
