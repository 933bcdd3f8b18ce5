import ShaderDiagnostics.Path
import ShaderDiagnostics.Uri.Reference

/-!
# File URIs

Documents travel as `file` URIs and are kept under paths. Reading a URI follows the parsing of file URLs:
dot segments are resolved, also when their dots are percent-encoded, drive letters survive them, leading
slashes collapse, query and fragment do not count, and the host is empty or the local one. Writing a path
encodes every byte that a path segment may not hold, leaving four ASCII characters bare that make the
result no URI at all.
-/

namespace ShaderDiagnostics.Uri

/-! ### From URIs to paths -/

/-- Two characters that name a drive, a letter and a colon. -/
def isDrive : List Char → Bool
  | [c, ':'] => c.isAlpha
  | _ => false

/-- A segment in lower case, if it is short enough to stand for dots. -/
def dotForm (segment : List Char) : String :=
  if segment.length ≤ 6 then String.ofList (segment.map Char.toLower) else ""

/-- Segments that stand for the same directory. -/
def isSingleDot (segment : List Char) : Bool := [".", "%2e"].contains (dotForm segment)

/-- Segments that stand for the parent directory. -/
def isDoubleDot (segment : List Char) : Bool :=
  ["..", ".%2e", "%2e.", "%2e%2e"].contains (dotForm segment)

/-- Removes the last of the segments, latest first, unless it names a drive. -/
def popSegment : List (List Char) → List (List Char)
  | [] => []
  | last :: rest => if isDrive last then last :: rest else rest

/-- Resolves the dots of the segments. `done` holds the segments resolved so far, latest first; a dot
segment at the end leaves an empty one. Empty segments at the root vanish. -/
def resolve (done : List (List Char)) : List (List Char) → List (List Char)
  | [] => done.reverse
  | segment :: rest =>
    if isDoubleDot segment then
      let done := popSegment done
      if rest.isEmpty then ([] :: done).reverse else resolve done rest
    else if isSingleDot segment then
      if rest.isEmpty then ([] :: done).reverse else resolve done rest
    else resolve (segment :: done) rest

/-- The segments of a path, which may start with a slash. -/
def segments (path : List Char) : List (List Char) :=
  let parts :=
    match path with
    | '/' :: rest => splitAt '/' rest
    | path => splitAt '/' path
  match (resolve [] parts).dropWhile (·.isEmpty) with
  | [] => [[]]
  | parts => parts

/-- The value of a hexadecimal digit. -/
def hexValue (c : Char) : Nat :=
  if c.isDigit then c.toNat - 48 else if c.toNat < 97 then c.toNat - 55 else c.toNat - 87

/-- The bytes of percent-encoded characters. -/
def percentDecode : List Char → List UInt8
  | '%' :: a :: b :: rest =>
    if isHexDigit a && isHexDigit b then
      (16 * hexValue a + hexValue b).toUInt8 :: percentDecode rest
    else 37 :: percentDecode (a :: b :: rest)
  | c :: rest => Text.encodeChar c ++ percentDecode rest
  | [] => []

/-- Adds a slash behind bytes that end like a drive, so that they name its root. -/
def closeDrive (bytes : List UInt8) : List UInt8 :=
  match bytes.reverse with
  | colon :: letter :: _ :: _ =>
    if (Char.ofNat letter.toNat).isAlpha && (colon == 58 || colon == 124) then
      bytes ++ [Path.slash]
    else bytes
  | _ => bytes

/-- The path of resolved segments. -/
def pathOfSegments (parts : List (List Char)) : Path :=
  ⟨closeDrive (parts.flatMap fun part => Path.slash :: percentDecode part)⟩

/-- Whether the host is missing or the local one. -/
def isLocalHost (host : List Char) : Bool :=
  host.isEmpty ||
    (percentDecode host).map (fun b => (Char.ofNat b.toNat).toLower) == "localhost".toList

/-- The path of a file URL after its scheme, unless it names another host. -/
def pathAfterScheme (s : List Char) : Option Path :=
  let isEnd (c : Char) : Bool := c == '?' || c == '#'
  match s with
  | '/' :: '/' :: rest =>
    let host := rest.takeWhile fun c => c != '/' && !isEnd c
    let path := (rest.dropWhile fun c => c != '/' && !isEnd c).takeWhile (!isEnd ·)
    if isDrive host then some (pathOfSegments (segments (rest.takeWhile (!isEnd ·))))
    else if isLocalHost host then some (pathOfSegments (segments path))
    else none
  | s => some (pathOfSegments (segments (s.takeWhile (!isEnd ·))))

/-- The path that a URI names, if it is a local file. -/
def path? (u : Uri) : Option Path :=
  let s := u.text.toList
  if (s.takeWhile (· != ':')).map Char.toLower == "file".toList then
    match s.dropWhile (· != ':') with
    | _ :: rest => pathAfterScheme rest
    | [] => none
  else none

/-! ### From paths to URIs -/

/-- Bytes that a segment of a file URL holds as they are. -/
def isBare (b : UInt8) : Bool :=
  0x21 ≤ b && b ≤ 0x7E && !(Text.bytesOf "\"#<>?`\x7b\x7d/\\%").contains b

/-- A hexadecimal digit in upper case. -/
def upperHex (n : Nat) : Char := if n < 10 then Char.ofNat (48 + n) else Char.ofNat (55 + n)

/-- One byte of a segment. -/
def encodeByte (b : UInt8) : List Char :=
  if isBare b then [Char.ofNat b.toNat]
  else ['%', upperHex (b.toNat / 16), upperHex (b.toNat % 16)]

/-- The bytes that a component is spelled with. -/
def componentBytes : Path.Component → List UInt8
  | .root => []
  | .current => [Path.dot]
  | .parent => [Path.dot, Path.dot]
  | .name bytes => bytes

/-- The text of the file URL of an absolute path. -/
def fileText (p : Path) : List Char :=
  let parts := p.components.drop 1
  "file://".toList ++
    (if parts.isEmpty then ['/']
    else parts.flatMap fun part => '/' :: (componentBytes part).flatMap encodeByte)

/-- The URI of a path, if it is absolute and its URL is a URI. -/
def ofPath? (p : Path) : Option Uri :=
  if p.isAbsolute then (Uri.ofString (String.ofList (fileText p))).toOption else none

end ShaderDiagnostics.Uri
