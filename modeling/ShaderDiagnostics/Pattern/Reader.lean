import ShaderDiagnostics.Pattern.Basic
import ShaderDiagnostics.Unicode.CaseFolding
import ShaderDiagnostics.Text.Blank
import ShaderDiagnostics.Text.Decimal

/-!
# Reading patterns

The written form of patterns: alternatives separated by bars, repetitions, groups (numbered, named or
with flags), character classes with ranges, set operations and named sets, escapes and anchors. A text
that is not such a form is no pattern; why it is not does not matter to anyone here. Neither look-around
nor references to groups exist.

Patterns that nest deeper than `nestLimit` or whose repetitions unfold to more than `sizeLimit` parts
are refused.
-/

namespace ShaderDiagnostics.Pattern

open Unicode

/-- The deepest nesting of a pattern. -/
def nestLimit : Nat := 250

/-- The most parts a pattern may unfold to. -/
def sizeLimit : Nat := 327680

/-- How the rest of a group is to be read. -/
structure Flags where
  /-- Letters match in both cases. -/
  ignoreCase : Bool
  /-- The anchors `^` and `$` also match at line breaks. -/
  multiLine : Bool
  /-- The dot also matches a line feed. -/
  dotAll : Bool
  /-- Repetitions are lazy unless marked, and greedy when marked. -/
  swapGreed : Bool
  /-- Classes and cases are those of Unicode; otherwise those of ASCII. -/
  unicode : Bool
  /-- A carriage return is part of a line break. -/
  crlf : Bool
  /-- Blanks and comments between the parts are skipped. -/
  verbose : Bool

/-- The flags at the start of a pattern. -/
def Flags.initial : Flags := ⟨false, false, false, false, true, false, false⟩

/-- Sets the flag of a letter. -/
def Flags.set (f : Flags) (c : Char) (on : Bool) : Option Flags :=
  match c with
  | 'i' => some { f with ignoreCase := on }
  | 'm' => some { f with multiLine := on }
  | 's' => some { f with dotAll := on }
  | 'U' => some { f with swapGreed := on }
  | 'u' => some { f with unicode := on }
  | 'R' => some { f with crlf := on }
  | 'x' => some { f with verbose := on }
  | _ => none

/-! ### Characters and blanks -/

/-- Skips blanks and comments; `inside` says that a comment is open. -/
def skipComments (inside : Bool) : List Char → List Char
  | [] => []
  | c :: rest =>
    if inside then skipComments (c != '\n') rest
    else if Text.isBlank c then skipComments false rest
    else if c == '#' then skipComments true rest
    else c :: rest

/-- Skips blanks and comments in verbose patterns. -/
def skip (verbose : Bool) (s : List Char) : List Char := if verbose then skipComments false s else s

/-- The characters up to `stop`, and what follows it. -/
def takeUntil (verbose : Bool) (stop : Char) : Nat → List Char → Option (List Char × List Char)
  | 0, _ => none
  | n + 1, s =>
    match skip verbose s with
    | [] => none
    | c :: rest =>
      if c == stop then some ([], rest)
      else (takeUntil verbose stop n rest).map fun r => (c :: r.1, r.2)

/-- Up to `count` characters of a class, blanks skipped between them. -/
def takeSome (verbose : Bool) (chars : CharClass) : Nat → List Char → List Char × List Char
  | 0, s => ([], s)
  | n + 1, s =>
    match s with
    | [] => ([], [])
    | c :: rest =>
      if chars c then
        let r := takeSome verbose chars n (skip verbose rest)
        (c :: r.1, r.2)
      else ([], s)

/-- Hexadecimal digits. -/
def isHex (c : Char) : Bool :=
  c.isDigit || ('a' ≤ c && c ≤ 'f') || ('A' ≤ c && c ≤ 'F')

/-- The value of a hexadecimal digit. -/
def hexDigit (c : Char) : Nat :=
  if c.isDigit then c.toNat - 48 else if c.toNat < 97 then c.toNat - 55 else c.toNat - 87

/-- The character with a hexadecimal code point. -/
def hexChar (digits : List Char) : Option Char :=
  let n := digits.foldl (fun n c => 16 * n + hexDigit c) 0
  if digits.isEmpty || !digits.all isHex then none
  else if n < 0xD800 || (0xE000 ≤ n && n < 0x110000) then some (Char.ofNat n)
  else none

/-- A class without regard to case, where the flags ask for it. -/
def Flags.fold (f : Flags) (chars : CharClass) : CharClass :=
  if !f.ignoreCase then chars
  else if f.unicode then fun c => (caseVariants c).any chars
  else fun c => chars c || (c.isAlpha && (chars c.toLower || chars c.toUpper))

/-! ### Escapes -/

/-- What a single character or an escape stands for. -/
inductive Primitive where
  /-- A character. -/
  | char (c : Char)
  /-- A class of characters. -/
  | chars (chars : CharClass)
  /-- An anchor. -/
  | anchor (a : Anchor)

/-- The word characters under the flags. -/
def Flags.word (f : Flags) : CharClass :=
  if f.unicode then isWord else fun c => c.isAlphanum || c == '_'

/-- The class of a letter escape. Without Unicode its complement would hold bytes that are no
characters, so it is refused. -/
def letterClass (f : Flags) (letter : Char) : Option CharClass :=
  let chars : CharClass :=
    match letter.toLower with
    | 'd' => if f.unicode then isDecimalDigit else Char.isDigit
    | 's' => if f.unicode then Text.isBlank else fun c => c == ' ' || (9 ≤ c.toNat && c.toNat ≤ 13)
    | _ => f.word
  if letter.isLower then some chars
  else if f.unicode then some fun c => !chars c
  else none

/-- Cuts a name at the first occurrence of a separator. -/
def cutAt (sep : List Char) : List Char → Option (List Char × List Char)
  | [] => none
  | c :: rest =>
    if sep.isPrefixOf (c :: rest) then some ([], (c :: rest).drop sep.length)
    else (cutAt sep rest).map fun r => (c :: r.1, r.2)

/-- The class asked for by name, or by a property and a value. -/
def namedClass (name : List Char) : Option CharClass :=
  match cutAt ['!', '='] name with
  | some (p, v) => (classValued (looseName p) (looseName v)).map fun chars c => !chars c
  | none =>
    match cutAt [':'] name with
    | some (p, v) => classValued (looseName p) (looseName v)
    | none =>
      match cutAt ['='] name with
      | some (p, v) => classValued (looseName p) (looseName v)
      | none => classNamed (looseName name)

/-- The rest of a class asked for by name. -/
def unicodeClass (f : Flags) (negated : Bool) (s : List Char) : Option (CharClass × List Char) := do
  let (name, rest) ←
    match skip f.verbose s with
    | [] => none
    | '\x7b' :: rest => takeUntil f.verbose '\x7d' (rest.length + 1) rest
    | '\\' :: _ => none
    | c :: rest => some ([c], skip f.verbose rest)
  let chars ← if f.unicode then namedClass name else none
  let folded := f.fold chars
  some (if negated then fun c => !folded c else folded, rest)

/-- A word boundary, which a name in braces may make a half of one. Braces that do not start with a
letter or a hyphen are left for a repetition. -/
def wordBoundary (f : Flags) (s : List Char) : Option (Anchor × List Char) :=
  let isNameChar (c : Char) : Bool := c.isAlpha || c == '-'
  match s with
  | '\x7b' :: rest =>
    match skip f.verbose rest with
    | [] => none
    | c :: inside =>
      if !isNameChar c then some (.boundary f.word, s)
      else
        let (name, after) := takeSome f.verbose isNameChar (c :: inside).length (c :: inside)
        match after with
        | '\x7d' :: after =>
          let name := String.ofList name
          if name == "start" then some (.wordStart f.word, after)
          else if name == "end" then some (.wordEnd f.word, after)
          else if name == "start-half" then some (.freeBefore f.word, after)
          else if name == "end-half" then some (.freeAfter f.word, after)
          else none
        | _ => none
  | s => some (.boundary f.word, s)

/-- A character given by its code point, after the letter that says how many digits it has. -/
def hexEscape (verbose : Bool) (digits : Nat) (s : List Char) : Option (Char × List Char) :=
  match skip verbose s with
  | '\x7b' :: rest => do
    let (inside, after) ← takeUntil verbose '\x7d' (rest.length + 1) rest
    let c ← hexChar inside
    some (c, skip verbose after)
  | s =>
    let (inside, after) := takeSome verbose isHex digits s
    if inside.length == digits then (hexChar inside).map fun c => (c, skip verbose after) else none

/-- What follows a backslash. -/
def escape (f : Flags) : List Char → Option (Primitive × List Char)
  | [] => none
  | c :: rest =>
    match c with
    | 'x' => (hexEscape f.verbose 2 rest).map fun r => (.char r.1, r.2)
    | 'u' => (hexEscape f.verbose 4 rest).map fun r => (.char r.1, r.2)
    | 'U' => (hexEscape f.verbose 8 rest).map fun r => (.char r.1, r.2)
    | 'p' => (unicodeClass f false rest).map fun r => (.chars r.1, r.2)
    | 'P' => (unicodeClass f true rest).map fun r => (.chars r.1, r.2)
    | 'd' | 's' | 'w' | 'D' | 'S' | 'W' => (letterClass f c).map fun p => (.chars p, rest)
    | 'a' => some (.char '\x07', rest)
    | 'f' => some (.char '\x0c', rest)
    | 't' => some (.char '\t', rest)
    | 'n' => some (.char '\n', rest)
    | 'r' => some (.char '\r', rest)
    | 'v' => some (.char '\x0b', rest)
    | 'A' => some (.anchor .textStart, rest)
    | 'z' => some (.anchor .textEnd, rest)
    | 'b' => (wordBoundary f rest).map fun r => (.anchor r.1, r.2)
    | 'B' => some (.anchor (.inner f.word), rest)
    | '<' => some (.anchor (.wordStart f.word), rest)
    | '>' => some (.anchor (.wordEnd f.word), rest)
    | c => if c.toNat < 128 && !c.isAlphanum then some (.char c, rest) else none

/-- A character as it stands, or an escape. -/
def primitive (f : Flags) : List Char → Option (Primitive × List Char)
  | '\\' :: rest => escape f rest
  | c :: rest => some (.char c, rest)
  | [] => none

/-! ### Classes in brackets -/

/-- The sets of ASCII characters that have a name inside brackets. -/
def asciiClass (name : String) : Option CharClass :=
  let isPrint (c : Char) : Bool := 32 ≤ c.toNat && c.toNat ≤ 126
  let isGraph (c : Char) : Bool := 33 ≤ c.toNat && c.toNat ≤ 126
  match name with
  | "alnum" => some Char.isAlphanum
  | "alpha" => some Char.isAlpha
  | "ascii" => some fun c => c.toNat < 128
  | "blank" => some fun c => c == ' ' || c == '\t'
  | "cntrl" => some fun c => c.toNat < 32 || c.toNat == 127
  | "digit" => some Char.isDigit
  | "graph" => some isGraph
  | "lower" => some Char.isLower
  | "print" => some isPrint
  | "punct" => some fun c => isGraph c && !c.isAlphanum
  | "space" => some fun c => c == ' ' || (9 ≤ c.toNat && c.toNat ≤ 13)
  | "upper" => some Char.isUpper
  | "word" => some fun c => c.isAlphanum || c == '_'
  | "xdigit" => some isHex
  | _ => none

/-- A named ASCII set at an opening bracket inside brackets, if there is one. -/
def asciiItem (f : Flags) : List Char → Option (CharClass × List Char)
  | '[' :: ':' :: rest =>
    let (negated, rest) :=
      match rest with
      | '^' :: rest => (true, rest)
      | rest => (false, rest)
    let name := rest.takeWhile (· != ':')
    match rest.dropWhile (· != ':') with
    | ':' :: ']' :: after =>
      (asciiClass (String.ofList name)).map fun chars =>
        let folded := f.fold chars
        (if negated then fun c => !folded c else folded, after)
    | _ => none
  | _ => none

/-- A class under construction: its characters, how deep it nests, and of how many items it is made. -/
structure ClassPart where
  /-- The characters. -/
  chars : CharClass
  /-- The depth of nesting. -/
  depth : Nat
  /-- The number of items joined at this level. -/
  items : Nat

/-- The class without any character. -/
def ClassPart.none_ : ClassPart := ⟨fun _ => false, 0, 0⟩

/-- Adds an item. -/
def ClassPart.join (a : ClassPart) (chars : CharClass) (depth : Nat) : ClassPart :=
  ⟨fun c => a.chars c || chars c, max a.depth depth, a.items + 1⟩

/-- The depth of a list of items, of which two or more count as a level. -/
def ClassPart.level (a : ClassPart) : Nat := if a.items < 2 then a.depth else a.depth + 1

/-- The operations between the parts of a class. -/
inductive ClassOp where
  /-- In both. -/
  | inter
  /-- In the first only. -/
  | minus
  /-- In exactly one. -/
  | xor

/-- Joins two parts by an operation. -/
def ClassOp.apply (op : ClassOp) (f : Flags) (a b : ClassPart) : ClassPart :=
  let l := f.fold a.chars
  let r := f.fold b.chars
  let chars : CharClass :=
    match op with
    | .inter => fun c => l c && r c
    | .minus => fun c => l c && !r c
    | .xor => fun c => l c != r c
  ⟨chars, max a.level b.level + 1, 1⟩

/-- What has been read of a class in brackets. -/
structure ClassFrame where
  /-- The part before the latest operation, with the operation. -/
  left : Option (ClassPart × ClassOp)
  /-- The items since then. -/
  current : ClassPart

/-- The characters read so far. -/
def ClassFrame.close (fr : ClassFrame) (f : Flags) : ClassPart :=
  match fr.left with
  | none => ⟨fr.current.chars, fr.current.level, 1⟩
  | some (a, op) => op.apply f a fr.current

/-- Whether a class may hold the character: without Unicode, only ASCII. -/
def Flags.admits (f : Flags) (c : Char) : Bool := f.unicode || c.toNat < 128

/-- One character, escape or range inside brackets. A hyphen before a closing bracket or before another
hyphen makes no range. -/
def classItem (f : Flags) (s : List Char) : Option (CharClass × List Char) := do
  let (first, rest) ← primitive f s
  let single (p : Primitive) : Option CharClass :=
    match p with
    | .char c => if f.admits c then some (· == c) else none
    | .chars chars => some chars
    | .anchor _ => none
  match skip f.verbose rest with
  | [] => none
  | '-' :: more =>
    match skip f.verbose more with
    | [] => none
    | ']' :: _ => (single first).map fun p => (p, '-' :: more)
    | '-' :: _ => (single first).map fun p => (p, '-' :: more)
    | more =>
      let (second, rest) ← primitive f more
      match first, second with
      | .char a, .char b =>
        if a ≤ b && f.admits a && f.admits b then some (fun c => a ≤ c && c ≤ b, rest) else none
      | _, _ => none
  | rest => (single first).map fun p => (p, rest)

/-- The start of a class: whether it is negated, the hyphens and the closing bracket that count as
characters there, and the rest. -/
def classOpen (f : Flags) (s : List Char) : Option (Bool × ClassPart × List Char) :=
  let rec hyphens (part : ClassPart) : Nat → List Char → ClassPart × List Char
    | 0, s => (part, s)
    | n + 1, s =>
      match s with
      | '-' :: rest => hyphens (part.join (· == '-') 0) n (skip f.verbose rest)
      | s => (part, s)
  match skip f.verbose s with
  | [] => none
  | c :: rest =>
    let negated := c == '^'
    let body := if negated then skip f.verbose rest else c :: rest
    let (part, body) := hyphens ClassPart.none_ body.length body
    match body with
    | [] => none
    | ']' :: rest =>
      if part.items == 0 then
        match skip f.verbose rest with
        | [] => none
        | rest => some (negated, part.join (· == ']') 0, rest)
      else some (negated, part, ']' :: rest)
    | body => some (negated, part, body)

/-- The rest of a class in brackets after its start: its characters, its depth, and what follows. -/
def classRest (f : Flags) : Nat → Bool → ClassFrame → List Char → Option (CharClass × Nat × List Char)
  | 0, _, _, _ => none
  | n + 1, negated, fr, s =>
    let join (chars : CharClass) (depth : Nat) : ClassFrame :=
      { fr with current := fr.current.join chars depth }
    match skip f.verbose s with
    | [] => none
    | ']' :: rest =>
      let part := fr.close f
      let folded := f.fold part.chars
      if negated && !f.unicode then none
      else some (if negated then fun c => !folded c else folded, part.depth + 1, rest)
    | '[' :: rest =>
      match asciiItem f ('[' :: rest) with
      | some (chars, rest) => classRest f n negated (join chars 0) rest
      | none => do
        let (inner, part, rest) ← classOpen f rest
        let (chars, depth, rest) ← classRest f n inner ⟨none, part⟩ rest
        classRest f n negated (join chars depth) rest
    | '&' :: '&' :: rest => classRest f n negated ⟨some (fr.close f, .inter), .none_⟩ rest
    | '-' :: '-' :: rest => classRest f n negated ⟨some (fr.close f, .minus), .none_⟩ rest
    | '~' :: '~' :: rest => classRest f n negated ⟨some (fr.close f, .xor), .none_⟩ rest
    | s => do
      let (chars, rest) ← classItem f s
      classRest f n negated (join chars 0) rest

/-! ### Groups and repetitions -/

/-- A part of a pattern with its nesting depth and the number of parts it unfolds to. Directives that
only set flags cannot be repeated. -/
structure Piece where
  /-- The pattern. -/
  pattern : Pattern
  /-- The depth of nesting. -/
  depth : Nat
  /-- The number of parts after unfolding. -/
  size : Nat
  /-- Whether a repetition may follow. -/
  repeatable : Bool

/-- A single part. -/
def Piece.single (p : Pattern) : Piece := ⟨p, 0, 1, true⟩

/-- The deepest of some pieces, one more when there are two or more. -/
def Piece.depthOf (pieces : List Piece) : Nat :=
  let deepest := pieces.foldl (fun d p => max d p.depth) 0
  if pieces.length < 2 then deepest else deepest + 1

/-- The size of some pieces together. -/
def Piece.sizeOf (pieces : List Piece) : Nat := pieces.foldl (fun n p => n + p.size) 1

/-- What has been read of a group: the parts of the current alternative and the alternatives before it,
latest first. -/
structure Frame where
  /-- The parts of the current alternative, latest first. -/
  parts : List Piece
  /-- The alternatives before it, latest first. -/
  branches : List Piece

/-- The current alternative as one piece. -/
def Frame.branch (fr : Frame) : Piece :=
  let parts := fr.parts.reverse
  ⟨sequence (parts.map (·.pattern)), Piece.depthOf parts, Piece.sizeOf parts, true⟩

/-- The alternatives of a list as one pattern. -/
def alternatives : List Pattern → Pattern
  | [] => .nothing
  | [p] => p
  | p :: rest => .alt p (alternatives rest)

/-- The group as one piece. -/
def Frame.close (fr : Frame) : Piece :=
  let all := (fr.branch :: fr.branches).reverse
  ⟨alternatives (all.map (·.pattern)), Piece.depthOf all, Piece.sizeOf all, true⟩

/-- Adds a part. -/
def Frame.push (fr : Frame) (p : Piece) : Frame := { fr with parts := p :: fr.parts }

/-- What a group starts with. -/
inductive Opening where
  /-- Flags for the rest of the group around it. -/
  | flags (f : Flags)
  /-- A group, perhaps named, with its own flags. -/
  | group (name : Option String) (f : Flags)

/-- Flag letters up to a colon or a closing parenthesis. No letter may come twice, and the hyphen that
turns the letters after it off must not be the last. -/
def flagList (f : Flags) (off : Bool) (seen : List Char) :
    List Char → Option (Flags × List Char × List Char)
  | [] => none
  | c :: rest =>
    if c == ':' || c == ')' then
      if seen.head? == some '-' then none else some (f, seen, c :: rest)
    else if seen.contains c then none
    else if c == '-' then flagList f true (c :: seen) rest
    else
      match f.set c (!off) with
      | none => none
      | some f => flagList f off (c :: seen) rest

/-- The name of a group up to the closing angle bracket. -/
def groupName (known : List String) (s : List Char) : Option (String × List Char) :=
  let isFirst (c : Char) : Bool := c == '_' || isAlphabetic c
  let isLater (c : Char) : Bool :=
    c == '_' || c == '.' || c == '[' || c == ']' || isAlphanumeric c
  let name := s.takeWhile (· != '>')
  match name, s.dropWhile (· != '>') with
  | c :: more, _ :: after =>
    let text := String.ofList name
    if isFirst c && more.all isLater && !known.contains text then some (text, after) else none
  | _, _ => none

/-- What follows an opening parenthesis. -/
def opening (f : Flags) (known : List String) (s : List Char) : Option (Opening × List Char) :=
  match skip f.verbose s with
  | '?' :: '=' :: _ => none
  | '?' :: '!' :: _ => none
  | '?' :: '<' :: '=' :: _ => none
  | '?' :: '<' :: '!' :: _ => none
  | '?' :: 'P' :: '<' :: rest =>
    (groupName known rest).map fun r => (.group (some r.1) f, r.2)
  | '?' :: '<' :: rest => (groupName known rest).map fun r => (.group (some r.1) f, r.2)
  | '?' :: rest =>
    match flagList f false [] rest with
    | some (inner, seen, ')' :: rest) => if seen.isEmpty then none else some (.flags inner, rest)
    | some (inner, _, ':' :: rest) => some (.group none inner, rest)
    | _ => none
  | rest => some (.group none f, rest)

/-- A number in a repetition, blanks around it skipped; the number is missing when there is no digit. -/
def countNumber (verbose : Bool) (s : List Char) : Option (Option Nat) × List Char :=
  let s := s.dropWhile Text.isBlank
  let (digits, rest) := takeSome verbose Char.isDigit s.length s
  let rest := rest.dropWhile Text.isBlank
  if digits.isEmpty then (some none, rest)
  else
    let n := Text.digitsValue digits
    (if n < UInt32.size then some (some n) else none, rest)

/-- The counts of a repetition after its opening brace: the least, and the most if there is one. -/
def counts (verbose : Bool) (s : List Char) : Option (Nat × Option Nat × List Char) :=
  match countNumber verbose (skip verbose s) with
  | (some (some low), ',' :: rest) =>
    match skip verbose rest with
    | '\x7d' :: rest => some (low, none, rest)
    | rest =>
      match countNumber verbose rest with
      | (some (some high), '\x7d' :: rest) => if low ≤ high then some (low, some high, rest) else none
      | _ => none
  | (some (some low), '\x7d' :: rest) => some (low, some low, rest)
  | _ => none

/-- A repetition of a piece, refused when it grows too large. -/
def Piece.rounds (p : Piece) (low : Nat) (high : Option Nat) (lazy : Bool) : Option Piece :=
  let size := p.size * (high.getD low + 1) + 1
  if !p.repeatable || size > sizeLimit then none
  else
    let pattern :=
      match high with
      | none =>
        match low with
        | 0 => .star p.pattern lazy
        | 1 => plus p.pattern lazy
        | low + 1 => .seq (times low p.pattern) (plus p.pattern lazy)
      | some high =>
        if low == high then times low p.pattern
        else .seq (times low p.pattern) (atMost lazy (high - low) p.pattern)
    some ⟨pattern, p.depth + 1, size, true⟩

/-- The piece of a primitive. -/
def Primitive.piece (f : Flags) : Primitive → Option Piece
  | .char c =>
    if !f.ignoreCase then some (.single (Pattern.char c))
    else if f.admits c then some (.single (.one (f.fold (· == c))))
    else none
  | .chars set => some (.single (.one set))
  | .anchor place => some (.single (.anchor place))

/-- The piece of a character that has a meaning of its own, or of the one it stands for. -/
def symbol (f : Flags) (s : List Char) : Option (Piece × List Char) :=
  match s with
  | '.' :: rest =>
    if !f.unicode then none
    else
      let chars : CharClass := fun c =>
        f.dotAll || (c != '\n' && !(f.crlf && c == '\r'))
      some (.single (.one chars), rest)
  | '^' :: rest =>
    some (.single (.anchor (if f.multiLine then .lineStart f.crlf else .textStart)), rest)
  | '$' :: rest =>
    some (.single (.anchor (if f.multiLine then .lineEnd f.crlf else .textEnd)), rest)
  | s => do
    let (p, rest) ← primitive f s
    let piece ← p.piece f
    some (piece, rest)

/-- The mark that makes a repetition lazy, if it follows. -/
def lazyMark (f : Flags) : List Char → Bool × List Char
  | '?' :: rest => (!f.swapGreed, rest)
  | s => (f.swapGreed, s)

/-- Reads the parts of a group up to its closing parenthesis or the end of the text. The names of groups
read so far are passed along. -/
def body : Nat → Flags → List String → Frame → List Char → Option (Piece × List String × List Char)
  | 0, _, _, _, _ => none
  | n + 1, f, known, fr, s =>
    let again (low : Nat) (high : Option Nat) (mark : Bool × List Char) :
        Option (Piece × List String × List Char) :=
      match fr.parts with
      | [] => none
      | p :: parts => do
        let p ← p.rounds low high mark.1
        body n f known { fr with parts := p :: parts } mark.2
    match skip f.verbose s with
    | [] => some (fr.close, known, [])
    | ')' :: rest => some (fr.close, known, ')' :: rest)
    | '|' :: rest => body n f known ⟨[], fr.branch :: fr.branches⟩ rest
    | '(' :: rest =>
      match opening f known rest with
      | none => none
      | some (.flags inner, rest) => body n inner known (fr.push ⟨.nothing, 0, 0, false⟩) rest
      | some (.group name inner, rest) =>
        match body n inner (name.toList ++ known) ⟨[], []⟩ rest with
        | some (p, known, ')' :: rest) =>
          let pattern :=
            match name with
            | none => p.pattern
            | some name => .group name p.pattern
          body n f known (fr.push ⟨pattern, p.depth + 1, p.size, true⟩) rest
        | _ => none
    | '[' :: rest => do
      let (negated, part, rest) ← classOpen f rest
      let (chars, depth, rest) ← classRest f n negated ⟨none, part⟩ rest
      body n f known (fr.push ⟨.one chars, depth, 1, true⟩) rest
    | '?' :: rest => again 0 (some 1) (lazyMark f rest)
    | '*' :: rest => again 0 none (lazyMark f rest)
    | '+' :: rest => again 1 none (lazyMark f rest)
    | '\x7b' :: rest => do
      let (low, high, rest) ← counts f.verbose rest
      again low high (lazyMark f (skip f.verbose rest))
    | s => do
      let (p, rest) ← symbol f s
      body n f known (fr.push p) rest

/-- The pattern that a text writes, if it writes one. -/
def read (s : List Char) : Option Pattern :=
  match body (s.length + 1) .initial [] ⟨[], []⟩ s with
  | some (p, _, []) => if p.depth ≤ nestLimit && p.size ≤ sizeLimit then some p.pattern else none
  | _ => none

end ShaderDiagnostics.Pattern
