import ShaderDiagnostics.Json.Value
import ShaderDiagnostics.Text.Decimal

/-!
# Reading JSON

Reads one JSON text. A number without fraction and exponent is an integer as long as it is between
`-2^63` and `2^64`, except for minus zero; every other number is a floating point number, and one too
large for that is no number. Of two members with one key the later counts.
-/

namespace ShaderDiagnostics.Json

open Number

/-- Skips blanks. -/
def skipBlanks (s : List Char) : List Char :=
  s.dropWhile fun c => c == ' ' || c == '\n' || c == '\r' || c == '\t'

/-- The value of a hexadecimal digit. -/
def hexValue? (c : Char) : Option Nat :=
  if c.isDigit then some (c.toNat - 48)
  else if 'a' ≤ c && c ≤ 'f' then some (c.toNat - 87)
  else if 'A' ≤ c && c ≤ 'F' then some (c.toNat - 55)
  else none

/-- Four hexadecimal digits. -/
def readHex4 : List Char → Option (Nat × List Char)
  | a :: b :: c :: d :: rest => do
    let a ← hexValue? a
    let b ← hexValue? b
    let c ← hexValue? c
    let d ← hexValue? d
    some (a * 4096 + b * 256 + c * 16 + d, rest)
  | _ => none

/-- The character of an escaped code unit; a high surrogate takes the low one behind it along. -/
def readUnit (s : List Char) : Option (Char × List Char) := do
  let (n, rest) ← readHex4 s
  if 0xD800 ≤ n && n < 0xDC00 then
    match rest with
    | '\\' :: 'u' :: rest => do
      let (m, rest) ← readHex4 rest
      if 0xDC00 ≤ m && m < 0xE000 then
        some (Char.ofNat (0x10000 + (n - 0xD800) * 0x400 + (m - 0xDC00)), rest)
      else none
    | _ => none
  else if 0xDC00 ≤ n && n < 0xE000 then none
  else some (Char.ofNat n, rest)

/-- The rest of a string behind its opening quote; `acc` holds the text read so far. -/
def readString (acc : String) : Nat → List Char → Option (String × List Char)
  | 0, _ => none
  | _ + 1, [] => none
  | n + 1, c :: rest =>
    if c == '"' then some (acc, rest)
    else if c == '\\' then
      match rest with
      | 'u' :: rest =>
        match readUnit rest with
        | some (c, rest) => readString (acc.push c) n rest
        | none => none
      | '"' :: rest => readString (acc.push '"') n rest
      | '\\' :: rest => readString (acc.push '\\') n rest
      | '/' :: rest => readString (acc.push '/') n rest
      | 'b' :: rest => readString (acc.push '\x08') n rest
      | 'f' :: rest => readString (acc.push '\x0c') n rest
      | 'n' :: rest => readString (acc.push '\n') n rest
      | 'r' :: rest => readString (acc.push '\r') n rest
      | 't' :: rest => readString (acc.push '\t') n rest
      | _ => none
    else if c.toNat < 32 then none
    else readString (acc.push c) n rest

/-- Digits at the start of a text. -/
def readDigits (s : List Char) : List Char × List Char :=
  (s.takeWhile Char.isDigit, s.dropWhile Char.isDigit)

/-- The exponent of a number, if there is one. -/
def readExponent : List Char → Option (Option Int × List Char)
  | e :: rest =>
    if e == 'e' || e == 'E' then
      let (negative, rest) :=
        match rest with
        | '-' :: rest => (true, rest)
        | '+' :: rest => (false, rest)
        | rest => (false, rest)
      let (digits, rest) := readDigits rest
      if digits.isEmpty then none
      else
        let n : Int := Text.digitsValue digits
        some (some (if negative then -n else n), rest)
    else some (none, e :: rest)
  | [] => some (none, [])

/-- The fraction of a number, if there is one. -/
def readFraction : List Char → Option (Option (List Char) × List Char)
  | '.' :: rest =>
    let (digits, rest) := readDigits rest
    if digits.isEmpty then none else some (some digits, rest)
  | s => some (none, s)

/-- A floating point number, unless it is too large. Exponents far outside the range of numbers make
it zero or too large whatever the digits. -/
def floatOf (negative : Bool) (mantissa : Nat) (exponent : Int) : Option Json :=
  let x : Binary64 :=
    if mantissa == 0 || exponent < -100000 then .ofDecimal 0 0
    else if exponent > 100000 then .ofDecimal 1 100000
    else .ofDecimal mantissa exponent
  if x.special then none else some (.float (if negative then x.neg else x))

/-- A number without its sign. -/
def readUnsigned (negative : Bool) (s : List Char) : Option (Json × List Char) := do
  let (whole, rest) := readDigits s
  if whole.isEmpty || (whole.length > 1 && whole.head? == some '0') then none
  else
    let (fraction, rest) ← readFraction rest
    let (exponent, rest) ← readExponent rest
    let n := Text.digitsValue whole
    match fraction, exponent with
    | none, none =>
      if negative && n == 0 then (floatOf true 0 0).map (·, rest)
      else if negative && 2 * n ≤ UInt64.size then some (.int (-(n : Int)), rest)
      else if !negative && n < UInt64.size then some (.int n, rest)
      else (floatOf negative n 0).map (·, rest)
    | fraction, exponent =>
      let digits := whole ++ fraction.getD []
      let shift : Int := (exponent.getD 0) - (fraction.getD []).length
      (floatOf negative (Text.digitsValue digits) shift).map (·, rest)

/-- The text behind a word, if it starts with the word. -/
def afterWord (word : String) (s : List Char) : Option (List Char) :=
  if word.toList.isPrefixOf s then some (s.drop word.length) else none

mutual

/-- A value at the start of a text. -/
def readValue : Nat → List Char → Option (Json × List Char)
  | 0, _ => none
  | n + 1, s =>
    match skipBlanks s with
    | [] => none
    | c :: rest =>
      if c == '"' then (readString "" (rest.length + 1) rest).map fun r => (.str r.1, r.2)
      else if c == '[' then
        match skipBlanks rest with
        | ']' :: rest => some (.arr [], rest)
        | rest => readItems n [] rest
      else if c == '\x7b' then
        match skipBlanks rest with
        | '\x7d' :: rest => some (.obj [], rest)
        | rest => readMembers n [] rest
      else if c == '-' then readUnsigned true rest
      else if c.isDigit then readUnsigned false (c :: rest)
      else if c == 't' then (afterWord "rue" rest).map (.bool true, ·)
      else if c == 'f' then (afterWord "alse" rest).map (.bool false, ·)
      else if c == 'n' then (afterWord "ull" rest).map (.null, ·)
      else none

/-- The items of a list, with those read so far, latest first. -/
def readItems : Nat → List Json → List Char → Option (Json × List Char)
  | 0, _, _ => none
  | n + 1, items, s =>
    match readValue n s with
    | none => none
    | some (j, rest) =>
      match skipBlanks rest with
      | ',' :: rest => readItems n (j :: items) rest
      | ']' :: rest => some (.arr (j :: items).reverse, rest)
      | _ => none

/-- The members of an object, with those read so far. -/
def readMembers : Nat → List (String × Json) → List Char → Option (Json × List Char)
  | 0, _, _ => none
  | n + 1, members, s =>
    match skipBlanks s with
    | '"' :: rest =>
      match readString "" (rest.length + 1) rest with
      | none => none
      | some (key, rest) =>
        match skipBlanks rest with
        | ':' :: rest =>
          match readValue n rest with
          | none => none
          | some (j, rest) =>
            let members := insert key j members
            match skipBlanks rest with
            | ',' :: rest => readMembers n members rest
            | '\x7d' :: rest => some (.obj members, rest)
            | _ => none
        | _ => none
    | _ => none

end

/-- The value that a text writes, if it writes one and nothing else. -/
def read (s : String) : Option Json :=
  let chars := s.toList
  match readValue (chars.length + 1) chars with
  | some (j, rest) => if (skipBlanks rest).isEmpty then some j else none
  | none => none

end ShaderDiagnostics.Json
