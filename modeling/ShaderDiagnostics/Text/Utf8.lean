/-!
# UTF-8

Texts as bytes: encoding, strict decoding, and decoding that puts the replacement character for what
is not UTF-8. The replacement stands for each longest prefix of a character that could still have been
completed, or for a single byte that starts none.
-/

namespace ShaderDiagnostics.Text

/-- The bytes of one character. -/
def encodeChar (c : Char) : List UInt8 :=
  let n := c.toNat
  if n < 0x80 then [n.toUInt8]
  else if n < 0x800 then [(0xC0 + n / 0x40).toUInt8, (0x80 + n % 0x40).toUInt8]
  else if n < 0x10000 then
    [(0xE0 + n / 0x1000).toUInt8, (0x80 + n / 0x40 % 0x40).toUInt8, (0x80 + n % 0x40).toUInt8]
  else
    [(0xF0 + n / 0x40000).toUInt8, (0x80 + n / 0x1000 % 0x40).toUInt8,
      (0x80 + n / 0x40 % 0x40).toUInt8, (0x80 + n % 0x40).toUInt8]

/-- The bytes of a text. -/
def encode (s : List Char) : List UInt8 := s.flatMap encodeChar

/-- The bytes of a string. -/
def bytesOf (s : String) : List UInt8 := encode s.toList

/-- Whether the byte continues a character. -/
def isTail (b : UInt8) : Bool := 0x80 ≤ b && b ≤ 0xBF

/-- Whether `b` may follow the first byte `a` of a character of three or four bytes. -/
def isSecond (a b : UInt8) : Bool :=
  if a == 0xE0 then 0xA0 ≤ b && b ≤ 0xBF
  else if a == 0xED then 0x80 ≤ b && b ≤ 0x9F
  else if a == 0xF0 then 0x90 ≤ b && b ≤ 0xBF
  else if a == 0xF4 then 0x80 ≤ b && b ≤ 0x8F
  else isTail b

/-- The character of two bytes. -/
def join2 (a b : UInt8) : Char := Char.ofNat ((a.toNat - 0xC0) * 0x40 + (b.toNat - 0x80))

/-- The character of three bytes. -/
def join3 (a b c : UInt8) : Char :=
  Char.ofNat ((a.toNat - 0xE0) * 0x1000 + (b.toNat - 0x80) * 0x40 + (c.toNat - 0x80))

/-- The character of four bytes. -/
def join4 (a b c d : UInt8) : Char :=
  Char.ofNat ((a.toNat - 0xF0) * 0x40000 + (b.toNat - 0x80) * 0x1000 + (c.toNat - 0x80) * 0x40 +
    (d.toNat - 0x80))

/-- The first character of some bytes, if they start with one, and how many bytes it takes; without one,
the number of bytes that a replacement character stands for. -/
def decodeFirst : UInt8 → List UInt8 → Option Char × Nat
  | a, rest =>
    if a < 0x80 then (some (Char.ofNat a.toNat), 1)
    else if 0xC2 ≤ a && a ≤ 0xDF then
      match rest with
      | b :: _ => if isTail b then (some (join2 a b), 2) else (none, 1)
      | [] => (none, 1)
    else if 0xE0 ≤ a && a ≤ 0xEF then
      match rest with
      | b :: c :: _ =>
        if !isSecond a b then (none, 1)
        else if isTail c then (some (join3 a b c), 3) else (none, 2)
      | [b] => if isSecond a b then (none, 2) else (none, 1)
      | [] => (none, 1)
    else if 0xF0 ≤ a && a ≤ 0xF4 then
      match rest with
      | b :: c :: d :: _ =>
        if !isSecond a b then (none, 1)
        else if !isTail c then (none, 2)
        else if isTail d then (some (join4 a b c d), 4) else (none, 3)
      | [b, c] => if !isSecond a b then (none, 1) else if isTail c then (none, 3) else (none, 2)
      | [b] => if isSecond a b then (none, 2) else (none, 1)
      | [] => (none, 1)
    else (none, 1)

/-- The characters of some bytes one by one, `none` standing for what is not UTF-8. -/
def decodeParts (bytes : List UInt8) : List (Option Char) :=
  match bytes with
  | [] => []
  | a :: rest =>
    let (c, n) := decodeFirst a rest
    c :: decodeParts (rest.drop (n - 1))
  termination_by bytes.length
  decreasing_by simp only [List.length_drop, List.length_cons]; omega

/-- The text of some bytes, if they are UTF-8. -/
def decode? (bytes : List UInt8) : Option (List Char) := (decodeParts bytes).mapM id

/-- The text of some bytes, with replacement characters for what is not UTF-8. -/
def decodeLossy (bytes : List UInt8) : List Char :=
  (decodeParts bytes).map fun c => c.getD (Char.ofNat 0xFFFD)

end ShaderDiagnostics.Text
