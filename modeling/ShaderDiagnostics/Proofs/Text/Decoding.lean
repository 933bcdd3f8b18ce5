import ShaderDiagnostics.Path

/-!
# Decoding what has been encoded

A text that is encoded as UTF-8 and decoded again is the same text: each character is decoded from just the bytes
that it is encoded by (`Text.decodeParts_encodeChar`), whatever follows. So a path that is spelled by a string has
that string as its text.
-/

namespace ShaderDiagnostics

namespace Text

/-! ### The bytes of one character -/

theorem isTail_iff {b : UInt8} : isTail b = true ↔ 0x80 ≤ b.toNat ∧ b.toNat ≤ 0xBF := by
  simp [isTail, UInt8.le_iff_toNat_le]

/-- Which bytes may come second in a character of three or four bytes. -/
theorem isSecond_of_bounds {a b : UInt8} (tail : 0x80 ≤ b.toNat ∧ b.toNat ≤ 0xBF)
    (e0 : a.toNat = 0xE0 → 0xA0 ≤ b.toNat) (ed : a.toNat = 0xED → b.toNat ≤ 0x9F)
    (f0 : a.toNat = 0xF0 → 0x90 ≤ b.toNat) (f4 : a.toNat = 0xF4 → b.toNat ≤ 0x8F) :
    isSecond a b = true := by
  simp only [isSecond, isTail, beq_iff_eq, ← UInt8.toNat_inj, UInt8.le_iff_toNat_le, UInt8.reduceToNat]
  repeat' split
  all_goals
    simp only [Bool.and_eq_true, decide_eq_true_eq]
    omega

section

variable {a b c d : UInt8} (rest : List UInt8)

theorem decodeFirst_one (ha : a.toNat < 0x80) : decodeFirst a rest = (some (Char.ofNat a.toNat), 1) := by
  have one : a < 0x80 := UInt8.lt_iff_toNat_lt.2 ha
  simp [decodeFirst, one]

theorem decodeFirst_two (ha : 0xC2 ≤ a.toNat ∧ a.toNat ≤ 0xDF) (hb : isTail b = true) :
    decodeFirst a (b :: rest) = (some (join2 a b), 2) := by
  have not_one : ¬ a.toNat < 0x80 := by omega
  simp [decodeFirst, UInt8.lt_iff_toNat_lt, UInt8.le_iff_toNat_le, not_one, ha, hb]

theorem decodeFirst_three (ha : 0xE0 ≤ a.toNat ∧ a.toNat ≤ 0xEF) (hb : isSecond a b = true)
    (hc : isTail c = true) : decodeFirst a (b :: c :: rest) = (some (join3 a b c), 3) := by
  have not_one : ¬ a.toNat < 0x80 := by omega
  have not_two : ¬ a.toNat ≤ 0xDF := by omega
  simp [decodeFirst, UInt8.lt_iff_toNat_lt, UInt8.le_iff_toNat_le, not_one, not_two, ha, hb, hc]

theorem decodeFirst_four (ha : 0xF0 ≤ a.toNat ∧ a.toNat ≤ 0xF4) (hb : isSecond a b = true)
    (hc : isTail c = true) (hd : isTail d = true) :
    decodeFirst a (b :: c :: d :: rest) = (some (join4 a b c d), 4) := by
  have not_one : ¬ a.toNat < 0x80 := by omega
  have not_two : ¬ a.toNat ≤ 0xDF := by omega
  have not_three : ¬ a.toNat ≤ 0xEF := by omega
  simp [decodeFirst, UInt8.lt_iff_toNat_lt, UInt8.le_iff_toNat_le, not_one, not_two, not_three, ha, hb, hc, hd]

end

theorem toNat_byte {n : Nat} (h : n < 0x100) : n.toUInt8.toNat = n := by simpa using h

/-- A byte for the lowest bits of a number continues a character. -/
theorem isTail_low (n : Nat) : isTail (0x80 + n % 0x40).toUInt8 = true := by
  rw [isTail_iff, toNat_byte (by omega)]
  omega

section

variable {n : Nat} (rest : List UInt8)

theorem decodeParts_one (h : n < 0x80) :
    decodeParts (n.toUInt8 :: rest) = some (Char.ofNat n) :: decodeParts rest := by
  have byte : n.toUInt8.toNat = n := toNat_byte (by omega)
  rw [decodeParts, decodeFirst_one rest (byte.symm ▸ h), byte]
  rfl

theorem decodeParts_two (h : 0x80 ≤ n) (h' : n < 0x800) :
    decodeParts ((0xC0 + n / 0x40).toUInt8 :: (0x80 + n % 0x40).toUInt8 :: rest) =
      some (Char.ofNat n) :: decodeParts rest := by
  have head : (0xC0 + n / 0x40).toUInt8.toNat = 0xC0 + n / 0x40 := toNat_byte (by omega)
  have tail : (0x80 + n % 0x40).toUInt8.toNat = 0x80 + n % 0x40 := toNat_byte (by omega)
  have joined : join2 (0xC0 + n / 0x40).toUInt8 (0x80 + n % 0x40).toUInt8 = Char.ofNat n := by
    rw [join2, head, tail]
    exact congrArg Char.ofNat (by omega)
  rw [decodeParts, decodeFirst_two rest (by rw [head]; omega) (isTail_low n), joined]
  rfl

theorem decodeParts_three (h : 0x800 ≤ n) (h' : n < 0x10000) (bounds : n < 0xD800 ∨ 0xDFFF < n) :
    decodeParts ((0xE0 + n / 0x1000).toUInt8 :: (0x80 + n / 0x40 % 0x40).toUInt8 ::
      (0x80 + n % 0x40).toUInt8 :: rest) = some (Char.ofNat n) :: decodeParts rest := by
  have head : (0xE0 + n / 0x1000).toUInt8.toNat = 0xE0 + n / 0x1000 := toNat_byte (by omega)
  have middle : (0x80 + n / 0x40 % 0x40).toUInt8.toNat = 0x80 + n / 0x40 % 0x40 := toNat_byte (by omega)
  have tail : (0x80 + n % 0x40).toUInt8.toNat = 0x80 + n % 0x40 := toNat_byte (by omega)
  have second : isSecond (0xE0 + n / 0x1000).toUInt8 (0x80 + n / 0x40 % 0x40).toUInt8 = true := by
    apply isSecond_of_bounds <;> rw [middle]
    · omega
    all_goals
      rw [head]
      omega
  have joined : join3 (0xE0 + n / 0x1000).toUInt8 (0x80 + n / 0x40 % 0x40).toUInt8
      (0x80 + n % 0x40).toUInt8 = Char.ofNat n := by
    rw [join3, head, middle, tail]
    exact congrArg Char.ofNat (by omega)
  rw [decodeParts, decodeFirst_three rest (by rw [head]; omega) second (isTail_low n), joined]
  rfl

theorem decodeParts_four (h : 0x10000 ≤ n) (h' : n < 0x110000) :
    decodeParts ((0xF0 + n / 0x40000).toUInt8 :: (0x80 + n / 0x1000 % 0x40).toUInt8 ::
      (0x80 + n / 0x40 % 0x40).toUInt8 :: (0x80 + n % 0x40).toUInt8 :: rest) =
        some (Char.ofNat n) :: decodeParts rest := by
  have head : (0xF0 + n / 0x40000).toUInt8.toNat = 0xF0 + n / 0x40000 := toNat_byte (by omega)
  have high : (0x80 + n / 0x1000 % 0x40).toUInt8.toNat = 0x80 + n / 0x1000 % 0x40 := toNat_byte (by omega)
  have middle : (0x80 + n / 0x40 % 0x40).toUInt8.toNat = 0x80 + n / 0x40 % 0x40 := toNat_byte (by omega)
  have tail : (0x80 + n % 0x40).toUInt8.toNat = 0x80 + n % 0x40 := toNat_byte (by omega)
  have second : isSecond (0xF0 + n / 0x40000).toUInt8 (0x80 + n / 0x1000 % 0x40).toUInt8 = true := by
    apply isSecond_of_bounds <;> rw [high]
    · omega
    all_goals
      rw [head]
      omega
  have joined : join4 (0xF0 + n / 0x40000).toUInt8 (0x80 + n / 0x1000 % 0x40).toUInt8
      (0x80 + n / 0x40 % 0x40).toUInt8 (0x80 + n % 0x40).toUInt8 = Char.ofNat n := by
    rw [join4, head, high, middle, tail]
    exact congrArg Char.ofNat (by omega)
  rw [decodeParts, decodeFirst_four rest (by rw [head]; omega) second (isTail_low (n / 0x40)) (isTail_low n), joined]
  rfl

end

/-! ### Texts -/

/-- A character is decoded from its bytes, whatever follows. -/
theorem decodeParts_encodeChar (c : Char) (rest : List UInt8) :
    decodeParts (encodeChar c ++ rest) = some c :: decodeParts rest := by
  have bounds : c.toNat < 0xD800 ∨ 0xDFFF < c.toNat ∧ c.toNat < 0x110000 := c.valid
  have same : Char.ofNat c.toNat = c := Char.ofNat_toNat c
  rw [← congrArg some same]
  unfold encodeChar
  dsimp only
  split
  next one => exact decodeParts_one rest one
  next not_one =>
    split
    next two => exact decodeParts_two rest (by omega) two
    next not_two =>
      split
      next three => exact decodeParts_three rest (by omega) three (by omega)
      next not_three => exact decodeParts_four rest (by omega) (by omega)

theorem decodeParts_encode (text : List Char) : decodeParts (encode text) = text.map some := by
  induction text with
  | nil => rw [encode, List.flatMap_nil, decodeParts, List.map_nil]
  | cons c rest ih => rw [encode, List.flatMap_cons, decodeParts_encodeChar, List.map_cons, ← ih, encode]

theorem decodeLossy_encode (text : List Char) : decodeLossy (encode text) = text := by
  rw [decodeLossy, decodeParts_encode, List.map_map]
  exact List.map_id text

end Text

theorem Path.decodeLossy_ofString (s : String) : Text.decodeLossy (Path.ofString s).bytes = s.toList :=
  Text.decodeLossy_encode s.toList

end ShaderDiagnostics
