import ShaderDiagnostics.Text.Utf16

/-!
# Code units

The UTF-16 code units that columns count. A text has as many of them as it is wide, so the columns of a part of a text
say which units of the whole text are those of the part (`Text.codeUnits_slice`).
-/

namespace ShaderDiagnostics.Text

/-- The code units of a character: the character itself in the basic plane, and a pair of surrogates outside it. -/
def unitsOf (c : Char) : List UInt16 :=
  if c.toNat < 0x10000 then [c.toNat.toUInt16]
  else
    let offset := c.toNat - 0x10000
    [(0xD800 + offset / 0x400).toUInt16, (0xDC00 + offset % 0x400).toUInt16]

/-- The code units of a text. -/
def codeUnits (s : List Char) : List UInt16 := s.flatMap unitsOf

@[simp] theorem length_unitsOf (c : Char) : (unitsOf c).length = units c := by
  unfold unitsOf units
  split <;> rfl

@[simp] theorem codeUnits_nil : codeUnits [] = [] := rfl

@[simp] theorem codeUnits_cons (c : Char) (s : List Char) : codeUnits (c :: s) = unitsOf c ++ codeUnits s := rfl

@[simp] theorem codeUnits_append (s t : List Char) : codeUnits (s ++ t) = codeUnits s ++ codeUnits t :=
  List.flatMap_append

@[simp] theorem length_codeUnits (s : List Char) : (codeUnits s).length = width s := by
  induction s with
  | nil => rfl
  | cons c s ih => simp [ih]

/-- The units of a part of a text stand in its columns. -/
theorem codeUnits_slice (s t u : List Char) :
    ((codeUnits (s ++ t ++ u)).drop (width s)).take (width t) = codeUnits t := by
  rw [codeUnits_append, codeUnits_append, List.append_assoc, ← length_codeUnits s, List.drop_left,
    ← length_codeUnits t, List.take_left]

example : codeUnits ['😀', 'z'] = [0xD83D, 0xDE00, 0x7A] := by decide

end ShaderDiagnostics.Text
