/-!
# Columns

Editors count columns in UTF-16 code units: a character of the basic plane is one unit, any other is
a pair. A column inside a pair stands for the character it belongs to.
-/

namespace ShaderDiagnostics.Text

/-- The UTF-16 code units of one character. -/
def units (c : Char) : Nat := if c.toNat < 0x10000 then 1 else 2

/-- The UTF-16 code units of a text. -/
def width : List Char → Nat
  | [] => 0
  | c :: rest => units c + width rest

/-- How many characters of the text end at or before the column. -/
def charsWithin : List Char → Nat → Nat
  | [], _ => 0
  | c :: rest, column => if units c ≤ column then charsWithin rest (column - units c) + 1 else 0

theorem units_pos (c : Char) : 0 < units c := by
  unfold units
  split <;> omega

@[simp] theorem width_nil : width [] = 0 := rfl

@[simp] theorem width_cons (c : Char) (s : List Char) : width (c :: s) = units c + width s := rfl

@[simp] theorem width_append (s t : List Char) : width (s ++ t) = width s + width t := by
  induction s with
  | nil => simp
  | cons c s ih => simp [ih, Nat.add_assoc]

theorem charsWithin_le_length (s : List Char) (column : Nat) : charsWithin s column ≤ s.length := by
  induction s generalizing column with
  | nil => simp [charsWithin]
  | cons c s ih =>
    simp only [charsWithin]
    split
    · simpa using ih (column - units c)
    · exact Nat.zero_le _

end ShaderDiagnostics.Text
