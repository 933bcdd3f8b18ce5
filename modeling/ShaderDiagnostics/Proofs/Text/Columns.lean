import ShaderDiagnostics.Text.Utf16

/-!
# Columns and characters

The number of characters before a column grows with the column. Of a text in two parts, the columns up to the width of
the first part belong to it alone (`Text.charsWithin_append_of_le`), and those behind it to the second
(`Text.charsWithin_append_of_width_le`).
-/

namespace ShaderDiagnostics.Text

variable {s : List Char} {j k : Nat}

theorem charsWithin_zero (s : List Char) : charsWithin s 0 = 0 := by
  cases s with
  | nil => rfl
  | cons c s =>
    have := units_pos c
    rw [charsWithin, if_neg (by omega)]

theorem charsWithin_mono (s : List Char) (h : j ≤ k) : charsWithin s j ≤ charsWithin s k := by
  induction s generalizing j k with
  | nil => exact Nat.le_refl _
  | cons c s ih =>
    rw [charsWithin, charsWithin]
    by_cases fits : units c ≤ j
    · rw [if_pos fits, if_pos (Nat.le_trans fits h)]
      exact Nat.succ_le_succ (ih (Nat.sub_le_sub_right h _))
    · rw [if_neg fits]
      exact Nat.zero_le _

theorem charsWithin_append_of_width_le (t : List Char) (h : width s ≤ k) :
    charsWithin (s ++ t) k = s.length + charsWithin t (k - width s) := by
  induction s generalizing k with
  | nil => simp
  | cons c s ih =>
    rw [width_cons] at h
    rw [List.cons_append, charsWithin, if_pos (by omega), ih (by omega), width_cons, Nat.sub_sub, List.length_cons]
    omega

theorem charsWithin_append_of_le (t : List Char) (h : k ≤ width s) : charsWithin (s ++ t) k = charsWithin s k := by
  induction s generalizing k with
  | nil =>
    obtain rfl : k = 0 := Nat.le_zero.1 h
    rw [charsWithin_zero, charsWithin_zero]
  | cons c s ih =>
    rw [width_cons] at h
    rw [List.cons_append, charsWithin, charsWithin, ih (by omega)]

/-- All of a text lies before a column behind its end. -/
theorem charsWithin_of_width_le (h : width s ≤ k) : charsWithin s k = s.length := by
  simpa [charsWithin] using charsWithin_append_of_width_le [] h

/-- Where each character has one column, columns and characters count the same. -/
theorem charsWithin_of_narrow (narrow : ∀ c ∈ s, units c = 1) (k : Nat) : charsWithin s k = min k s.length := by
  induction s generalizing k with
  | nil => exact (Nat.min_zero k).symm
  | cons c s ih =>
    obtain ⟨one, others⟩ := List.forall_mem_cons.1 narrow
    rw [charsWithin, one, ih others, List.length_cons]
    split <;> omega

/-- A column of a text lies behind some of its characters, or inside of the next one. -/
theorem exists_split_column (h : k ≤ width s) : ∃ t u, s = t ++ u ∧ charsWithin s k = t.length ∧
    ∃ left, k = width t + left ∧ (left = 0 ∨ ∃ c u', u = c :: u' ∧ left < units c) := by
  induction s generalizing k with
  | nil => exact ⟨[], [], rfl, rfl, k, (Nat.zero_add k).symm, Or.inl (Nat.le_zero.1 h)⟩
  | cons c s ih =>
    rw [width_cons] at h
    by_cases fits : units c ≤ k
    · obtain ⟨t, u, rfl, index, left, column, inside⟩ := ih (Nat.sub_le_iff_le_add'.2 h)
      refine ⟨c :: t, u, rfl, ?_, left, ?_, inside⟩
      · rw [charsWithin, if_pos fits, index, List.length_cons]
      · rw [width_cons, Nat.add_assoc, ← column, Nat.add_sub_cancel' fits]
    · refine ⟨[], c :: s, rfl, ?_, k, (Nat.zero_add k).symm, Or.inr ⟨c, s, rfl, Nat.lt_of_not_le fits⟩⟩
      rw [charsWithin, if_neg fits, List.length_nil]

theorem width_take_le (s : List Char) (n : Nat) : width (s.take n) ≤ width s := by
  have split : width (s.take n) + width (s.drop n) = width s := by rw [← width_append, List.take_append_drop]
  omega

theorem width_take_mono (s : List Char) {m n : Nat} (h : m ≤ n) : width (s.take m) ≤ width (s.take n) := by
  have part : s.take m = (s.take n).take m := by rw [List.take_take, Nat.min_eq_left h]
  rw [part]
  exact width_take_le _ m

end ShaderDiagnostics.Text
