import ShaderDiagnostics.Document.Text
import ShaderDiagnostics.Proofs.Text.Columns

/-!
# Two divisions of a text into lines

The text of a document breaks its lines at every character that Unicode calls a line break (`breaksLine`). Others
that mean places in the same text end fewer lines: the editor, which counts lines by the protocol, and reports,
which count line feeds. How they divide the text is given by the characters that end a line for them, and a place of
theirs is reached by walking the text up to it (`Stands`).

The document finds such a place exactly if the walk breaks no line that does not end, the character right before the
place apart: its line is the place's own (`Stands.charIndex_eq_iff_clear`). Any other break on the way takes the document a line
ahead, and it does not get back, as it is then in front of the place for good (`Stands.charIndex_lt_of_later`).
-/

namespace ShaderDiagnostics.Document

open Text (units charsWithin charsWithin_zero)

/-! ### Lines of the text -/

/-- Whether a line of the text ends after a character, given what follows. -/
def breaksLine (c : Char) (rest : List Char) : Bool :=
  isBreak c && !(c == '\r' && rest.head? == some '\n')

theorem lines_cons (c : Char) (rest : List Char) :
    lines (c :: rest) = if breaksLine c rest then [c] :: lines rest else consLine c (lines rest) := by
  cases rest with
  | nil => simp [lines, breaksLine, consLine]
  | cons d rest => simp [lines, breaksLine]

theorem lines_ne_nil (s : List Char) : lines s ≠ [] := by
  cases s with
  | nil => simp [lines]
  | cons c rest =>
    rw [lines_cons]
    split
    · simp
    · cases lines rest <;> simp [consLine]

section

variable {c : Char} {rest : List Char}

@[simp] theorem charIndex_zero (s : List Char) : charIndex s ⟨0, 0⟩ = 0 := by
  unfold charIndex
  cases lines s with
  | nil => rfl
  | cons line rest => simp [indexIn, charsWithin_zero]

theorem charIndex_break_column (h : breaksLine c rest = true) (column : Nat) :
    charIndex (c :: rest) ⟨0, column⟩ = charsWithin [c] column := by
  rw [charIndex, lines_cons, if_pos h]
  rfl

theorem charIndex_break_line (h : breaksLine c rest = true) (line column : Nat) :
    charIndex (c :: rest) ⟨line + 1, column⟩ = charIndex rest ⟨line, column⟩ + 1 := by
  rw [charIndex, lines_cons, if_pos h]
  exact Nat.add_comm 1 _

theorem charIndex_column (h : breaksLine c rest = false) (column : Nat) :
    charIndex (c :: rest) ⟨0, column⟩ =
      if units c ≤ column then charIndex rest ⟨0, column - units c⟩ + 1 else 0 := by
  rw [charIndex, lines_cons, if_neg (by simp [h])]
  unfold charIndex
  cases lines rest <;> rfl

theorem charIndex_line (h : breaksLine c rest = false) (line column : Nat) :
    charIndex (c :: rest) ⟨line + 1, column⟩ = charIndex rest ⟨line + 1, column⟩ + 1 := by
  have hne := lines_ne_nil rest
  rw [charIndex, lines_cons, if_neg (by simp [h])]
  unfold charIndex
  cases hl : lines rest with
  | nil => exact absurd hl hne
  | cons first others => simp [indexIn, consLine]; omega

/-- A column inside of the first character is the start of the text. -/
theorem charIndex_of_lt_units (h : column < units c) : charIndex (c :: rest) ⟨0, column⟩ = 0 := by
  cases broken : breaksLine c rest with
  | true => rw [charIndex_break_column broken, charsWithin, if_neg (Nat.not_le.2 h)]
  | false => rw [charIndex_column broken, if_neg (Nat.not_le.2 h)]

end

/-! ### Places of another division -/

/-- A place, and the number of characters before it, if lines end after the characters that are told. -/
inductive Stands (ends : Char → List Char → Bool) : List Char → Position → Nat → Prop where
  /-- The place is the start of the text. -/
  | start (s : List Char) : Stands ends s ⟨0, 0⟩ 0
  /-- The place is further on the line. -/
  | along {c : Char} {rest : List Char} {column n : Nat} (goesOn : ends c rest = false)
      (further : Stands ends rest ⟨0, column⟩ n) : Stands ends (c :: rest) ⟨0, units c + column⟩ (n + 1)
  /-- The place is on a later line, and the line goes on. -/
  | past {c : Char} {rest : List Char} {line column n : Nat} (goesOn : ends c rest = false)
      (further : Stands ends rest ⟨line + 1, column⟩ n) : Stands ends (c :: rest) ⟨line + 1, column⟩ (n + 1)
  /-- The place is on a later line, and the line ends. -/
  | down {c : Char} {rest : List Char} {line column n : Nat} (ended : ends c rest = true)
      (further : Stands ends rest ⟨line, column⟩ n) : Stands ends (c :: rest) ⟨line + 1, column⟩ (n + 1)

/-- On the way over some characters the text breaks just the lines that end. The last of them does not count: what is
right before a place may break its line. -/
def Clear (ends : Char → List Char → Bool) : List Char → Nat → Prop
  | c :: rest, n + 2 => breaksLine c rest = ends c rest ∧ Clear ends rest (n + 1)
  | _, _ => True

section

variable {ends : Char → List Char → Bool} {c : Char} {s rest : List Char} {p : Position} {n : Nat}

theorem Clear.tail (h : Clear ends (c :: rest) (n + 1)) : Clear ends rest n := by
  cases n with
  | zero => cases rest <;> trivial
  | succ n => exact h.2

/-- Only the start of the text has nothing in front of it. -/
theorem Stands.pos (h : Stands ends s p n) (behind : 0 < p.line ∨ 0 < p.column) : 0 < n := by
  cases h with
  | start => simp at behind
  | _ => exact Nat.succ_pos _

/-- The order of places is that of the characters in front of them. -/
theorem Stands.mono {q : Position} {m : Nat} (h : Stands ends s p n) (h' : Stands ends s q m)
    (order : p.line < q.line ∨ p.line = q.line ∧ p.column ≤ q.column) : n ≤ m := by
  induction h generalizing q m with
  | start => exact Nat.zero_le m
  | @along c rest column n goesOn further ih =>
    cases h' with
    | start =>
      have := Text.units_pos c
      simp at order
      omega
    | along _ further' => exact Nat.succ_le_succ (ih further' (by simpa using order))
    | past _ further' => exact Nat.succ_le_succ (ih further' (Or.inl (Nat.succ_pos _)))
    | down ended => exact nomatch goesOn.symm.trans ended
  | past goesOn further ih =>
    cases h' with
    | start => simp at order
    | along => simp at order
    | past _ further' => exact Nat.succ_le_succ (ih further' order)
    | down ended => exact nomatch goesOn.symm.trans ended
  | down ended further ih =>
    cases h' with
    | start => simp at order
    | along => simp at order
    | past goesOn => exact nomatch goesOn.symm.trans ended
    | down _ further' => exact Nat.succ_le_succ (ih further' (by simpa using order))

variable (breaks : ∀ c rest, ends c rest = true → breaksLine c rest = true)
include breaks

/-- A place is found if the way is clear; what is left of its column may lie inside of the character behind it. -/
theorem Stands.charIndex_of_clear (h : Stands ends s p n) (clear : Clear ends s n) {left : Nat}
    (inside : charIndex (s.drop n) ⟨0, left⟩ = 0) : charIndex s ⟨p.line, p.column + left⟩ = n := by
  induction h with
  | start s =>
    rw [Nat.zero_add]
    exact inside
  | @along c rest column n goesOn further ih =>
    show charIndex (c :: rest) ⟨0, units c + column + left⟩ = n + 1
    rw [Nat.add_assoc]
    cases broken : breaksLine c rest with
    | false =>
      rw [charIndex_column broken, if_pos (Nat.le_add_right _ _), Nat.add_sub_cancel_left, ih clear.tail inside]
    | true =>
      -- the place is right behind the break
      have last : n = 0 := by
        cases n with
        | zero => rfl
        | succ n => exact nomatch (broken.symm.trans clear.1).trans goesOn
      rw [charIndex_break_column broken, charsWithin, if_pos (Nat.le_add_right _ _), last]
      rfl
  | @past c rest line column n goesOn further ih =>
    cases n with
    | zero => exact absurd (further.pos (Or.inl (Nat.succ_pos line))) (Nat.lt_irrefl 0)
    | succ n => rw [charIndex_line (clear.1.trans goesOn), ih clear.2 inside]
  | down ended further ih => rw [charIndex_break_line (breaks _ _ ended), ih clear.tail inside]

/-- The text goes beyond all columns of a line before it gets to a place on a later one. -/
theorem Stands.charIndex_lt_of_later (h : Stands ends s p n) {line column : Nat} (later : line < p.line)
    (within : column ≤ p.column) : charIndex s ⟨line, column⟩ < n := by
  induction h generalizing line column with
  | start => exact absurd later (Nat.not_lt_zero _)
  | along => exact absurd later (Nat.not_lt_zero _)
  | @past c rest l k n goesOn further ih =>
    have pos := further.pos (Or.inl (Nat.succ_pos l))
    cases broken : breaksLine c rest with
    | true =>
      cases line with
      | zero =>
        rw [charIndex_break_column broken]
        exact Nat.lt_succ_of_le (Nat.le_trans (Text.charsWithin_le_length [c] column) pos)
      | succ line =>
        rw [charIndex_break_line broken]
        exact Nat.succ_lt_succ (ih (Nat.lt_of_succ_lt later) within)
    | false =>
      cases line with
      | zero =>
        rw [charIndex_column broken]
        split
        · exact Nat.succ_lt_succ (ih later (Nat.le_trans (Nat.sub_le _ _) within))
        · exact Nat.succ_pos n
      | succ line =>
        rw [charIndex_line broken]
        exact Nat.succ_lt_succ (ih later within)
  | @down c rest l k n ended further ih =>
    have broken := breaks c rest ended
    cases line with
    | succ line =>
      rw [charIndex_break_line broken]
      exact Nat.succ_lt_succ (ih (Nat.lt_of_succ_lt_succ later) within)
    | zero =>
      rw [charIndex_break_column broken]
      rcases Nat.eq_zero_or_pos column with rfl | some
      · rw [charsWithin_zero]
        exact Nat.succ_pos n
      · have pos := further.pos (Or.inr (Nat.lt_of_lt_of_le some within))
        exact Nat.lt_succ_of_le (Nat.le_trans (Text.charsWithin_le_length [c] column) pos)

/-- If the way is not clear, then the text finds the place further to the front. -/
theorem Stands.charIndex_lt_of_not_clear (h : Stands ends s p n) (unclear : ¬ Clear ends s n) :
    charIndex s p < n := by
  induction h with
  | start s => exact absurd (by cases s <;> trivial) unclear
  | @along c rest column n goesOn further ih =>
    cases n with
    | zero => exact absurd trivial unclear
    | succ n =>
      cases broken : breaksLine c rest with
      | true =>
        rw [charIndex_break_column broken]
        exact Nat.lt_of_le_of_lt (Text.charsWithin_le_length [c] _) (Nat.succ_lt_succ (Nat.succ_pos n))
      | false =>
        have later := ih fun clear => unclear ⟨broken.trans goesOn.symm, clear⟩
        rw [charIndex_column broken, if_pos (Nat.le_add_right _ _), Nat.add_sub_cancel_left]
        exact Nat.succ_lt_succ later
  | @past c rest line column n goesOn further ih =>
    cases broken : breaksLine c rest with
    | true =>
      -- from here on the text is a line ahead
      rw [charIndex_break_line broken]
      exact Nat.succ_lt_succ (further.charIndex_lt_of_later breaks (Nat.lt_succ_self line) (Nat.le_refl column))
    | false =>
      rw [charIndex_line broken]
      refine Nat.succ_lt_succ (ih fun clear => unclear ?_)
      cases n with
      | zero => trivial
      | succ n => exact ⟨broken.trans goesOn.symm, clear⟩
  | @down c rest line column n ended further ih =>
    have broken := breaks c rest ended
    rw [charIndex_break_line broken]
    refine Nat.succ_lt_succ (ih fun clear => unclear ?_)
    cases n with
    | zero => trivial
    | succ n => exact ⟨broken.trans ended.symm, clear⟩

/-- **Where places are found.** A place is found exactly if the way to it is clear. -/
theorem Stands.charIndex_eq_iff_clear (h : Stands ends s p n) : charIndex s p = n ↔ Clear ends s n :=
  ⟨fun found => Classical.byContradiction fun unclear =>
      Nat.ne_of_lt (h.charIndex_lt_of_not_clear breaks unclear) found,
    fun clear => h.charIndex_of_clear breaks clear (charIndex_zero _)⟩

end

end ShaderDiagnostics.Document
