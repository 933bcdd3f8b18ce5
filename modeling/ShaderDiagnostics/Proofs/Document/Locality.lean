import ShaderDiagnostics.Proofs.Document.Lines

/-!
# Edits are total and local

A text refuses what goes beyond it: a line behind its end, a column behind the end of a line with its break, a part
that ends before it starts or does not lie in the text, and a position behind the end to insert at. The operations
below may refuse (`Document.applyAll?`), and none ever does, whatever lines and columns an edit names
(`Document.edits_local`): a place is clamped to the text before anything is asked of it, and the order of places is
that of the characters before them (`Document.charIndex_mono`). So every edit keeps what stands before its range and
behind it (`Document.Edit.Changes`).
-/

namespace ShaderDiagnostics.Document

open Text (width charsWithin)

/-! ### Operations that may refuse -/

/-- The number of characters before a line, or before the end of the text behind the last one. -/
def lineStart? (s : List Char) (i : Nat) : Option Nat :=
  if i ≤ (lines s).length then some (lineStart s i) else none

/-- The number of characters of a line before a column. -/
def columnIndex? (line : List Char) (column : Nat) : Option Nat :=
  if column ≤ width line then some (charsWithin line column) else none

/-- The text without a part of it. -/
def remove? (s : List Char) (start stop : Nat) : Option (List Char) :=
  if start ≤ stop ∧ stop ≤ s.length then some (s.take start ++ s.drop stop) else none

/-- The text with another one inserted. -/
def insert? (s : List Char) (start : Nat) (text : List Char) : Option (List Char) :=
  if start ≤ s.length then some (s.take start ++ text ++ s.drop start) else none

/-- The number of characters before a place, as the lines of the text tell it. -/
def charIndex? (s : List Char) (p : Position) : Option Nat :=
  if (lines s).length ≤ p.line then some s.length
  else do
    let start ← lineStart? s p.line
    let line ← (lines s)[p.line]?
    let within ← columnIndex? line (min p.column (width line))
    some (start + within)

/-- The text after an edit: its range is taken out, then its text is put there. -/
def Edit.attempt? (e : Edit) (s : List Char) : Option (List Char) :=
  match e.range with
  | none => some e.text
  | some r => do
    let start ← charIndex? s r.start
    let stop ← charIndex? s r.stop
    let rest ← remove? s start (max start stop)
    insert? rest start e.text

/-- The text after some edits, one after another. -/
def applyAll? (edits : List Edit) (s : List Char) : Option (List Char) :=
  edits.foldlM (fun s e => e.attempt? s) s

/-! ### Nothing is refused -/

theorem charsWithin_min_width (line : List Char) (k : Nat) :
    charsWithin line (min k (width line)) = charsWithin line k := by
  rcases Nat.le_total k (width line) with short | long
  · rw [Nat.min_eq_left short]
  · rw [Nat.min_eq_right long, Text.charsWithin_of_width_le long, Text.charsWithin_of_width_le (Nat.le_refl _)]

theorem charIndex?_eq (s : List Char) (p : Position) : charIndex? s p = some (charIndex s p) := by
  obtain ⟨i, k⟩ := p
  rw [charIndex?]
  dsimp only
  by_cases behind : (lines s).length ≤ i
  · rw [if_pos behind, charIndex_of_le behind]
  · have lt : i < (lines s).length := Nat.lt_of_not_le behind
    have here : (lines s)[i]? = some (lines s)[i] := List.getElem?_eq_getElem lt
    rw [if_neg behind, lineStart?, if_pos (Nat.le_of_lt lt), here]
    simp only [Option.bind_eq_bind, Option.bind_some, columnIndex?, Nat.min_le_right, if_true]
    rw [charsWithin_min_width, charIndex_of_line here]

theorem Edit.attempt?_eq (e : Edit) (s : List Char) : e.attempt? s = some (e.apply s) := by
  rw [Edit.attempt?, Edit.apply]
  cases e.range with
  | none => rfl
  | some r =>
    have start_le := charIndex_le s r.start
    have stop_le : max (charIndex s r.start) (charIndex s r.stop) ≤ s.length :=
      Nat.max_le.2 ⟨start_le, charIndex_le s r.stop⟩
    have taken : (s.take (charIndex s r.start)).length = charIndex s r.start := List.length_take_of_le start_le
    simp only [Option.bind_eq_bind, charIndex?_eq, Option.bind_some]
    rw [remove?, if_pos ⟨Nat.le_max_left _ _, stop_le⟩, Option.bind_some, insert?, List.take_left' taken,
      List.drop_left' taken, if_pos (by rw [List.length_append, taken]; exact Nat.le_add_right _ _)]

theorem applyAll?_eq (edits : List Edit) (s : List Char) : applyAll? edits s = some (applyAll edits s) := by
  induction edits generalizing s with
  | nil => rfl
  | cons e edits ih =>
    rw [applyAll?, List.foldlM_cons, Edit.attempt?_eq]
    exact ih (e.apply s)

/-! ### The order of places -/

/-- A place that is not behind another has no more characters before it. -/
theorem charIndex_mono {s : List Char} {p q : Position} (h : p ≤ q) : charIndex s p ≤ charIndex s q := by
  obtain ⟨i, j⟩ := p
  obtain ⟨k, l⟩ := q
  by_cases behind : (lines s).length ≤ k
  · rw [charIndex_of_le behind]
    exact charIndex_le s _
  · have lt : k < (lines s).length := Nat.lt_of_not_le behind
    rcases Position.le_def.1 h with above | ⟨rfl, before⟩
    · have above : i < k := above
      have here : (lines s)[i]? = some (lines s)[i] := List.getElem?_eq_getElem (Nat.lt_trans above lt)
      calc charIndex s ⟨i, j⟩ = lineStart s i + charsWithin (lines s)[i] j := charIndex_of_line here j
        _ ≤ lineStart s i + (lines s)[i].length := Nat.add_le_add_left (Text.charsWithin_le_length _ j) _
        _ = lineStart s (i + 1) := (lineStart_succ here).symm
        _ ≤ lineStart s k := lineStart_mono s above
        _ ≤ lineStart s k + charsWithin (lines s)[k] l := Nat.le_add_right _ _
        _ = charIndex s ⟨k, l⟩ := (charIndex_of_line (List.getElem?_eq_getElem lt) l).symm
    · have here : (lines s)[i]? = some (lines s)[i] := List.getElem?_eq_getElem lt
      rw [charIndex_of_line here, charIndex_of_line here]
      exact Nat.add_le_add_left (Text.charsWithin_mono _ before) _

/-! ### What an edit keeps -/

/-- What an edit does to a text: it replaces everything, or only what stands between the two ends of its range, and
nothing if the range ends before its start. -/
inductive Edit.Changes (e : Edit) (s : List Char) : List Char → Prop where
  /-- Everything is replaced. -/
  | whole (all : e.range = none) : e.Changes s e.text
  /-- What stands before the range and behind it is kept. -/
  | part {r : Range} {before replaced after : List Char} (range : e.range = some r)
      (split : s = before ++ replaced ++ after) (start : before.length = charIndex s r.start)
      (stop : (before ++ replaced).length = max (charIndex s r.start) (charIndex s r.stop)) :
      e.Changes s (before ++ e.text ++ after)

/-- What stands between two positions of a text. -/
theorem exists_between {s : List Char} {i j : Nat} (order : i ≤ j) (within : j ≤ s.length) :
    ∃ between, s = s.take i ++ between ++ s.drop j ∧ (s.take i ++ between).length = j := by
  have upTo : s.take i ++ (s.take j).drop i = s.take j := by
    have part := List.take_append_drop i (s.take j)
    rwa [List.take_take, Nat.min_eq_left order] at part
  refine ⟨(s.take j).drop i, ?_, ?_⟩
  · rw [upTo, List.take_append_drop]
  · rw [upTo, List.length_take_of_le within]

theorem Edit.changes_apply (e : Edit) (s : List Char) : e.Changes s (e.apply s) := by
  rw [Edit.apply]
  cases range : e.range with
  | none => exact .whole range
  | some r =>
    have start_le := charIndex_le s r.start
    obtain ⟨replaced, split, stop⟩ := exists_between (Nat.le_max_left _ _)
      (Nat.max_le.2 ⟨start_le, charIndex_le s r.stop⟩)
    exact .part range split (List.length_take_of_le start_le) stop

theorem applyAll_take_succ {edits : List Edit} {e : Edit} {i : Nat} (here : edits[i]? = some e) (s : List Char) :
    applyAll (edits.take (i + 1)) s = e.apply (applyAll (edits.take i) s) := by
  rw [List.take_add_one, here, applyAll, List.foldl_append]
  rfl

/-- **Totality and locality.** Every place of a text is found, within the text and in order, and no edit is refused,
whatever its range is. Each of them replaces in the text that it finds what stands between the ends of its range, and
keeps the rest. -/
theorem edits_local (edits : List Edit) (s : List Char) :
    (∀ p, charIndex? s p = some (charIndex s p) ∧ charIndex s p ≤ s.length) ∧
      (∀ p q, p ≤ q → charIndex s p ≤ charIndex s q) ∧
      applyAll? edits s = some (applyAll edits s) ∧
      ∀ (i : Nat) (e : Edit), edits[i]? = some e → e.Changes (applyAll (edits.take i) s) (applyAll (edits.take (i + 1)) s) := by
  refine ⟨fun p => ⟨charIndex?_eq s p, charIndex_le s p⟩, fun p q h => charIndex_mono h, applyAll?_eq edits s,
    fun i e here => ?_⟩
  rw [applyAll_take_succ here]
  exact e.changes_apply _

/-- An edit that ends before it starts, behind the end of the text, and one that starts inside of a pair. -/
def wildEdits : List Edit := [⟨some ⟨⟨7, 0⟩, ⟨0, 1⟩⟩, ['c']⟩, ⟨some ⟨⟨0, 1⟩, ⟨0, 3⟩⟩, ['b']⟩]

theorem wildEdits_local :
    applyAll? wildEdits "😀a\n".toList = some "b\nc".toList ∧
      charIndex "😀a\n".toList ⟨0, 1⟩ ≤ charIndex "😀a\n".toList ⟨7, 0⟩ ∧
      Edit.Changes ⟨some ⟨⟨0, 1⟩, ⟨0, 3⟩⟩, ['b']⟩ "😀a\nc".toList "b\nc".toList := by
  obtain ⟨-, order, total, changes⟩ := edits_local wildEdits "😀a\n".toList
  have second := changes 1 _ rfl
  rw [show applyAll (wildEdits.take 1) "😀a\n".toList = "😀a\nc".toList by decide +kernel,
    show applyAll (wildEdits.take 2) "😀a\n".toList = "b\nc".toList by decide +kernel] at second
  exact ⟨total.trans (by decide +kernel), order ⟨0, 1⟩ ⟨7, 0⟩ (by decide), second⟩

end ShaderDiagnostics.Document
