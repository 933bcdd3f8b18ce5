import ShaderDiagnostics.Proofs.Document.Synchrony

/-!
# Lines and their breaks

A line of a document is its content with a break behind it, and the last line is the only one without a break
(`Document.exists_last`). The columns of a line go on over its break: those up to the width of the content are found in
the content, and those behind it in the break (`Document.charIndex_content`). So a column behind the end of the content
leads into the break or past it to the next line, and it stays at the end of the content on the last line only
(`Document.insert_overlong`). By the protocol it would stay there on every line (`Document.overlong_misplaced`).
-/

namespace ShaderDiagnostics.Document

open Text (units width charsWithin)

/-! ### The parts of a line -/

/-- A line without its break. -/
def content (line : List Char) : List Char := line.takeWhile fun c => !isBreak c

/-- The break of a line, if it has one. -/
def lineBreak (line : List Char) : List Char := line.dropWhile fun c => !isBreak c

/-- What breaks a line: a carriage return with the line feed after it, or a single character. -/
def IsLineBreak (b : List Char) : Prop := b = ['\r', '\n'] ∨ ∃ c, isBreak c = true ∧ b = [c]

theorem content_append_lineBreak (line : List Char) : content line ++ lineBreak line = line :=
  List.takeWhile_append_dropWhile

section

variable {c : Char} {s line : List Char}

theorem lineBreak_cons_of_break (h : isBreak c = true) (line : List Char) : lineBreak (c :: line) = c :: line :=
  List.dropWhile_cons_of_neg (by simp [h])

theorem lineBreak_cons_of_plain (h : isBreak c = false) (line : List Char) : lineBreak (c :: line) = lineBreak line :=
  List.dropWhile_cons_of_pos (by simp [h])

theorem content_cons_of_plain (h : isBreak c = false) (line : List Char) : content (c :: line) = c :: content line :=
  List.takeWhile_cons_of_pos (by simp [h])

/-- Only a carriage return leaves the break of its line to the character after it. -/
theorem isBreak_of_not_breaksLine (h : breaksLine c s = false) :
    isBreak c = false ∨ c = '\r' ∧ ∃ rest, s = '\n' :: rest := by
  simp only [breaksLine, Bool.and_eq_false_iff, Bool.not_eq_false', Bool.and_eq_true, beq_iff_eq] at h
  rcases h with plain | ⟨ret, feed⟩
  · exact .inl plain
  · exact .inr ⟨ret, List.head?_eq_some_iff.1 feed⟩

theorem isBreak_of_breaksLine (h : breaksLine c s = true) : isBreak c = true := (Bool.and_eq_true_iff.1 h).1

/-- All lines but the last end with a break, and the last has none. -/
theorem exists_last (s : List Char) :
    ∃ closed last, lines s = closed ++ [last] ∧ (∀ line ∈ closed, IsLineBreak (lineBreak line)) ∧
      lineBreak last = [] := by
  induction s with
  | nil => exact ⟨[], [], rfl, nofun, rfl⟩
  | cons c rest ih =>
    obtain ⟨closed, last, parts, breaks, none⟩ := ih
    rw [lines_cons, parts]
    cases here : breaksLine c rest with
    | true =>
      have alone : IsLineBreak (lineBreak [c]) :=
        .inr ⟨c, isBreak_of_breaksLine here, lineBreak_cons_of_break (isBreak_of_breaksLine here) []⟩
      exact ⟨[c] :: closed, last, rfl, List.forall_mem_cons.2 ⟨alone, breaks⟩, none⟩
    | false =>
      rcases isBreak_of_not_breaksLine here with plain | ⟨rfl, rest, rfl⟩
      · cases closed with
        | nil => exact ⟨[], c :: last, rfl, nofun, (lineBreak_cons_of_plain plain last).trans none⟩
        | cons line closed =>
          obtain ⟨first, others⟩ := List.forall_mem_cons.1 breaks
          refine ⟨(c :: line) :: closed, last, rfl, List.forall_mem_cons.2 ⟨?_, others⟩, none⟩
          rwa [lineBreak_cons_of_plain plain]
      · -- the line feed is a line of its own, to which the carriage return is put
        rw [lines_cons, if_pos (show breaksLine '\n' rest = true from rfl)] at parts
        cases closed with
        | nil =>
          obtain ⟨rfl, -⟩ := List.cons.inj parts
          cases none
        | cons line closed =>
          obtain ⟨rfl, -⟩ := List.cons.inj parts
          exact ⟨['\r', '\n'] :: closed, last, rfl,
            List.forall_mem_cons.2 ⟨.inl rfl, (List.forall_mem_cons.1 breaks).2⟩, none⟩

theorem units_of_isBreak (h : isBreak c = true) : units c = 1 := by
  simp only [isBreak, Bool.or_eq_true, Bool.and_eq_true, decide_eq_true_eq, beq_iff_eq] at h
  rw [units, if_pos (by omega)]

theorem IsLineBreak.ne_nil {b : List Char} (h : IsLineBreak b) : b ≠ [] := by
  rcases h with rfl | ⟨c, -, rfl⟩ <;> exact List.cons_ne_nil _ _

theorem IsLineBreak.narrow {b : List Char} (h : IsLineBreak b) : ∀ c ∈ b, units c = 1 := by
  rcases h with rfl | ⟨c, break_, rfl⟩
  · exact List.forall_mem_cons.2 ⟨units_of_isBreak rfl, List.forall_mem_singleton.2 (units_of_isBreak rfl)⟩
  · exact List.forall_mem_singleton.2 (units_of_isBreak break_)

/-- Where a line has no break it is the last one. -/
theorem isLineBreak_iff {i : Nat} (here : (lines s)[i]? = some line) :
    (IsLineBreak (lineBreak line) ↔ i + 1 ≠ (lines s).length) ∧ (lineBreak line = [] ↔ i + 1 = (lines s).length) := by
  obtain ⟨closed, last, parts, breaks, none⟩ := exists_last s
  have length : (lines s).length = closed.length + 1 := by rw [parts, List.length_append, List.length_singleton]
  rw [parts] at here
  rcases Nat.lt_or_ge i closed.length with lt | ge
  · rw [List.getElem?_append_left lt] at here
    have breaks := breaks line (List.mem_of_getElem? here)
    exact ⟨iff_of_true breaks (by omega), iff_of_false breaks.ne_nil (by omega)⟩
  · obtain ⟨rfl, rfl⟩ : i = closed.length ∧ last = line := by
      rw [List.getElem?_append_right ge, List.getElem?_singleton] at here
      split at here
      · exact ⟨by omega, Option.some.inj here⟩
      · cases here
    exact ⟨iff_of_false (fun h => h.ne_nil none) (by omega), iff_of_true none length.symm⟩

end

/-! ### Places on a line -/

/-- The number of characters before a line. -/
def lineStart (s : List Char) (i : Nat) : Nat := ((lines s).take i).flatten.length

variable {s line : List Char} {i : Nat}

theorem lineStart_succ (here : (lines s)[i]? = some line) : lineStart s (i + 1) = lineStart s i + line.length := by
  rw [lineStart, List.take_add_one, here, Option.toList_some, List.flatten_append, List.length_append,
    List.flatten_singleton]
  rfl

theorem lineStart_mono (s : List Char) {j : Nat} (h : i ≤ j) : lineStart s i ≤ lineStart s j := by
  obtain ⟨n, rfl⟩ := Nat.exists_eq_add_of_le h
  rw [lineStart, lineStart, List.take_add, List.flatten_append, List.length_append]
  exact Nat.le_add_right _ _

theorem lineStart_of_le (h : (lines s).length ≤ i) : lineStart s i = s.length := by
  rw [lineStart, List.take_of_length_le h, lines_flatten]

theorem lineStart_le (s : List Char) (i : Nat) : lineStart s i ≤ s.length := by
  rw [← lineStart_of_le (Nat.le_add_left (lines s).length i)]
  exact lineStart_mono s (Nat.le_add_right i _)

theorem indexIn_eq (ls : List (List Char)) (p : Position) :
    indexIn ls p = (ls.take p.line).flatten.length + charsWithin (ls[p.line]?.getD []) p.column := by
  obtain ⟨i, k⟩ := p
  induction ls generalizing i with
  | nil => simp [indexIn, charsWithin]
  | cons line rest ih =>
    cases i with
    | zero => simp [indexIn]
    | succ i =>
      rw [indexIn, if_neg (Nat.succ_ne_zero i), Nat.add_sub_cancel, ih]
      simp [Nat.add_assoc]

theorem charIndex_of_line (here : (lines s)[i]? = some line) (k : Nat) :
    charIndex s ⟨i, k⟩ = lineStart s i + charsWithin line k := by
  rw [charIndex, indexIn_eq, here]
  rfl

/-- Behind the last line there is only the end of the text. -/
theorem charIndex_of_le (h : (lines s).length ≤ i) (k : Nat) : charIndex s ⟨i, k⟩ = s.length := by
  rw [charIndex, indexIn_eq, List.getElem?_eq_none h, Option.getD_none]
  exact lineStart_of_le h

theorem drop_lineStart (s : List Char) (i : Nat) : s.drop (lineStart s i) = ((lines s).drop i).flatten := by
  have parts : ((lines s).take i).flatten ++ ((lines s).drop i).flatten = s := by
    rw [← List.flatten_append, List.take_append_drop, lines_flatten]
  exact (congrArg (List.drop _) parts).symm.trans List.drop_left

/-- A line stands between those before it and those after it. -/
theorem split_at_line (here : (lines s)[i]? = some line) :
    s = s.take (lineStart s i) ++ line ++ s.drop (lineStart s (i + 1)) := by
  obtain ⟨lt, same⟩ := List.getElem?_eq_some_iff.1 here
  have rest : s.drop (lineStart s i) = line ++ s.drop (lineStart s (i + 1)) := by
    rw [drop_lineStart, drop_lineStart, List.drop_eq_getElem_cons lt, List.flatten_cons, same]
  rw [List.append_assoc, ← rest, List.take_append_drop]

/-- Columns are found in the content of a line as far as it goes, and then in its break. -/
theorem charIndex_content (here : (lines s)[i]? = some line) (k : Nat) :
    charIndex s ⟨i, k⟩ =
      lineStart s i + charsWithin (content line) k + min (k - width (content line)) (lineBreak line).length := by
  have narrow : ∀ c ∈ lineBreak line, units c = 1 := by
    by_cases last : i + 1 = (lines s).length
    · rw [(isLineBreak_iff here).2.2 last]
      exact nofun
    · exact ((isLineBreak_iff here).1.2 last).narrow
  have parts : charsWithin line k = charsWithin (content line ++ lineBreak line) k := by
    rw [content_append_lineBreak]
  rw [charIndex_of_line here, parts, Nat.add_assoc]
  rcases Nat.le_total k (width (content line)) with short | long
  · rw [Text.charsWithin_append_of_le _ short, Nat.sub_eq_zero_of_le short, Nat.zero_min, Nat.add_zero]
  · rw [Text.charsWithin_append_of_width_le _ long, Text.charsWithin_of_width_le long,
      Text.charsWithin_of_narrow narrow]

/-! ### Columns behind the end of a line -/

/-- The edit that inserts a text at a place. -/
def insertion (p : Position) (text : List Char) : Edit := ⟨some ⟨p, p⟩, text⟩

theorem apply_insertion {p : Position} {before after : List Char} (at_ : charIndex (before ++ after) p = before.length)
    (text : List Char) : (insertion p text).apply (before ++ after) = before ++ text ++ after := by
  show (before ++ after).take (charIndex _ p) ++ text ++ (before ++ after).drop (max (charIndex _ p) (charIndex _ p)) = _
  rw [Nat.max_self, at_, List.take_left, List.drop_left]

/-- **Over-long columns.** A column behind the end of a line goes on over the break of that line. So it is the place
where the content ends on the last line only; on any other line a text inserted there comes behind the break, or
between its two characters. -/
theorem insert_overlong {s line : List Char} {i k : Nat} (here : (lines s)[i]? = some line)
    (long : width (content line) < k) :
    ∃ before after, s = before ++ content line ++ lineBreak line ++ after ∧ before.length = lineStart s i ∧
      charIndex s ⟨i, k⟩ =
        (before ++ content line).length + min (k - width (content line)) (lineBreak line).length ∧
      (charIndex s ⟨i, k⟩ = (before ++ content line).length ↔ i + 1 = (lines s).length) ∧
      ∀ text, (insertion ⟨i, k⟩ text).apply s =
        before ++ content line ++ (lineBreak line).take (k - width (content line)) ++ text ++
          ((lineBreak line).drop (k - width (content line)) ++ after) := by
  have split := split_at_line here
  generalize hbefore : s.take (lineStart s i) = before at split
  generalize s.drop (lineStart s (i + 1)) = after at split
  have start : before.length = lineStart s i := by rw [← hbefore, List.length_take_of_le (lineStart_le s i)]
  have parts : s = before ++ content line ++ lineBreak line ++ after := by
    rw [List.append_assoc before, content_append_lineBreak]
    exact split
  have index : charIndex s ⟨i, k⟩ =
      (before ++ content line).length + min (k - width (content line)) (lineBreak line).length := by
    rw [charIndex_content here, Text.charsWithin_of_width_le (Nat.le_of_lt long), List.length_append, start]
  refine ⟨before, after, parts, start, index, ?_, fun text => ?_⟩
  · have last := (isLineBreak_iff here).2
    rw [← last, index, ← List.length_eq_zero_iff]
    omega
  · -- the place parts the break
    have cut : s = (before ++ content line ++ (lineBreak line).take (k - width (content line))) ++
        ((lineBreak line).drop (k - width (content line)) ++ after) := by
      rw [List.append_assoc _ (List.take _ _), ← List.append_assoc (List.take _ _), List.take_append_drop,
        ← List.append_assoc]
      exact parts
    have at_ : charIndex s ⟨i, k⟩ =
        (before ++ content line ++ (lineBreak line).take (k - width (content line))).length := by
      rw [index]
      simp only [List.length_append, List.length_take]
    rw [cut] at at_
    have inserted := apply_insertion at_ text
    rwa [← cut] at inserted

/-- A line with a break of two characters, and a last line. -/
def twoLines : List Char := "a\r\n😀".toList

theorem twoLines_overlong :
    (insertion ⟨0, 2⟩ ['b']).apply twoLines = "a\rb\n😀".toList ∧ charIndex twoLines ⟨1, 9⟩ = 4 := by
  have first : (lines twoLines)[0]? = some "a\r\n".toList := by decide +kernel
  have second : (lines twoLines)[1]? = some "😀".toList := by decide +kernel
  obtain ⟨before, after, parts, start, -, -, inserted⟩ := insert_overlong first (show 1 < 2 by decide)
  obtain ⟨before', after', -, start', -, stays, -⟩ := insert_overlong second (show 2 < 9 by decide)
  constructor
  · obtain rfl : before = [] := List.eq_nil_of_length_eq_zero (start.trans (by decide +kernel))
    obtain rfl : after = "😀".toList := List.append_cancel_left (parts.symm.trans (by decide +kernel))
    exact inserted ['b']
  · have here := stays.2 (by decide +kernel)
    rw [List.length_append, start'] at here
    exact here.trans (by decide +kernel)

/-- Where the protocol has an over-long column stand for the end of a line, an edit lands on the next line. -/
theorem overlong_misplaced :
    let s := "a;\nb;".toList
    (lines s)[0]? = some "a;\n".toList ∧ width (content "a;\n".toList) < 9 ∧
      charIndex s ⟨0, 9⟩ ≠ lineStart s 0 + (content "a;\n".toList).length ∧
      applyAll [insertion ⟨0, 9⟩ ['c']] s = "a;\ncb;".toList ∧
      applyAll [insertion ⟨0, 9⟩ ['c']] s ≠ "a;c\nb;".toList := by
  decide +kernel

end ShaderDiagnostics.Document
