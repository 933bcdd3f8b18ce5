import Mathlib.Data.List.Forall2
import ShaderDiagnostics.Proofs.Text.Trimming
import ShaderDiagnostics.Text.Lines

/-!
# Lines of a text

Lines hold no line feeds, and a text that goes on behind a line feed has the lines of both parts
(`Text.splitLines_append_feed`). For the lines of a report it matters whether a text is closed, that is, whether its
last line is: the lines of a closed text stay as they are when it goes on (`Text.reportLines_append_of_closed`), and an
open line can be closed, by which it may lose a carriage return (`Text.reportLines_append_of_open`). That is all that
can be told apart of a line and the line without the carriage return at its end (`Text.Kept`), for blanks around a line
do not count.
-/

namespace ShaderDiagnostics.Text

variable {c : Char} {s t line : List Char}

/-! ### Between line feeds -/

theorem splitLines_feed (rest : List Char) : splitLines ('\n' :: rest) = [] :: splitLines rest := rfl

theorem splitLines_cons (rest : List Char) (h : c ≠ '\n') :
    ∃ first others, splitLines rest = first :: others ∧ splitLines (c :: rest) = (c :: first) :: others := by
  obtain ⟨first, others, parts⟩ := List.exists_cons_of_ne_nil (splitLines_ne_nil rest)
  exact ⟨first, others, parts, by rw [splitLines, if_neg (by simpa using h), parts]⟩

theorem notMem_of_mem_splitLines (mem : line ∈ splitLines s) : '\n' ∉ line := by
  induction s generalizing line with
  | nil =>
    obtain rfl := List.mem_singleton.1 mem
    exact List.not_mem_nil
  | cons c s ih =>
    by_cases feed : c = '\n'
    · rw [feed, splitLines_feed] at mem
      rcases List.mem_cons.1 mem with rfl | mem
      · exact List.not_mem_nil
      · exact ih mem
    · obtain ⟨first, others, parts, whole⟩ := splitLines_cons s feed
      rw [whole] at mem
      rw [parts] at ih
      rcases List.mem_cons.1 mem with rfl | mem
      · exact List.not_mem_cons_of_ne_of_not_mem (Ne.symm feed) (ih List.mem_cons_self)
      · exact ih (List.mem_cons_of_mem first mem)

theorem splitLines_append_feed (s t : List Char) : splitLines (s ++ '\n' :: t) = splitLines s ++ splitLines t := by
  induction s with
  | nil => rfl
  | cons c s ih =>
    by_cases feed : c = '\n'
    · rw [feed, List.cons_append, splitLines_feed, splitLines_feed, ih, List.cons_append]
    · obtain ⟨first, others, parts, whole⟩ := splitLines_cons s feed
      obtain ⟨first', others', parts', whole'⟩ := splitLines_cons (s ++ '\n' :: t) feed
      rw [ih, parts, List.cons_append] at parts'
      obtain ⟨rfl, rfl⟩ := List.cons.inj parts'
      rw [List.cons_append, whole', whole, List.cons_append]

theorem splitLines_of_notMem (h : '\n' ∉ line) : splitLines line = [line] := by
  induction line with
  | nil => rfl
  | cons c line ih =>
    obtain ⟨other, later⟩ := List.ne_and_not_mem_of_not_mem_cons h
    obtain ⟨first, others, parts, whole⟩ := splitLines_cons line (Ne.symm other)
    rw [ih later] at parts
    obtain ⟨rfl, rfl⟩ := List.cons.inj parts
    exact whole

/-! ### Carriage returns -/

/-- The second line is the first one, perhaps without a carriage return at its end. -/
def Kept (line line' : List Char) : Prop := line' = line ∨ line = line' ++ ['\r']

theorem kept_dropReturn (line : List Char) : Kept line (dropReturn line) := by
  fun_induction dropReturn line with
  | case1 => exact .inl rfl
  | case2 c ret => exact .inr (by rw [eq_of_beq ret]; rfl)
  | case3 c other => exact .inl rfl
  | case4 c d rest ih => exact ih.imp (congrArg (c :: ·)) (congrArg (c :: ·))

theorem forall₂_kept_refl (lines : List (List Char)) : List.Forall₂ Kept lines lines :=
  List.forall₂_same.2 fun _ _ => .inl rfl

theorem Kept.trim_eq {line' : List Char} (h : Kept line line') : trim line' = trim line := by
  rcases h with rfl | rfl
  · rfl
  · exact (trim_append line' (List.forall_mem_singleton.2 rfl)).symm

theorem dropReturn_isPrefix (line : List Char) : dropReturn line <+: line := by
  rcases kept_dropReturn line with same | ret
  · exact ⟨[], by rw [List.append_nil, same]⟩
  · exact ⟨['\r'], ret.symm⟩

theorem dropReturn_cons (h : c ≠ '\r') (line : List Char) : dropReturn (c :: line) = c :: dropReturn line := by
  cases line with
  | nil => simp [dropReturn, h]
  | cons d rest => rfl

theorem notMem_of_mem_sourceLines (mem : line ∈ sourceLines s) : '\n' ∉ line := by
  obtain ⟨whole, part, rfl⟩ := List.mem_map.1 mem
  exact fun here => notMem_of_mem_splitLines part ((dropReturn_isPrefix whole).subset here)

/-! ### Closed texts -/

/-- The text ends with a line feed, or has nothing that could be left open. -/
def Closed (s : List Char) : Prop := s = [] ∨ s.getLast? = some '\n'

/-- The last line of a text stands behind the last line feed, if there is one. -/
theorem exists_lastLine (s : List Char) :
    ∃ line, '\n' ∉ line ∧ (s = line ∨ ∃ before, s = before ++ '\n' :: line) := by
  induction s with
  | nil => exact ⟨[], List.not_mem_nil, .inl rfl⟩
  | cons c s ih =>
    obtain ⟨line, none, rfl | ⟨before, rfl⟩⟩ := ih
    · by_cases feed : c = '\n'
      · exact ⟨_, none, .inr ⟨[], by rw [feed]; rfl⟩⟩
      · exact ⟨c :: s, List.not_mem_cons_of_ne_of_not_mem (Ne.symm feed) none, .inl rfl⟩
    · exact ⟨line, none, .inr ⟨c :: before, rfl⟩⟩

/-- The last line is empty exactly if the text is closed. -/
theorem exists_splitLines (s : List Char) :
    ∃ before line, splitLines s = before ++ [line] ∧ (line = [] ↔ Closed s) := by
  obtain ⟨line, none, rfl | ⟨before, rfl⟩⟩ := exists_lastLine s
  · have last : s.getLast? ≠ some '\n' := fun feed => none (List.mem_of_getLast? feed)
    exact ⟨[], s, splitLines_of_notMem none, by simp [Closed, last]⟩
  · refine ⟨splitLines before, line, ?_, ?_⟩
    · rw [splitLines_append_feed, splitLines_of_notMem none]
    · cases line with
      | nil => simp [Closed]
      | cons c line =>
        have last : (c :: line).getLast? ≠ some '\n' := fun feed => none (List.mem_of_getLast? feed)
        simp [Closed, List.getLast?_cons_cons, last]

/-! ### Lines of a report -/

theorem closeLines_append (before : List (List Char)) {after : List (List Char)} (more : after ≠ []) :
    closeLines (before ++ after) = before.map dropReturn ++ closeLines after := by
  induction before with
  | nil => rfl
  | cons line before ih =>
    obtain ⟨next, rest, parts⟩ := List.exists_cons_of_ne_nil (List.append_ne_nil_of_right_ne_nil before more)
    rw [List.cons_append, parts, closeLines, ← parts, ih]
    rfl

theorem reportLines_append_feed (s t : List Char) :
    reportLines (s ++ '\n' :: t) = sourceLines s ++ reportLines t := by
  rw [reportLines, splitLines_append_feed, closeLines_append _ (splitLines_ne_nil t)]
  rfl

/-- Lines of a closed text do not go on. -/
theorem reportLines_append_of_closed (closed : Closed s) (t : List Char) :
    reportLines (s ++ t) = reportLines s ++ reportLines t := by
  rcases closed with rfl | feed
  · rfl
  · obtain ⟨before, rfl⟩ := List.getLast?_eq_some_iff.1 feed
    rw [List.append_assoc, List.cons_append, List.nil_append, reportLines_append_feed, reportLines_append_feed,
      List.append_assoc]
    rfl

/-- A line feed closes the line that a text leaves open. -/
theorem reportLines_append_of_open (unclosed : ¬ Closed s) (t : List Char) :
    ∃ before line, reportLines s = before ++ [line] ∧
      reportLines (s ++ '\n' :: t) = before ++ dropReturn line :: reportLines t := by
  obtain ⟨before, line, parts, empty⟩ := exists_splitLines s
  refine ⟨before.map dropReturn, line, ?_, ?_⟩
  · have filled : line ≠ [] := fun nothing => unclosed (empty.1 nothing)
    rw [reportLines, parts, closeLines_append before (List.cons_ne_nil line []), closeLines, if_neg filled]
  · rw [reportLines_append_feed, sourceLines, parts, List.map_append, List.append_assoc]
    rfl

end ShaderDiagnostics.Text
