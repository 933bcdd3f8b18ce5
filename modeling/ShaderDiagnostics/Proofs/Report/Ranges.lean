import ShaderDiagnostics.Proofs.Pattern.Bounds
import ShaderDiagnostics.Proofs.Report.Snippets
import ShaderDiagnostics.Proofs.Text.Columns
import ShaderDiagnostics.Proofs.Text.Lines

/-!
# Ranges of diagnostics

The range of a diagnostic lies in the source (`Report.read_within`). Its line is one of the source, because a number
that is none stands for the first line, and there always is a first one. Its columns are those of the line, of the line
without the blanks around it, or of a match in the line with its comments blanked; whatever pattern a snippet writes, a
match lies in the text that is searched, and that text is as wide as the line.
-/

namespace ShaderDiagnostics.Report

open Pattern Text

/-- The columns lie in order on the line. -/
structure Columns.Within (columns : Columns) (line : List Char) : Prop where
  ordered : columns.start ≤ columns.stop
  fits : columns.stop ≤ width line

variable {line : List Char} {columns : Columns}

theorem within_lineColumns (line : List Char) : (lineColumns line).Within line :=
  ⟨Nat.zero_le _, Nat.le_refl _⟩

theorem BetweenBlanks.within (h : BetweenBlanks line columns) : columns.Within line := by
  obtain ⟨lead, kept, trail, rfl, -, -, rfl⟩ := h
  constructor
  · show width lead ≤ width (lead ++ kept)
    rw [width_append]
    exact Nat.le_add_right _ _
  · show width (lead ++ kept) ≤ width (lead ++ kept ++ trail)
    rw [width_append _ trail]
    exact Nat.le_add_right _ _

/-- Blanking the comments of a line keeps its width. -/
theorem width_blanked (line : List Char) : width (blanked line) = width line := by
  rw [blanked, width_flatMap_cover, map_fst_scan]

/-- Whatever a snippet writes, the columns of its match lie on the line. -/
theorem within_findSnippet {snippet : List Char} (h : '\n' ∉ line) (found : findSnippet line snippet = some columns) :
    columns.Within line := by
  rw [findSnippet, stripComments_eq_blanked h] at found
  split at found
  next => cases found
  next p _ =>
    split at found
    next m only =>
      obtain rfl := Option.some.inj found
      have mem : m ∈ p.matches_ (blanked line) := by
        rw [only]
        exact List.mem_singleton_self m
      exact ⟨width_take_mono _ (mem_matches mem).1, width_blanked line ▸ width_take_le _ _⟩
    next => cases found

theorem Entry.within_columns (e : Entry) (marking : Marking) (h : '\n' ∉ line) :
    (e.columns line marking).Within line := by
  rw [Entry.columns]
  split
  · exact within_lineColumns line
  · cases found : e.snippet.bind (findSnippet line) with
    | none => exact (betweenBlanks_trimmedColumns line).within
    | some columns =>
      obtain ⟨snippet, -, found⟩ := Option.bind_eq_some_iff.1 found
      exact within_findSnippet h found

/-- Whatever number is reported, it stands for a line if there is one. -/
theorem lineIndex_lt {count : Nat} (pos : 0 < count) (reported : Option Nat) : lineIndex count reported < count := by
  cases reported with
  | none => exact pos
  | some n =>
    simp only [lineIndex, Bool.and_eq_true, decide_eq_true_eq]
    split <;> omega

/-- The diagnostic of a report line, and the line of the source that it marks. -/
theorem readLine_eq_some {lines : List (List Char)} {marking : Marking} {out : List Char} {d : Diagnostic}
    (nonempty : lines ≠ []) (reads : readLine lines marking out = some d) :
    ∃ (e : Entry) (index : Nat) (line : List Char), lines[index]? = some line ∧
      d.range = ⟨⟨index, (e.columns line marking).start⟩, ⟨index, (e.columns line marking).stop⟩⟩ := by
  rw [readLine] at reads
  split at reads
  next => cases reads
  next e _ =>
    split at reads
    next => cases reads
    next =>
      obtain rfl := Option.some.inj reads
      have lt := lineIndex_lt (List.length_pos_of_ne_nil nonempty) e.line
      refine ⟨e, lineIndex lines.length e.line, lines[lineIndex lines.length e.line], List.getElem?_eq_getElem lt, ?_⟩
      rw [Entry.diagnostic, List.getElem?_eq_getElem lt, Option.getD_some]

theorem within_of_mem_read {marking : Marking} {source report : List Char} {d : Diagnostic}
    (mem : d ∈ read marking source report) :
    ∃ line, (sourceLines source)[d.range.start.line]? = some line ∧ d.range.stop.line = d.range.start.line ∧
      Columns.Within ⟨d.range.start.column, d.range.stop.column⟩ line := by
  obtain ⟨out, -, reads⟩ := List.mem_filterMap.1 mem
  obtain ⟨e, index, line, here, range⟩ := readLine_eq_some (sourceLines_ne_nil source) reads
  rw [range]
  exact ⟨line, here, rfl, e.within_columns marking (notMem_of_mem_sourceLines (List.mem_of_getElem? here))⟩

/-- Every diagnostic of a report marks columns on one line of the source, in order and within the width of that line,
whatever the report says. -/
theorem read_within (marking : Marking) (source report : List Char) :
    ∀ d ∈ read marking source report, ∃ line, (sourceLines source)[d.range.start.line]? = some line ∧
      d.range.stop.line = d.range.start.line ∧ d.range.start.column ≤ d.range.stop.column ∧
      d.range.stop.column ≤ width line := by
  intro d mem
  obtain ⟨line, here, same, within⟩ := within_of_mem_read mem
  exact ⟨line, here, same, within.ordered, within.fits⟩

/-- A blank line, and a comment that ends with a character of two columns. -/
def smiles : List Char := "\n//😀".toList

/-- A pattern that matches up to the middle of that character, one that matches nothing, and a number that is no line. -/
def smilesReport : List Char :=
  "ERROR: 0:2: '^ {3}' : half\nERROR: 0:2: '(?:)$' : end\nERROR: 0:9: 'a' : nowhere".toList

theorem smiles_within :
    (read ⟨false⟩ smiles smilesReport).map (·.range) =
        [⟨⟨1, 0⟩, ⟨1, 3⟩⟩, ⟨⟨1, 4⟩, ⟨1, 4⟩⟩, ⟨⟨0, 0⟩, ⟨0, 0⟩⟩] ∧
      ∃ line, (sourceLines smiles)[1]? = some line ∧ 3 ≤ width line := by
  have ranges : (read ⟨false⟩ smiles smilesReport).map (·.range) =
      [⟨⟨1, 0⟩, ⟨1, 3⟩⟩, ⟨⟨1, 4⟩, ⟨1, 4⟩⟩, ⟨⟨0, 0⟩, ⟨0, 0⟩⟩] := by
    decide +kernel
  have half : (⟨⟨1, 0⟩, ⟨1, 3⟩⟩ : Range) ∈ (read ⟨false⟩ smiles smilesReport).map (·.range) := by
    rw [ranges]
    exact List.mem_cons_self
  obtain ⟨d, mem, range⟩ := List.mem_map.1 half
  obtain ⟨line, here, -, -, fits⟩ := read_within ⟨false⟩ smiles smilesReport d mem
  rw [range] at here fits
  exact ⟨ranges, line, here, fits⟩

end ShaderDiagnostics.Report
