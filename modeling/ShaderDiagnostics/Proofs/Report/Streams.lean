import ShaderDiagnostics.Host.Streams
import ShaderDiagnostics.Proofs.Text.Lines
import ShaderDiagnostics.Report.Entry

/-!
# The report of two streams

What a validator prints on its two streams makes one report. It has the lines of the first stream, and behind them
those of the second one: a stream that leaves its last line open gets a line feed between (`Host.lines_report`). What
becomes of the open line is all that the streams have to do with each other, for a line feed closes it and so takes
away a carriage return at its end. But blanks around a line do not count when it is read, and a carriage return is
one: the diagnostics of the report are those of the first stream and then those of the second (`Report.read_streams`).
-/

namespace ShaderDiagnostics

open Text

/-- The report has the lines of the first stream, then those of the second one. -/
theorem Host.lines_report (out err : List UInt8) :
    List.Forall₂ Kept (reportLines (decodeLossy out) ++ reportLines (decodeLossy err))
      (reportLines (Host.report out err)) := by
  unfold Host.report
  dsimp only
  split
  next none =>
    have nothing : reportLines (decodeLossy err) = [] := by
      rw [List.isEmpty_iff.1 none, decodeLossy, decodeParts]
      rfl
    rw [nothing, List.append_nil]
    exact forall₂_kept_refl _
  · split
    next closed =>
      have closed : Closed (decodeLossy out) := by simpa [Closed] using closed
      rw [reportLines_append_of_closed closed]
      exact forall₂_kept_refl _
    next unclosed =>
      have unclosed : ¬ Closed (decodeLossy out) := by simpa [Closed] using unclosed
      obtain ⟨before, line, open_, closes⟩ := reportLines_append_of_open unclosed (decodeLossy err)
      rw [open_, closes, List.append_assoc]
      exact List.rel_append (forall₂_kept_refl before) (.cons (kept_dropReturn line) (forall₂_kept_refl _))

namespace Report

/-- Reading a line does not depend on a carriage return at its end. -/
theorem readLine_congr {line line' : List Char} (h : Kept line line') (lines : List (List Char)) (marking : Marking) :
    readLine lines marking line' = readLine lines marking line := by
  unfold readLine Entry.ofLine?
  rw [h.trim_eq]

theorem filterMap_readLine_congr {lines kept : List (List Char)} (h : List.Forall₂ Kept lines kept)
    (sources : List (List Char)) (marking : Marking) :
    kept.filterMap (readLine sources marking) = lines.filterMap (readLine sources marking) := by
  induction h with
  | nil => rfl
  | cons first _ ih => rw [List.filterMap_cons, List.filterMap_cons, readLine_congr first, ih]

/-- **The streams do not interfere.** The diagnostics of a report are those of the first stream and then those of the
second one, each read on its own. For the report has just the lines of the first stream, and then those of the second
one, where no line loses more than a carriage return at its end. -/
theorem read_streams (marking : Marking) (source : List Char) (out err : List UInt8) :
    read marking source (Host.report out err) =
        read marking source (decodeLossy out) ++ read marking source (decodeLossy err) ∧
      List.Forall₂ Kept (reportLines (decodeLossy out) ++ reportLines (decodeLossy err))
        (reportLines (Host.report out err)) := by
  have lines := Host.lines_report out err
  refine ⟨?_, lines⟩
  unfold read
  rw [filterMap_readLine_congr lines, List.filterMap_append]

/-- A line that is left open is closed. -/
example : reportLines (Host.report (bytesOf "a\nb\r") (bytesOf "\nc")) =
    ["a".toList, "b".toList, [], "c".toList] := by decide +kernel

end Report

end ShaderDiagnostics
