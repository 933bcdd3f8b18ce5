import Mathlib.Data.List.Chain
import Mathlib.Data.List.TakeWhile
import ShaderDiagnostics.Proofs.Pattern.Choices
import ShaderDiagnostics.Proofs.Pattern.Replacing
import ShaderDiagnostics.Proofs.Text.CodeUnits
import ShaderDiagnostics.Report.Comment

/-!
# Comments of a line

Comments are found by a pattern and replaced by spaces. The same line comes out of a scan that passes each character
once and knows only whether it is in a comment, and in one of which kind (`Report.stripComments_scans`). The pattern
prefers a block that is closed to one that is not, and an end of it as near as possible. So a comment has an extent
that one can compute (`Report.commentExtent`), and the scan passes exactly that far before it is outside comments
again (`Report.scan_comment`).

A character becomes as many spaces as it has columns. That keeps every column of the line in its place, and it leaves
no comment behind, since what stands at the edges of a comment is a space.
-/

namespace ShaderDiagnostics.Report

open Pattern Text

/-! ### Scanning a line -/

/-- Where the scan of a line is. -/
inductive Zone where
  /-- Outside comments. -/
  | code
  /-- In a comment that goes on to the next closing mark. -/
  | block
  /-- In a comment that takes the rest of the line. -/
  | rest
  deriving DecidableEq, Repr

/-- The characters of a line, each with whether it belongs to a comment. -/
def scan : Zone → List Char → List (Char × Bool)
  | _, [] => []
  | .code, '/' :: '/' :: s => ('/', true) :: ('/', true) :: scan .rest s
  | .code, '/' :: '*' :: s => ('/', true) :: ('*', true) :: scan .block s
  | .block, '*' :: '/' :: s => ('*', true) :: ('/', true) :: scan .code s
  | zone, c :: s => (c, zone ≠ .code) :: scan zone s

/-- What is shown of a character: itself, or as many spaces as it has columns if it belongs to a comment. -/
def cover (m : Char × Bool) : List Char := if m.2 then blanks [m.1] else [m.1]

/-- The line with the characters of comments made blank. -/
def blanked (line : List Char) : List Char := (scan .code line).flatMap cover

/-- Two characters that open a comment. -/
def Opens (c d : Char) : Prop := c = '/' ∧ (d = '/' ∨ d = '*')

instance (c d : Char) : Decidable (Opens c d) := inferInstanceAs (Decidable (_ ∧ _))

theorem map_fst_scan (zone : Zone) (s : List Char) : (scan zone s).map Prod.fst = s := by
  fun_induction scan zone s <;> simp_all

/-- Outside comments a character stands for itself unless it opens one. -/
theorem scan_code_cons {c : Char} {s : List Char} (h : ∀ d, s.head? = some d → ¬ Opens c d) :
    scan .code (c :: s) = (c, false) :: scan .code s := by
  rw [scan]
  · rfl
  · rintro s' - rfl rfl
    exact h '/' rfl ⟨rfl, .inl rfl⟩
  · rintro s' - rfl rfl
    exact h '*' rfl ⟨rfl, .inr rfl⟩
  · nofun

theorem scan_rest (s : List Char) : scan .rest s = s.map fun c => (c, true) := by
  induction s with
  | nil => rfl
  | cons c s ih => simp [scan, ih]

/-- The number of characters up to the end of a block comment that is open at the start of a text. -/
def closing : List Char → Option Nat
  | [] => none
  | c :: s => if ['*', '/'] <+: c :: s then some 2 else (closing s).map (1 + ·)

theorem scan_block (s : List Char) :
    scan .block s =
      match closing s with
      | some n => (s.take n).map (fun c => (c, true)) ++ scan .code (s.drop n)
      | none => s.map fun c => (c, true) := by
  induction s with
  | nil => rfl
  | cons c s ih =>
    by_cases closes : ['*', '/'] <+: c :: s
    · obtain ⟨s', hs⟩ := closes
      obtain ⟨rfl, rfl⟩ := List.cons.inj hs
      simp [scan, closing]
    · have inside : scan .block (c :: s) = (c, true) :: scan .block s := by
        rw [scan]
        · rfl
        · nofun
        · nofun
        · rintro s' - rfl rfl
          exact closes ⟨s', rfl⟩
      rw [inside, ih, closing, if_neg closes]
      cases closing s with
      | none => rfl
      | some n => simp [Nat.add_comm 1]

/-! ### The extent of a comment -/

/-- The extent of a comment: up to its closing mark, or else all of the line that lies ahead. -/
def commentExtent : Extent
  | '/' :: '*' :: s => some (2 + (closing (s.takeWhile inLine)).getD (s.takeWhile inLine).length)
  | '/' :: '/' :: s => some (2 + (s.takeWhile inLine).length)
  | _ => none

theorem prefix_takeWhile_iff {chars : Char → Bool} {w s : List Char} (h : ∀ c ∈ w, chars c = true) :
    w <+: s.takeWhile chars ↔ w <+: s := by
  constructor
  · exact fun within => within.trans (List.takeWhile_prefix chars)
  · rintro ⟨rest, rfl⟩
    rw [List.takeWhile_append_of_pos h]
    exact List.prefix_append ..

/-- The closing mark of a comment is the next one in the line. -/
theorem untilExtent_closing (s : List Char) :
    untilExtent inLine (literalExtent ['*', '/']) s = closing (s.takeWhile inLine) := by
  induction s with
  | nil => rfl
  | cons c s ih =>
    rw [untilExtent, ih]
    cases hc : inLine c with
    | false =>
      have other : ¬ ['*', '/'] <+: c :: s := by
        rintro ⟨s', hs⟩
        obtain rfl := (List.cons.inj hs).1
        cases hc
      simp [hc, closing, literalExtent, other]
    | true =>
      have same : ['*', '/'] <+: c :: s.takeWhile inLine ↔ ['*', '/'] <+: c :: s := by
        rw [← List.takeWhile_cons_of_pos hc]
        exact prefix_takeWhile_iff (by simp [inLine])
      rw [List.takeWhile_cons_of_pos hc, closing, if_pos rfl, literalExtent]
      simp only [same]
      split <;> rfl

theorem measured_comment : Measured commentPattern commentExtent := by
  have block := (measured_literal ['/', '*']).seq_single
    (measured_until inLine (measured_literal ['*', '/'])) (single_literal _)
  have unclosed := (measured_literal ['/', '*']).seq_single (measured_run inLine) (single_literal _)
  have rest := (measured_literal ['/', '/']).seq_single (measured_run inLine) (single_literal _)
  refine (measured_alt block (measured_alt unclosed rest)).congr fun s => ?_
  unfold commentExtent
  split
  next t => cases ht : closing (t.takeWhile inLine) <;> simp [seqExtent, literalExtent, untilExtent_closing, ht]
  · simp [seqExtent, literalExtent]
  next noBlock noRest =>
    have noBlock : ¬ ['/', '*'] <+: s := by
      rintro ⟨t, rfl⟩
      exact noBlock t rfl
    have noRest : ¬ ['/', '/'] <+: s := by
      rintro ⟨t, rfl⟩
      exact noRest t rfl
    simp [seqExtent, literalExtent, noBlock, noRest]

theorem proper_comment : commentExtent.Proper := by
  refine measured_comment.proper fun s => ?_
  unfold commentExtent
  split <;> simp

theorem commentExtent_eq_none_iff {c : Char} {s : List Char} :
    commentExtent (c :: s) = none ↔ ∀ d, s.head? = some d → ¬ Opens c d := by
  constructor
  · rintro none d first ⟨rfl, mark⟩
    obtain ⟨s, rfl⟩ := List.head?_eq_some_iff.1 first
    rcases mark with rfl | rfl <;> cases none
  · intro plain
    unfold commentExtent
    split
    next hs =>
      obtain ⟨rfl, rfl⟩ := List.cons.inj hs
      exact absurd ⟨rfl, .inr rfl⟩ (plain '*' rfl)
    next hs =>
      obtain ⟨rfl, rfl⟩ := List.cons.inj hs
      exact absurd ⟨rfl, .inl rfl⟩ (plain '/' rfl)
    · rfl

/-! ### The scan replaces comments -/

theorem inLine_of_notMem {line : List Char} (h : '\n' ∉ line) : ∀ c ∈ line, inLine c = true := by
  intro c hc
  have other : c ≠ '\n' := fun same => h (same ▸ hc)
  simpa [inLine] using other

/-- All of a line lies ahead in it. -/
theorem takeWhile_inLine {line : List Char} (h : '\n' ∉ line) : line.takeWhile inLine = line :=
  List.takeWhile_eq_self_iff.2 (inLine_of_notMem h)

/-- A comment at the start of a line is scanned as a whole, and then the scan goes on outside comments. -/
theorem scan_comment {line : List Char} (h : '\n' ∉ line) {n : Nat} (comment : commentExtent line = some n) :
    scan .code line = (line.take n).map (fun c => (c, true)) ++ scan .code (line.drop n) := by
  unfold commentExtent at comment
  split at comment
  next s =>
    have all : s.takeWhile inLine = s := takeWhile_inLine fun mem => h (by simp [mem])
    obtain rfl := Option.some.inj comment
    rw [all, scan, scan_block]
    cases closing s with
    | none => simp [Nat.add_comm 2, scan]
    | some n => simp [Nat.add_comm 2]
  next s =>
    have all : s.takeWhile inLine = s := takeWhile_inLine fun mem => h (by simp [mem])
    obtain rfl := Option.some.inj comment
    rw [all, scan, scan_rest]
    simp [Nat.add_comm 2, scan]
  · cases comment

theorem blanks_append (s t : List Char) : blanks (s ++ t) = blanks s ++ blanks t := by
  rw [blanks, blanks, blanks, width_append, List.replicate_add]

theorem flatMap_cover_comment (s : List Char) : (s.map fun c => (c, true)).flatMap cover = blanks s := by
  induction s with
  | nil => rfl
  | cons c s ih =>
    rw [List.map_cons, List.flatMap_cons, ih, ← List.singleton_append, blanks_append]
    rfl

theorem blanked_scan {line : List Char} (h : '\n' ∉ line) : Scan commentExtent blanks line (blanked line) := by
  induction hn : line.length using Nat.strongRecOn generalizing line with
  | ind n ih =>
    cases comment : commentExtent line with
    | some k =>
      have shorter : (line.drop k).length < n := by
        have proper := proper_comment comment
        rw [List.length_drop]
        omega
      rw [blanked, scan_comment h comment, List.flatMap_append, flatMap_cover_comment]
      exact .hit comment (ih _ shorter (fun mem => h (List.mem_of_mem_drop mem)) rfl)
    | none =>
      cases line with
      | nil => exact .done
      | cons c s =>
        rw [blanked, scan_code_cons (commentExtent_eq_none_iff.1 comment)]
        exact .skip comment (ih s.length (by simp [← hn]) (fun mem => h (List.mem_cons_of_mem c mem)) rfl)

theorem stripComments_eq_blanked {line : List Char} (h : '\n' ∉ line) : stripComments line = blanked line :=
  (scan_replaceAll measured_comment proper_comment line).unique proper_comment (blanked_scan h)

/-! ### What the scan shows -/

theorem width_blanks (s : List Char) : width (blanks s) = width s := by
  have spaces : ∀ n, width (List.replicate n ' ') = n := fun n => by
    induction n with
    | zero => rfl
    | succ n ih => rw [List.replicate_succ, width_cons, ih, Nat.add_comm]; rfl
  exact spaces (width s)

theorem width_cover (m : Char × Bool) : width (cover m) = units m.1 := by
  unfold cover
  split
  · exact width_blanks [m.1]
  · rfl

theorem width_flatMap_cover (marked : List (Char × Bool)) :
    width (marked.flatMap cover) = width (marked.map Prod.fst) := by
  induction marked with
  | nil => rfl
  | cons m marked ih => rw [List.flatMap_cons, width_append, width_cover, ih]; rfl

/-- Whether each column belongs to a comment. -/
def commentColumns (line : List Char) : List Bool :=
  (scan .code line).flatMap fun m => List.replicate (units m.1) m.2

/-- Outside comments every column shows the unit that it has. -/
theorem codeUnits_cover (marked : List (Char × Bool)) (column : Nat)
    (outside : (marked.flatMap fun m => List.replicate (units m.1) m.2)[column]? = some false) :
    (codeUnits (marked.flatMap cover))[column]? = (codeUnits (marked.map Prod.fst))[column]? := by
  induction marked generalizing column with
  | nil => rfl
  | cons m marked ih =>
    rw [List.flatMap_cons] at outside
    rw [List.flatMap_cons, codeUnits_append, List.map_cons, codeUnits_cons]
    by_cases here : column < units m.1
    · rw [List.getElem?_append_left (by simpa using here), List.getElem?_replicate, if_pos here] at outside
      have shown : cover m = [m.1] := by simp [cover, Option.some.inj outside]
      rw [shown, List.getElem?_append_left (by simpa using here), List.getElem?_append_left (by simpa using here)]
      simp
    · have behind : units m.1 ≤ column := Nat.le_of_not_lt here
      rw [List.getElem?_append_right (by simpa using behind), List.length_replicate] at outside
      rw [List.getElem?_append_right (by simpa [width_cover] using behind),
        List.getElem?_append_right (by simpa using behind), length_codeUnits, width_cover, length_unitsOf]
      exact ih _ outside

/-! ### Nothing opens a comment any more -/

/-- A text in which nothing opens a comment. -/
abbrev Plain (s : List Char) : Prop := s.IsChain fun c d => ¬ Opens c d

theorem stripComments_of_plain {s : List Char} (plain : Plain s) : stripComments s = s := by
  have kept : Scan commentExtent blanks s s := by
    induction s with
    | nil => exact .done
    | cons c s ih =>
      obtain ⟨first, rest⟩ := List.isChain_cons.1 plain
      exact .skip (commentExtent_eq_none_iff.2 first) (ih rest)
  exact (scan_replaceAll measured_comment proper_comment s).unique proper_comment kept

theorem Plain.blanks_append {s : List Char} (plain : Plain s) (t : List Char) : Plain (blanks t ++ s) := by
  have spaces : ∀ n, Plain (List.replicate n ' ' ++ s) := fun n => by
    induction n with
    | zero => exact plain
    | succ n ih => exact List.isChain_cons.2 ⟨fun _ _ opens => absurd opens.1 (by decide), ih⟩
  exact spaces (width t)

theorem head?_cover (m : Char × Bool) (s : List Char) :
    (cover m ++ s).head? = some (if m.2 then ' ' else m.1) := by
  obtain ⟨n, hn⟩ := Nat.exists_eq_add_of_lt (units_pos m.1)
  unfold cover
  split
  · simp [blanks, hn, List.replicate_succ]
  · rfl

/-- The first character shown is a space or the first one of the text. -/
theorem head?_shown {zone : Zone} {s : List Char} {d : Char}
    (first : ((scan zone s).flatMap cover).head? = some d) : d = ' ' ∨ s.head? = some d := by
  have chars := map_fst_scan zone s
  generalize scan zone s = marked at chars first
  cases marked with
  | nil => cases first
  | cons m marked =>
    rw [List.flatMap_cons, head?_cover] at first
    subst chars
    obtain rfl := Option.some.inj first
    split
    · exact .inl rfl
    · exact .inr rfl

theorem plain_shown (zone : Zone) (s : List Char) : Plain ((scan zone s).flatMap cover) := by
  fun_induction scan zone s with
  | case1 => exact .nil
  | case2 s ih => exact (ih.blanks_append ['/']).blanks_append ['/']
  | case3 s ih => exact (ih.blanks_append ['*']).blanks_append ['/']
  | case4 s ih => exact (ih.blanks_append ['/']).blanks_append ['*']
  | case5 zone c s noRest noBlock _ ih =>
    cases zone with
    | block => exact ih.blanks_append [c]
    | rest => exact ih.blanks_append [c]
    | code =>
      refine List.isChain_cons.2 ⟨?_, ih⟩
      rintro d first ⟨rfl, mark⟩
      rcases head?_shown first with rfl | next
      · revert mark
        decide
      · obtain ⟨s, rfl⟩ := List.head?_eq_some_iff.1 next
        rcases mark with rfl | rfl
        · exact noRest s rfl rfl rfl
        · exact noBlock s rfl rfl rfl

/-- Nothing opens a comment where two characters open none. -/
theorem Plain.not_infix {s : List Char} (plain : Plain s) {c d : Char} (opens : Opens c d) : ¬ [c, d] <:+: s :=
  fun within => List.isChain_pair.1 ( List.IsChain.infix plain within) opens

/-- Of a line, the pattern blanks what the scan finds to be comments. The line stays as wide as it was, every column
outside comments keeps its unit, nothing opens a comment any more, and so to blank the comments again changes
nothing. -/
theorem stripComments_scans (line : List Char) (h : '\n' ∉ line) :
    stripComments line = blanked line ∧
      width (stripComments line) = width line ∧
      (∀ column : Nat, (commentColumns line)[column]? = some false →
        (codeUnits (stripComments line))[column]? = (codeUnits line)[column]?) ∧
      ¬ ['/', '/'] <:+: stripComments line ∧ ¬ ['/', '*'] <:+: stripComments line ∧
      stripComments (stripComments line) = stripComments line := by
  have plain : Plain (blanked line) := plain_shown .code line
  have chars : (scan .code line).map Prod.fst = line := map_fst_scan .code line
  rw [stripComments_eq_blanked h]
  refine ⟨rfl, ?_, ?_, plain.not_infix ⟨rfl, .inl rfl⟩, plain.not_infix ⟨rfl, .inr rfl⟩,
    stripComments_of_plain plain⟩
  · rw [blanked, width_flatMap_cover, chars]
  · intro column outside
    rw [blanked, codeUnits_cover _ column outside, chars]

/-- A line with a comment that its first three characters do not close, and one with an opening mark in it. -/
def slashes : List Char := "/*/😀*/a//*b".toList

theorem slashes_scanned :
    '\n' ∉ slashes ∧ stripComments slashes = "       a    ".toList ∧
      stripComments (stripComments slashes) = stripComments slashes := by
  have line : '\n' ∉ slashes := by decide
  have scanned := stripComments_scans slashes line
  exact ⟨line, scanned.1.trans (by decide), scanned.2.2.2.2.2⟩

end ShaderDiagnostics.Report
