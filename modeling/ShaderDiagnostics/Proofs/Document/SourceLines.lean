import ShaderDiagnostics.Proofs.Document.Lines
import ShaderDiagnostics.Proofs.Report.Ranges

/-!
# Lines of a source in its document

A diagnostic counts lines by line feeds, and a document has further breaks: a carriage return on its own and the other
characters that Unicode calls line breaks. Such a break is stray (`Document.strays`). Each of them gives the document
one more line than the source has (`Document.length_lines`), so the lines are the same exactly if there is none. A
place of the source is the same place of the document exactly if no stray break stands in front of it, where the
character right before the place does not matter (`Document.charIndex_source_iff`).
-/

namespace ShaderDiagnostics.Document

open Text (units width charsWithin splitLines dropReturn sourceLines splitLines_feed splitLines_cons
  dropReturn_isPrefix dropReturn_cons)

/-! ### Lines of a source -/

/-- The number of characters before a line of a source: those of the lines before it, with their line feeds. -/
def sourceStart (s : List Char) (i : Nat) : Nat := (((splitLines s).take i).flatMap (· ++ ['\n'])).length

section

variable {c : Char} {rest line : List Char}

theorem splitLines_cons_first (h : c ≠ '\n') (here : (splitLines (c :: rest))[0]? = some line) :
    ∃ first, line = c :: first ∧ (splitLines rest)[0]? = some first := by
  obtain ⟨first, others, parts, whole⟩ := splitLines_cons rest h
  rw [whole] at here
  exact ⟨first, (Option.some.inj here).symm, by rw [parts]; rfl⟩

theorem splitLines_cons_later (h : c ≠ '\n') (i : Nat) :
    (splitLines (c :: rest))[i + 1]? = (splitLines rest)[i + 1]? := by
  obtain ⟨first, others, parts, whole⟩ := splitLines_cons rest h
  rw [whole, parts]
  rfl

theorem sourceStart_feed (rest : List Char) (i : Nat) :
    sourceStart ('\n' :: rest) (i + 1) = sourceStart rest i + 1 := by
  rw [sourceStart, splitLines_feed, List.take_succ_cons, List.flatMap_cons, List.length_append, Nat.add_comm]
  rfl

theorem sourceStart_cons (h : c ≠ '\n') (i : Nat) :
    sourceStart (c :: rest) (i + 1) = sourceStart rest (i + 1) + 1 := by
  obtain ⟨first, others, parts, whole⟩ := splitLines_cons rest h
  rw [sourceStart, sourceStart, whole, parts]
  rfl

end

/-! ### Stray breaks -/

/-- The positions of the breaks in a text that are no line feeds, with or without a carriage return before them. -/
def strays : List Char → List Nat
  | [] => []
  | c :: rest => (if breaksLine c rest && c != '\n' then [0] else []) ++ (strays rest).map (· + 1)

/-- No stray break stands in front of a position, except right before it. -/
def Untouched (s : List Char) (index : Nat) : Prop := ∀ n ∈ strays s, index ≤ n + 1

instance (s : List Char) (index : Nat) : Decidable (Untouched s index) :=
  inferInstanceAs (Decidable (∀ n ∈ strays s, index ≤ n + 1))

section

variable {c : Char} {rest : List Char}

theorem strays_cons_stray (here : breaksLine c rest = true) (h : c ≠ '\n') :
    strays (c :: rest) = 0 :: (strays rest).map (· + 1) := by
  have other : (c != '\n') = true := bne_iff_ne.2 h
  rw [strays, here, other]
  rfl

theorem strays_cons (h : breaksLine c rest = true → c = '\n') : strays (c :: rest) = (strays rest).map (· + 1) := by
  have none : (breaksLine c rest && c != '\n') = false := by
    rw [Bool.and_eq_false_imp]
    exact fun here => bne_eq_false_iff_eq.2 (h here)
  rw [strays, none]
  rfl

theorem Untouched.tail {index : Nat} (h : Untouched (c :: rest) (index + 1)) : Untouched rest index := by
  intro n mem
  have later : n + 1 ∈ strays (c :: rest) := List.mem_append_right _ (List.mem_map.2 ⟨n, mem, rfl⟩)
  exact Nat.le_of_succ_le_succ (h (n + 1) later)

theorem Untouched.mono {s : List Char} {i j : Nat} (h : Untouched s j) (before : i ≤ j) : Untouched s i :=
  fun n mem => Nat.le_trans before (h n mem)

/-- A stray break at the start leaves only the place behind it as it is. -/
theorem Untouched.le_one {index : Nat} (h : Untouched (c :: rest) index) (here : breaksLine c rest = true)
    (other : c ≠ '\n') : index ≤ 1 :=
  h 0 (by rw [strays_cons_stray here other]; exact List.mem_cons_self)

/-- Each stray break gives the document one more line than the source has. -/
theorem length_lines (s : List Char) : (lines s).length = (sourceLines s).length + (strays s).length := by
  rw [sourceLines, List.length_map]
  induction s with
  | nil => rfl
  | cons c rest ih =>
    have length_consLine : (consLine c (lines rest)).length = (lines rest).length := by
      obtain ⟨first, others, parts⟩ := List.exists_cons_of_ne_nil (lines_ne_nil rest)
      rw [parts]
      rfl
    by_cases feed : c = '\n'
    · subst feed
      rw [lines_cons, if_pos (show breaksLine '\n' rest = true from rfl), splitLines_feed, strays_cons fun _ => rfl,
        List.length_cons, List.length_cons, List.length_map, ih]
      omega
    · obtain ⟨first, others, parts, whole⟩ := splitLines_cons rest feed
      rw [parts, List.length_cons] at ih
      rw [lines_cons, whole, List.length_cons]
      cases here : breaksLine c rest with
      | true =>
        rw [strays_cons_stray here feed, if_pos rfl, List.length_cons, List.length_cons, List.length_map, ih]
        omega
      | false =>
        rw [strays_cons (by simp [here]), if_neg Bool.false_ne_true, length_consLine, List.length_map, ih]

end

/-! ### The same places -/

section

variable {s line t u : List Char} {i k : Nat}

/-- Whether a line of a source ends after a character. -/
def isFeed (c : Char) (_ : List Char) : Bool := c == '\n'

theorem breaksLine_of_isFeed {c : Char} {rest : List Char} (h : isFeed c rest = true) : breaksLine c rest = true := by
  obtain rfl : c = '\n' := beq_iff_eq.1 h
  rfl

/-- The place between two parts of a line of a source. -/
theorem stands_of_splitLine (here : (splitLines s)[i]? = some (t ++ u)) :
    Stands isFeed s ⟨i, width t⟩ (sourceStart s i + t.length) := by
  induction s generalizing i t with
  | nil =>
    cases i with
    | succ i => cases here
    | zero =>
      obtain ⟨rfl, -⟩ := List.append_eq_nil_iff.1 (Option.some.inj here).symm
      exact .start []
  | cons c rest ih =>
    by_cases feed : c = '\n'
    · subst feed
      cases i with
      | zero =>
        obtain ⟨rfl, -⟩ := List.append_eq_nil_iff.1 (Option.some.inj here).symm
        exact .start _
      | succ i =>
        rw [sourceStart_feed, Nat.add_right_comm]
        exact .down rfl (ih here)
    · have goesOn : isFeed c rest = false := beq_eq_false_iff_ne.2 feed
      cases i with
      | succ i =>
        rw [splitLines_cons_later feed] at here
        rw [sourceStart_cons feed, Nat.add_right_comm]
        exact .past goesOn (ih here)
      | zero =>
        obtain ⟨first, parts, later⟩ := splitLines_cons_first feed here
        cases t with
        | nil => exact .start _
        | cons d t =>
          obtain ⟨rfl, rfl⟩ := List.cons.inj parts
          exact .along goesOn (ih later)

/-- The way to a place is clear if no stray break stands on it. -/
theorem clear_isFeed_iff (s : List Char) (n : Nat) : Clear isFeed s n ↔ Untouched s n := by
  induction s generalizing n with
  | nil => exact ⟨fun _ _ mem => (nomatch mem), fun _ => trivial⟩
  | cons c rest ih =>
    rcases n with _ | _ | n
    · exact ⟨fun _ _ _ => Nat.zero_le _, fun _ => trivial⟩
    · exact ⟨fun _ m _ => Nat.le_add_left 1 m, fun _ => trivial⟩
    · rw [Clear, ih]
      by_cases feed : breaksLine c rest = true → c = '\n'
      · have same : breaksLine c rest = isFeed c rest :=
          Bool.eq_iff_iff.2 ⟨fun broken => beq_iff_eq.2 (feed broken), breaksLine_of_isFeed⟩
        rw [and_iff_right same]
        refine ⟨fun later m mem => ?_, Untouched.tail⟩
        rw [strays_cons feed] at mem
        obtain ⟨m', mem', rfl⟩ := List.mem_map.1 mem
        exact Nat.succ_le_succ (later m' mem')
      · obtain ⟨stray, other⟩ := Classical.not_imp.1 feed
        constructor
        · rintro ⟨same, -⟩
          exact absurd (beq_iff_eq.1 (same.symm.trans stray)) other
        · intro untouched
          have := untouched.le_one stray other
          omega

theorem exists_splitLine (here : (sourceLines s)[i]? = some line) :
    ∃ tail, (splitLines s)[i]? = some (line ++ tail) := by
  rw [sourceLines, List.getElem?_map] at here
  obtain ⟨whole, mem, rfl⟩ := Option.map_eq_some_iff.1 here
  obtain ⟨tail, parts⟩ := dropReturn_isPrefix whole
  exact ⟨tail, by rw [parts, mem]⟩

/-- The place between two parts of a line of the source is the same place of the document exactly if no stray break
stands in front of it. -/
theorem charIndex_source_iff (here : (sourceLines s)[i]? = some (t ++ u)) :
    charIndex s ⟨i, width t⟩ = sourceStart s i + t.length ↔ Untouched s (sourceStart s i + t.length) := by
  obtain ⟨tail, whole⟩ := exists_splitLine here
  rw [List.append_assoc] at whole
  exact ((stands_of_splitLine whole).charIndex_eq_iff_clear fun _ _ => breaksLine_of_isFeed).trans
    (clear_isFeed_iff s _)

theorem split_at_splitLine (here : (splitLines s)[i]? = some line) :
    ∃ before after, s = before ++ line ++ after ∧ before.length = sourceStart s i := by
  induction s generalizing i line with
  | nil =>
    cases i with
    | succ i => cases here
    | zero =>
      obtain rfl : [] = line := Option.some.inj here
      exact ⟨[], [], rfl, rfl⟩
  | cons c rest ih =>
    by_cases feed : c = '\n'
    · subst feed
      cases i with
      | zero =>
        obtain rfl : [] = line := Option.some.inj here
        exact ⟨[], '\n' :: rest, rfl, rfl⟩
      | succ i =>
        obtain ⟨before, after, parts, start⟩ := ih here
        exact ⟨'\n' :: before, after, congrArg ('\n' :: ·) parts, by rw [sourceStart_feed, List.length_cons, start]⟩
    · cases i with
      | zero =>
        obtain ⟨first, rfl, goesOn⟩ := splitLines_cons_first feed here
        obtain ⟨before, after, parts, start⟩ := ih goesOn
        obtain rfl : before = [] := List.eq_nil_of_length_eq_zero start
        exact ⟨[], after, congrArg (c :: ·) parts, rfl⟩
      | succ i =>
        rw [splitLines_cons_later feed] at here
        obtain ⟨before, after, parts, start⟩ := ih here
        exact ⟨c :: before, after, congrArg (c :: ·) parts, by rw [sourceStart_cons feed, List.length_cons, start]⟩

/-- A column of a line of the source, also one inside of a character, is found in the document if no stray break stands
in front of it. -/
theorem charIndex_of_source (here : (sourceLines s)[i]? = some line) (fits : k ≤ width line)
    (untouched : Untouched s (sourceStart s i + charsWithin line k)) :
    charIndex s ⟨i, k⟩ = sourceStart s i + charsWithin line k := by
  obtain ⟨t, u, rfl, index, left, rfl, inside⟩ := Text.exists_split_column fits
  obtain ⟨tail, whole⟩ := exists_splitLine here
  rw [List.append_assoc] at whole
  rw [index] at untouched ⊢
  refine (stands_of_splitLine whole).charIndex_of_clear (fun _ _ => breaksLine_of_isFeed)
    ((clear_isFeed_iff s _).2 untouched) ?_
  rcases inside with rfl | ⟨c, u, rfl, inside⟩
  · exact charIndex_zero _
  · obtain ⟨before, after, parts, start⟩ := split_at_splitLine whole
    have behind : s.drop (sourceStart s i + t.length) = c :: (u ++ tail ++ after) := by
      rw [← start, parts]
      simp
    rw [behind]
    exact charIndex_of_lt_units inside

end

/-! ### The same lines -/

/-- Without stray breaks the lines are the same. -/
theorem map_content_lines {s : List Char} (none : strays s = []) : (lines s).map content = sourceLines s := by
  induction s with
  | nil => rfl
  | cons c rest ih =>
    obtain ⟨here, later⟩ := List.append_eq_nil_iff.1 none
    have ih := ih (List.map_eq_nil_iff.1 later)
    by_cases feed : c = '\n'
    · subst feed
      rw [lines_cons, if_pos (show breaksLine '\n' rest = true from rfl), List.map_cons, ih]
      rfl
    · have goesOn : breaksLine c rest = false := Bool.eq_false_iff.2 fun stray => by
        simp [stray, feed] at here
      obtain ⟨first, others, parts⟩ := List.exists_cons_of_ne_nil (lines_ne_nil rest)
      obtain ⟨first', others', parts', whole⟩ := splitLines_cons rest feed
      rw [sourceLines, parts, parts', List.map_cons, List.map_cons] at ih
      obtain ⟨same, others_same⟩ := List.cons.inj ih
      rw [lines_cons, goesOn, if_neg Bool.false_ne_true, parts, sourceLines, whole, consLine, List.map_cons,
        List.map_cons, others_same]
      refine congrArg (· :: _) ?_
      rcases isBreak_of_not_breaksLine goesOn with plain | ⟨rfl, rest, rfl⟩
      · have other : c ≠ '\r' := fun ret => by
          subst ret
          cases plain
        rw [content_cons_of_plain plain, dropReturn_cons other, same]
      · -- the carriage return is all that the line has before its line feed
        obtain ⟨rfl, -⟩ := List.cons.inj parts'
        rfl

theorem map_content_lines_iff (s : List Char) : (lines s).map content = sourceLines s ↔ strays s = [] := by
  refine ⟨fun same => ?_, map_content_lines⟩
  have length : (lines s).length = (sourceLines s).length := by rw [← same, List.length_map]
  have count := length_lines s
  exact List.eq_nil_of_length_eq_zero (by omega)

/-! ### Edits at diagnostics -/

section

variable {s before line after : List Char} {i j : Nat}

/-- An edit of a part of a line keeps the rest of the text. -/
theorem apply_within {r : Range} (start : charIndex (before ++ line ++ after) r.start = before.length + i)
    (stop : charIndex (before ++ line ++ after) r.stop = before.length + j) (order : i ≤ j) (fits : j ≤ line.length)
    (text : List Char) :
    Edit.apply ⟨some r, text⟩ (before ++ line ++ after) =
      before ++ line.take i ++ text ++ (line.drop j ++ after) := by
  have upTo : (before ++ line ++ after).take (before.length + i) = before ++ line.take i := by
    rw [List.append_assoc, List.take_length_add_append, List.take_append_of_le_length (Nat.le_trans order fits)]
  have behind : (before ++ line ++ after).drop (before.length + j) = line.drop j ++ after := by
    rw [List.append_assoc, List.drop_length_add_append, List.drop_append_of_le_length fits]
  rw [Edit.apply]
  dsimp only
  rw [start, stop, Nat.max_eq_right (Nat.add_le_add_left order _), upTo, behind]

end

/-- **Lines of a source and of its document.** The lines of a source are those of its document, one for one and without
their breaks, exactly if the text has no stray break. A place of the source is the same place of the document exactly
if no stray break stands in front of it, except right before it. And an edit of the range of a diagnostic replaces just
what the diagnostic marks, if no stray break stands in front of the end of the range. -/
theorem sourceLines_agree (s : List Char) :
    ((lines s).map content = sourceLines s ↔ strays s = []) ∧
      (∀ i t u, (sourceLines s)[i]? = some (t ++ u) →
        (charIndex s ⟨i, width t⟩ = sourceStart s i + t.length ↔ Untouched s (sourceStart s i + t.length))) ∧
      ∀ marking report, ∀ d ∈ Report.read marking s report,
        ∃ before line after, s = before ++ line ++ after ∧ before.length = sourceStart s d.range.start.line ∧
          (sourceLines s)[d.range.start.line]? = some line ∧
          (Untouched s (before.length + charsWithin line d.range.stop.column) → ∀ text,
            Edit.apply ⟨some d.range, text⟩ s =
              before ++ line.take (charsWithin line d.range.start.column) ++ text ++
                (line.drop (charsWithin line d.range.stop.column) ++ after)) := by
  refine ⟨map_content_lines_iff s, fun i t u here => charIndex_source_iff here, fun marking report d mem => ?_⟩
  obtain ⟨line, here, same, within⟩ := Report.within_of_mem_read mem
  obtain ⟨tail, whole⟩ := exists_splitLine here
  obtain ⟨before, after, parts, start⟩ := split_at_splitLine whole
  rw [List.append_assoc, List.append_assoc, ← List.append_assoc] at parts
  refine ⟨before, line, tail ++ after, parts, start, here, fun untouched text => ?_⟩
  have order := Text.charsWithin_mono line within.ordered
  rw [start] at untouched
  have atStart := charIndex_of_source here (Nat.le_trans within.ordered within.fits)
    (untouched.mono (Nat.add_le_add_left order _))
  have atStop := charIndex_of_source here within.fits untouched
  rw [← start, parts] at atStart atStop
  rw [parts]
  exact apply_within atStart (by rw [← atStop, ← same]) order (Text.charsWithin_le_length _ _) text

/-- A text with a stray break behind the place that a report means. -/
def paged : List Char := "x;\r\n/*😀*/ y;\x0cz;".toList

theorem paged_agrees :
    ∃ d ∈ Report.read ⟨false⟩ paged "ERROR: 0:2: 'y' : bad".toList,
      Edit.apply ⟨some d.range, ['w']⟩ paged = "x;\r\n/*😀*/ w;\x0cz;".toList ∧
        charIndex paged ⟨1, 7⟩ = 10 := by
  have ranges : (Report.read ⟨false⟩ paged "ERROR: 0:2: 'y' : bad".toList).map (·.range) =
      [⟨⟨1, 7⟩, ⟨1, 8⟩⟩] := by
    decide +kernel
  have only : (⟨⟨1, 7⟩, ⟨1, 8⟩⟩ : Range) ∈
      (Report.read ⟨false⟩ paged "ERROR: 0:2: 'y' : bad".toList).map (·.range) := by
    rw [ranges]
    exact List.mem_cons_self
  obtain ⟨d, mem, range⟩ := List.mem_map.1 only
  obtain ⟨-, places, edits⟩ := sourceLines_agree paged
  obtain ⟨before, line, after, parts, start, here, replaced⟩ := edits ⟨false⟩ _ d mem
  rw [range] at start here replaced
  have place := places 1 "/*😀*/ ".toList "y;\x0cz;".toList (by decide +kernel)
  obtain rfl : line = "/*😀*/ y;\x0cz;".toList := Option.some.inj (here.symm.trans (by decide +kernel))
  have four : before.length = 4 := start.trans (by decide +kernel)
  obtain rfl : before = "x;\r\n".toList := by
    have first := congrArg (List.take 4) parts
    rw [List.append_assoc, List.take_left' four] at first
    exact first.symm.trans (by decide +kernel)
  obtain rfl : after = [] := List.append_cancel_left (parts.symm.trans (by decide +kernel))
  refine ⟨d, mem, ?_, (place.2 (by decide +kernel)).trans (by decide +kernel)⟩
  rw [range]
  exact (replaced (by decide +kernel) ['w']).trans (by decide +kernel)

/-- A carriage return on its own ends a line of the document and of the protocol, but none of the source. So what is
behind it is marked on the line before, and an edit there goes elsewhere. -/
theorem return_unnumbered :
    let s := "a;\rb;".toList
    (lines s).map content = ["a;".toList, "b;".toList] ∧ sourceLines s = ["a;\rb;".toList] ∧
      (lines s).map content ≠ sourceLines s ∧
      (Report.read ⟨false⟩ s "ERROR: 0:2: 'b' : bad".toList).map (·.range) = [⟨⟨0, 3⟩, ⟨0, 4⟩⟩] ∧
      Edit.apply ⟨some ⟨⟨0, 3⟩, ⟨0, 4⟩⟩, ['c']⟩ s = "a;\rcb;".toList := by
  decide +kernel

end ShaderDiagnostics.Document
