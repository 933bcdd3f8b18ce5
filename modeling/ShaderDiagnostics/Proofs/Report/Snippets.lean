import ShaderDiagnostics.Proofs.Report.Comments
import ShaderDiagnostics.Proofs.Report.Words
import ShaderDiagnostics.Proofs.Text.Trimming
import ShaderDiagnostics.Report.Entry

/-!
# Where a snippet is

A snippet that is one word is searched in the line with its comments blanked, and what is found there is marked in the
line itself. So both must agree on three things. A character that is shown and is no space is the character itself
(`Report.exists_shown`), and every position of the one line belongs to one of the other (`Report.length_shown_inj`),
since each character is shown by at least one. What touches a word is a character of a word in both or in neither: next
to code the only character of a comment is a slash (`Report.edges_scan`). And the columns are the same, because a
character is shown as wide as it is (`Report.Around.width_take`).
-/

namespace ShaderDiagnostics.Report

open Pattern Text Unicode

/-! ### The edges of comments -/

/-- Of two neighbours only one of which is in a comment, that one is a slash. -/
def Edge (m n : Char × Bool) : Prop :=
  (m.2 = true → n.2 = false → m.1 = '/') ∧ (m.2 = false → n.2 = true → n.1 = '/')

theorem edge_of_same {m n : Char × Bool} (same : m.2 = n.2) : Edge m n :=
  ⟨fun hm hn => by simp [same, hn] at hm, fun hm hn => by simp [same, hn] at hm⟩

/-- How the scan goes on: with a comment where it is in one, and with code or a slash where it is not. -/
theorem head?_scan {zone : Zone} {s : List Char} {m : Char × Bool} (first : (scan zone s).head? = some m) :
    if zone = .code then m.2 = true → m.1 = '/' else m.2 = true := by
  revert first
  fun_cases scan zone s with
  | case1 => nofun
  | case2 s | case3 s =>
    intro first
    obtain rfl := Option.some.inj first
    exact fun _ => rfl
  | case4 s =>
    intro first
    obtain rfl := Option.some.inj first
    exact rfl
  | case5 c s =>
    intro first
    obtain rfl := Option.some.inj first
    cases zone with
    | code => exact nofun
    | block => exact rfl
    | rest => exact rfl

theorem edges_scan (zone : Zone) (s : List Char) : (scan zone s).IsChain Edge := by
  fun_induction scan zone s with
  | case1 => exact .nil
  | case2 s ih =>
    refine List.isChain_cons_cons.2 ⟨edge_of_same rfl, List.isChain_cons.2 ⟨fun n first => ?_, ih⟩⟩
    exact edge_of_same (head?_scan first).symm
  | case3 s ih =>
    refine List.isChain_cons_cons.2 ⟨edge_of_same rfl, List.isChain_cons.2 ⟨fun n first => ?_, ih⟩⟩
    exact edge_of_same (head?_scan first).symm
  | case4 s ih =>
    refine List.isChain_cons_cons.2 ⟨edge_of_same rfl, List.isChain_cons.2 ⟨fun n first => ?_, ih⟩⟩
    exact ⟨fun _ _ => rfl, fun outside => by cases outside⟩
  | case5 zone c s noRest noBlock noEnd ih =>
    refine List.isChain_cons.2 ⟨fun n first => ?_, ih⟩
    have next := head?_scan first
    cases zone with
    | code => exact ⟨fun inside => (by cases inside), fun _ => next⟩
    | block => exact edge_of_same next.symm
    | rest => exact edge_of_same next.symm

/-! ### From a line to its blanked form and back -/

theorem cover_ne_nil (m : Char × Bool) : cover m ≠ [] := by
  intro none
  have first := head?_cover m []
  rw [none] at first
  cases first

theorem flatMap_cover_eq_nil_iff {marked : List (Char × Bool)} : marked.flatMap cover = [] ↔ marked = [] := by
  constructor
  · intro none
    cases marked with
    | nil => rfl
    | cons m marked => exact absurd (List.append_eq_nil_iff.1 none).1 (cover_ne_nil m)
  · rintro rfl
    rfl

/-- A character other than a space that is shown is the character itself. -/
theorem exists_shown {marked : List (Char × Bool)} {before after : List Char} {c : Char} (seen : c ≠ ' ')
    (shown : marked.flatMap cover = before ++ c :: after) :
    ∃ x y, marked = x ++ (c, false) :: y ∧ x.flatMap cover = before ∧ y.flatMap cover = after := by
  induction marked generalizing before with
  | nil => simp at shown
  | cons m marked ih =>
    obtain ⟨d, inComment⟩ := m
    rw [List.flatMap_cons] at shown
    cases inComment with
    | false =>
      cases before with
      | nil =>
        obtain ⟨rfl, rest⟩ := List.cons.inj shown
        exact ⟨[], marked, rfl, rfl, rest⟩
      | cons e before =>
        obtain ⟨rfl, rest⟩ := List.cons.inj shown
        obtain ⟨x, y, rfl, hx, hy⟩ := ih rest
        exact ⟨(d, false) :: x, y, rfl, by rw [List.flatMap_cons, hx]; rfl, hy⟩
    | true =>
      -- all that is shown of a comment is spaces, so the character comes behind them
      obtain ⟨left, whole, rest⟩ : ∃ left, before = cover (d, true) ++ left ∧
          marked.flatMap cover = left ++ c :: after := by
        obtain ⟨left, whole, rest⟩ | ⟨left, whole, rest⟩ := List.append_eq_append_iff.1 shown
        · exact ⟨left, whole, rest⟩
        · cases left with
          | nil => exact ⟨[], by rw [whole, List.append_nil, List.append_nil], rest.symm⟩
          | cons e left =>
            obtain ⟨rfl, -⟩ := List.cons.inj rest
            have space : c ∈ blanks [d] := by
              change c ∈ cover (d, true)
              rw [whole]
              exact List.mem_append_right before List.mem_cons_self
            exact absurd (List.eq_of_mem_replicate space) seen
      obtain ⟨x, y, rfl, hx, hy⟩ := ih rest
      exact ⟨(d, true) :: x, y, rfl, by rw [List.flatMap_cons, hx, whole], hy⟩

theorem exists_shown_start {marked : List (Char × Bool)} {word after : List Char} (seen : ∀ c ∈ word, c ≠ ' ')
    (shown : marked.flatMap cover = word ++ after) :
    ∃ y, marked = word.map (fun c => (c, false)) ++ y ∧ y.flatMap cover = after := by
  induction word generalizing marked with
  | nil => exact ⟨marked, rfl, shown⟩
  | cons c word ih =>
    obtain ⟨seen, others⟩ := List.forall_mem_cons.1 seen
    have first : marked.flatMap cover = [] ++ c :: (word ++ after) := shown
    obtain ⟨x, z, rfl, hx, hz⟩ := exists_shown seen first
    obtain rfl := flatMap_cover_eq_nil_iff.1 hx
    obtain ⟨y, rfl, hy⟩ := ih others hz
    exact ⟨y, rfl, hy⟩

/-- The same for a word. -/
theorem exists_shown_word {marked : List (Char × Bool)} {before word after : List Char} (some : word ≠ [])
    (seen : ∀ c ∈ word, c ≠ ' ') (shown : marked.flatMap cover = before ++ word ++ after) :
    ∃ x y, marked = x ++ word.map (fun c => (c, false)) ++ y ∧ x.flatMap cover = before ∧ y.flatMap cover = after := by
  obtain ⟨c, word, rfl⟩ := List.exists_cons_of_ne_nil some
  obtain ⟨seen, others⟩ := List.forall_mem_cons.1 seen
  rw [List.append_assoc, List.cons_append] at shown
  obtain ⟨x, z, rfl, hx, hz⟩ := exists_shown seen shown
  obtain ⟨y, rfl, hy⟩ := exists_shown_start others hz
  exact ⟨x, y, by simp, hx, hy⟩

theorem getLast?_cover (s : List Char) (m : Char × Bool) :
    (s ++ cover m).getLast? = some (if m.2 then ' ' else m.1) := by
  obtain ⟨n, hn⟩ := Nat.exists_eq_add_of_lt (units_pos m.1)
  unfold cover
  split
  · simp [blanks, hn, List.getLast?_replicate, List.getLast?_append]
  · exact List.getLast?_concat

theorem isWord_shown {m : Char × Bool} (slash : m.2 = true → m.1 = '/') :
    isWord (if m.2 then ' ' else m.1) = isWord m.1 := by
  split
  next inComment =>
    rw [slash inComment]
    decide
  · rfl

/-! ### Occurrences of a word -/

/-- The word stands alone at a position of a line, and no part of it is in a comment. -/
structure OccursAt (word line : List Char) (k : Nat) : Prop extends StandsAt word line k where
  outside : ∀ m ∈ ((scan .code line).drop k).take word.length, m.2 = false

theorem occursAt_iff_and {word line : List Char} {k : Nat} :
    OccursAt word line k ↔
      StandsAt word line k ∧ ∀ m ∈ ((scan .code line).drop k).take word.length, m.2 = false :=
  ⟨fun h => ⟨h.toStandsAt, h.outside⟩, fun h => ⟨h.1, h.2⟩⟩

instance (word line : List Char) (k : Nat) : Decidable (OccursAt word line k) := decidable_of_iff' _ occursAt_iff_and

/-- What the scan finds before and behind a word that stands alone outside comments. -/
structure Around (word line : List Char) (x y : List (Char × Bool)) : Prop where
  splits : scan .code line = x ++ word.map (fun c => (c, false)) ++ y
  starts : (x.map Prod.fst).getLast?.any isWord = false
  ends : (y.map Prod.fst).head?.any isWord = false

theorem map_fst_code (word : List Char) : (word.map fun c => (c, false)).map Prod.fst = word := by
  rw [List.map_map]
  exact List.map_id word

theorem flatMap_cover_code (word : List Char) : (word.map fun c => (c, false)).flatMap cover = word := by
  induction word with
  | nil => rfl
  | cons c word ih => rw [List.map_cons, List.flatMap_cons, ih]; rfl

theorem length_columns (marked : List (Char × Bool)) :
    (marked.flatMap fun m => List.replicate (units m.1) m.2).length = width (marked.map Prod.fst) := by
  induction marked with
  | nil => rfl
  | cons m marked ih => rw [List.flatMap_cons, List.length_append, List.length_replicate, ih]; rfl

theorem columns_code (word : List Char) :
    (word.map fun c => (c, false)).flatMap (fun m => List.replicate (units m.1) m.2) =
      List.replicate (width word) false := by
  induction word with
  | nil => rfl
  | cons c word ih => rw [List.map_cons, List.flatMap_cons, ih, width_cons, List.replicate_add]

section

variable {word line : List Char} {x y : List (Char × Bool)}

theorem Around.line_eq (around : Around word line x y) : line = x.map Prod.fst ++ word ++ y.map Prod.fst := by
  have chars := map_fst_scan .code line
  rw [around.splits, List.map_append, List.map_append, map_fst_code] at chars
  exact chars.symm

theorem Around.blanked_eq (around : Around word line x y) :
    blanked line = x.flatMap cover ++ word ++ y.flatMap cover := by
  rw [blanked, around.splits, List.flatMap_append, List.flatMap_append, flatMap_cover_code]

/-- As far as words are concerned, the same is shown next to a word as there is. -/
theorem isWord_beside (some : word ≠ []) (splits : scan .code line = x ++ word.map (fun c => (c, false)) ++ y) :
    (x.flatMap cover).getLast?.any isWord = (x.map Prod.fst).getLast?.any isWord ∧
      (y.flatMap cover).head?.any isWord = (y.map Prod.fst).head?.any isWord := by
  have edges := edges_scan .code line
  rw [splits] at edges
  obtain ⟨left, -, right⟩ := List.isChain_append.1 edges
  obtain ⟨-, -, left⟩ := List.isChain_append.1 left
  constructor
  · rcases List.eq_nil_or_concat' x with rfl | ⟨x, m, rfl⟩
    · rfl
    · obtain ⟨c, word, rfl⟩ := List.exists_cons_of_ne_nil some
      have edge : Edge m (c, false) := left m (by simp) (c, false) rfl
      rw [List.flatMap_append, List.flatMap_singleton, getLast?_cover, List.map_append, List.map_singleton,
        List.getLast?_concat, Option.any_some, Option.any_some, isWord_shown fun inComment => edge.1 inComment rfl]
  · cases y with
    | nil => rfl
    | cons m y =>
      rcases List.eq_nil_or_concat' word with rfl | ⟨word, c, rfl⟩
      · exact absurd rfl some
      · have edge : Edge (c, false) m := right (c, false) (by simp) m rfl
        rw [List.flatMap_cons, head?_cover, List.map_cons, List.head?_cons, Option.any_some, Option.any_some,
          isWord_shown fun inComment => edge.2 rfl inComment]

theorem Around.take_before (around : Around word line x y) : line.take x.length = x.map Prod.fst := by
  rw [around.line_eq, List.append_assoc, ← List.length_map Prod.fst, List.take_left]

theorem Around.take_through (around : Around word line x y) :
    line.take (x.length + word.length) = x.map Prod.fst ++ word := by
  have length : (x.map Prod.fst).length = x.length := List.length_map _
  rw [around.line_eq, ← length, ← List.length_append, List.take_left]

/-- The columns of the word are the same in both forms of the line. -/
theorem Around.width_take (around : Around word line x y) :
    width ((blanked line).take (x.flatMap cover).length) = width (line.take x.length) ∧
      width ((blanked line).take ((x.flatMap cover).length + word.length)) =
        width (line.take (x.length + word.length)) := by
  rw [around.take_before, around.take_through, around.blanked_eq, ← List.length_append, List.take_left,
    List.append_assoc, List.take_left, width_append, width_append, width_flatMap_cover]
  exact ⟨rfl, rfl⟩

/-- A position of the line and one of its blanked form tell the same. -/
theorem length_shown_inj {marked x x' : List (Char × Bool)} (hx : x <+: marked) (hx' : x' <+: marked) :
    (x.flatMap cover).length = (x'.flatMap cover).length ↔ x.length = x'.length := by
  have longer : ∀ {x x' : List (Char × Bool)}, x <+: x' →
      ((x.flatMap cover).length = (x'.flatMap cover).length ↔ x.length = x'.length) := by
    rintro x - ⟨z, rfl⟩
    rw [List.flatMap_append, List.length_append, List.length_append, Nat.left_eq_add, Nat.left_eq_add,
      List.length_eq_zero_iff, List.length_eq_zero_iff, flatMap_cover_eq_nil_iff]
  rcases List.prefix_or_prefix_of_prefix hx hx' with before | behind
  · exact longer before
  · exact eq_comm.trans ((longer behind).trans eq_comm)

theorem Around.isPrefix (around : Around word line x y) : x <+: scan .code line :=
  ⟨word.map (fun c => (c, false)) ++ y, by rw [around.splits, List.append_assoc]⟩

/-- The columns of the word hold its units. -/
theorem Around.codeUnits_columns (around : Around word line x y) :
    ((codeUnits line).drop (width (line.take x.length))).take
      (width (line.take (x.length + word.length)) - width (line.take x.length)) = codeUnits word := by
  rw [around.take_before, around.take_through, width_append, Nat.add_sub_cancel_left, around.line_eq, codeUnits_slice]

/-- None of the columns of the word is in a comment. -/
theorem Around.outside_columns (around : Around word line x y) {column : Nat}
    (low : width (line.take x.length) ≤ column) (high : column < width (line.take (x.length + word.length))) :
    (commentColumns line)[column]? = some false := by
  rw [around.take_before] at low
  rw [around.take_through, width_append] at high
  rw [commentColumns, around.splits, List.append_assoc, List.flatMap_append, List.flatMap_append,
    List.getElem?_append_right (by rwa [length_columns]), length_columns, columns_code,
    List.getElem?_append_left (by rw [List.length_replicate]; omega), List.getElem?_replicate, if_pos (by omega)]

variable (identifier : isIdentifier word = true)

include identifier

theorem occursAt_iff {k : Nat} : OccursAt word line k ↔ ∃ x y, Around word line x y ∧ x.length = k := by
  constructor
  · intro occurs
    obtain ⟨before, after, split, length, starts, ends⟩ := (standsAt_iff_split identifier).1 occurs.toStandsAt
    have outside := occurs.outside
    obtain ⟨v, y, splits, hv, rfl⟩ := List.map_eq_append_iff.1 ((map_fst_scan .code line).trans split)
    obtain ⟨x, w, rfl, rfl, rfl⟩ := List.map_eq_append_iff.1 hv
    have here : ((scan .code line).drop k).take (w.map Prod.fst).length = w := by
      rw [splits, ← length, List.length_map, List.length_map, List.append_assoc, List.drop_left, List.take_left]
    rw [here] at outside
    have code : (w.map Prod.fst).map (fun c => (c, false)) = w := by
      rw [List.map_map]
      refine (List.map_congr_left fun m mem => ?_).trans (List.map_id w)
      exact Prod.ext rfl (outside m mem).symm
    exact ⟨x, y, ⟨by rw [splits, code], starts, ends⟩, by rwa [List.length_map] at length⟩
  · rintro ⟨x, y, around, rfl⟩
    have stands := (standsAt_iff_split identifier).2
      ⟨_, _, around.line_eq, List.length_map _, around.starts, around.ends⟩
    refine ⟨stands, fun m mem => ?_⟩
    rw [around.splits, List.append_assoc, List.drop_left, List.take_left' (List.length_map _)] at mem
    obtain ⟨c, -, rfl⟩ := List.mem_map.1 mem
    rfl

theorem standsAt_blanked_iff {k : Nat} :
    StandsAt word (blanked line) k ↔ ∃ x y, Around word line x y ∧ (x.flatMap cover).length = k := by
  have some := ne_nil_of_isIdentifier identifier
  constructor
  · intro stands
    obtain ⟨before, after, split, length, starts, ends⟩ := (standsAt_iff_split identifier).1 stands
    have seen : ∀ c ∈ word, c ≠ ' ' := by
      rintro c mem rfl
      exact absurd (isWord_of_isIdentifier identifier mem) (by decide)
    obtain ⟨x, y, splits, rfl, rfl⟩ := exists_shown_word some seen split
    obtain ⟨left, right⟩ := isWord_beside some splits
    exact ⟨x, y, ⟨splits, left ▸ starts, right ▸ ends⟩, length⟩
  · rintro ⟨x, y, around, rfl⟩
    obtain ⟨left, right⟩ := isWord_beside some around.splits
    exact (standsAt_iff_split identifier).2
      ⟨_, _, around.blanked_eq, rfl, left.trans around.starts, right.trans around.ends⟩

/-- A word is found where it occurs, if it occurs at one position only. -/
theorem findSnippet_eq_some_iff (h : '\n' ∉ line) {columns : Columns} :
    findSnippet line word = some columns ↔
      ∃ k, OccursAt word line k ∧ (∀ j, OccursAt word line j → j = k) ∧
        columns = ⟨width (line.take k), width (line.take (k + word.length))⟩ := by
  have single : findSnippet line word = some columns ↔ ∃ m, (wholeWord word).matches_ (blanked line) = [m] ∧
      columns = ⟨width ((blanked line).take m.start), width ((blanked line).take m.stop)⟩ := by
    rw [findSnippet, snippetPattern, if_pos identifier, stripComments_eq_blanked h]
    dsimp only
    split
    next m matched => simp [matched, eq_comm]
    next matched => simpa using fun m hm => absurd hm (matched m)
  rw [single]
  constructor
  · rintro ⟨m, matched, rfl⟩
    obtain ⟨k, rfl, stands, only⟩ := (matches_wholeWord_eq_singleton_iff identifier).1 matched
    obtain ⟨x, y, around, rfl⟩ := (standsAt_blanked_iff identifier).1 stands
    refine ⟨x.length, (occursAt_iff identifier).2 ⟨x, y, around, rfl⟩, fun j occurs => ?_, ?_⟩
    · obtain ⟨x', y', around', rfl⟩ := (occursAt_iff identifier).1 occurs
      have same := only _ ((standsAt_blanked_iff identifier).2 ⟨x', y', around', rfl⟩)
      exact (length_shown_inj around'.isPrefix around.isPrefix).1 same
    · rw [around.width_take.1, around.width_take.2]
  · rintro ⟨k, occurs, only, rfl⟩
    obtain ⟨x, y, around, rfl⟩ := (occursAt_iff identifier).1 occurs
    refine ⟨wordSpan word (x.flatMap cover).length, (matches_wholeWord_eq_singleton_iff identifier).2
      ⟨_, rfl, (standsAt_blanked_iff identifier).2 ⟨x, y, around, rfl⟩, fun j stands => ?_⟩, ?_⟩
    · obtain ⟨x', y', around', rfl⟩ := (standsAt_blanked_iff identifier).1 stands
      have same := only _ ((occursAt_iff identifier).2 ⟨x', y', around', rfl⟩)
      exact (length_shown_inj around'.isPrefix around.isPrefix).2 same
    · rw [around.width_take.1, around.width_take.2]

end

/-! ### The range of a diagnostic -/

/-- The columns of a line without the blanks around it. A blank line has none, and they are those at its start. -/
def BetweenBlanks (line : List Char) (columns : Columns) : Prop :=
  ∃ lead kept trail, line = lead ++ kept ++ trail ∧ Trims lead kept trail ∧ (kept = [] → lead = []) ∧
    columns = ⟨width lead, width (lead ++ kept)⟩

theorem betweenBlanks_trimmedColumns (line : List Char) : BetweenBlanks line (trimmedColumns line) := by
  obtain ⟨lead, trail, split, trims, kept, blanks, empty⟩ := exists_trims line
  refine ⟨lead, trim line, trail, split, trims, empty, ?_⟩
  rw [trimmedColumns, ← blanks, ← kept]

/-- A line with a word twice, once in a comment, and a report on it. -/
def smile : List Char := "/*a*/ 😀 a".toList

def smileReport : List Char := "ERROR: 0:1: 'a' : undeclared identifier".toList

end ShaderDiagnostics.Report
