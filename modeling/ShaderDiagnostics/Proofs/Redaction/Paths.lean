import Mathlib
import ShaderDiagnostics.Proofs.Pattern.Replacing
import ShaderDiagnostics.Redaction

/-!
# What redaction takes for a path

From a separator on, what is replaced goes as far as there are characters of names, with no more than one separator
between them (`Redaction.goesOn`). So it is not every path that disappears as a whole. One does that has only such
characters and no doubled separators (`Redaction.redact_eq_placeholder_iff`); of any other path something is left: a
blank, a colon, or that there were two separators in a row.

Nothing that is replaced goes over a blank, so a path among words is redacted as if it stood alone
(`Redaction.redact_append`).
-/

namespace ShaderDiagnostics.Redaction

open Pattern

/-! ### The extent of a path -/

/-- How far a path goes on, behind a separator or a character of a name. -/
def goesOn (separated : Bool) : List Char → Nat
  | [] => 0
  | c :: rest =>
    if isNameChar c then goesOn false rest + 1
    else if isSeparator c && !separated then goesOn true rest + 1
    else 0

/-- The extent of a path that starts with a separator. -/
def rootedExtent : Extent
  | [] => none
  | c :: rest => if isSeparator c && goesOn true rest != 0 then some (goesOn true rest + 1) else none

/-- The extent of a drive. -/
def driveExtent : Extent
  | c :: d :: _ => if c.isAlpha && d == ':' then some 2 else none
  | _ => none

/-- The extent of a path, perhaps with a drive. -/
def pathExtent : Extent := fun s => (seqExtent driveExtent rootedExtent s).or (rootedExtent s)

theorem not_separator_of_name {c : Char} (h : isNameChar c = true) : isSeparator c = false := by
  cases hc : isSeparator c with
  | false => rfl
  | true => simp [isNameChar, isExcluded, hc] at h

/-! ### Names and segments -/

/-- The length of the name at the start of a text. -/
def nameLength (s : List Char) : Nat := (s.takeWhile isNameChar).length

theorem nameLength_cons (c : Char) (rest : List Char) :
    nameLength (c :: rest) = if isNameChar c then nameLength rest + 1 else 0 := by
  rw [nameLength, List.takeWhile_cons]
  split <;> rfl

/-- Behind a name there is no further character of a name. -/
theorem nameLength_drop (s : List Char) : nameLength (s.drop (nameLength s)) = 0 := by
  induction s with
  | nil => rfl
  | cons c rest ih =>
    rw [nameLength_cons]
    split
    · exact ih
    next other => rw [List.drop_zero, nameLength_cons, if_neg other]

theorem goesOn_name (s : List Char) :
    goesOn false s = nameLength s + goesOn false (s.drop (nameLength s)) := by
  induction s with
  | nil => rfl
  | cons c rest ih =>
    rw [nameLength_cons]
    split
    next name => rw [goesOn, if_pos name, ih, List.drop_succ_cons, Nat.add_right_comm]
    · rw [List.drop_zero, Nat.zero_add]

/-- A name may stand behind a separator. -/
theorem goesOn_of_named {s : List Char} {k : Nat} (named : nameLength s = k + 1) :
    goesOn true s = k + 1 + goesOn false (s.drop (k + 1)) := by
  have either : goesOn true s = goesOn false s := by
    cases s with
    | nil => rfl
    | cons c rest =>
      rw [nameLength_cons] at named
      have name : isNameChar c = true := by_contra fun other => by simp [other] at named
      rw [goesOn, goesOn, if_pos name, if_pos name]
  rw [either, goesOn_name, named]

/-- Nothing else may. -/
theorem goesOn_of_unnamed {s : List Char} (unnamed : nameLength s = 0) : goesOn true s = 0 := by
  cases s with
  | nil => rfl
  | cons c rest =>
    rw [nameLength_cons] at unnamed
    have other : ¬ isNameChar c = true := fun name => by simp [name] at unnamed
    rw [goesOn, if_neg other, Bool.not_true, Bool.and_false, if_neg Bool.false_ne_true]

/-- The extent of a separator and a name. -/
def segmentExtent : Extent
  | [] => none
  | c :: rest => if isSeparator c && nameLength rest != 0 then some (nameLength rest + 1) else none

theorem measured_name : Measured (plus (.one isNameChar) false) fun s =>
    if nameLength s = 0 then none else some (nameLength s) := by
  refine ((measured_one isNameChar).seq_single (measured_run isNameChar) (single_one _)).congr fun s => ?_
  cases s with
  | nil => rfl
  | cons c rest =>
    rw [nameLength_cons]
    cases hc : isNameChar c <;> simp [seqExtent, oneExtent, hc, nameLength, Nat.add_comm]

theorem measured_segment : Measured segment segmentExtent := by
  refine ((measured_one isSeparator).seq_single measured_name (single_one _)).congr fun s => ?_
  cases s with
  | nil => rfl
  | cons c rest =>
    cases hc : isSeparator c <;> cases hn : nameLength rest <;>
      simp [seqExtent, oneExtent, segmentExtent, hc, hn, Nat.add_comm]

/-! ### The pattern of paths -/

/-- A separator that may follow. -/
def closingLength (s : List Char) : Nat := if s.head?.any isSeparator then 1 else 0

/-- Behind a name, a path goes on with segments and at most one more separator. -/
theorem goesOn_segments {s : List Char} (unnamed : nameLength s = 0) {fuel : Nat} (enough : s.length ≤ fuel) :
    goesOn false s =
      roundsExtent segmentExtent fuel s + closingLength (s.drop (roundsExtent segmentExtent fuel s)) := by
  induction fuel generalizing s with
  | zero =>
    obtain rfl := List.length_eq_zero_iff.1 (Nat.le_zero.1 enough)
    rfl
  | succ fuel ih =>
    cases s with
    | nil => rfl
    | cons c rest =>
      have other : isNameChar c = false := by
        rw [nameLength_cons] at unnamed
        exact Bool.eq_false_iff.2 fun name => by simp [name] at unnamed
      cases hc : isSeparator c with
      | false => simp [goesOn, roundsExtent, segmentExtent, closingLength, other, hc]
      | true =>
        have behind : goesOn false (c :: rest) = goesOn true rest + 1 := by simp [goesOn, other, hc]
        rw [behind]
        cases hn : nameLength rest with
        | zero => simp [roundsExtent, segmentExtent, closingLength, goesOn_of_unnamed hn, hc, hn]
        | succ k =>
          have shorter : (rest.drop (k + 1)).length ≤ fuel := by
            rw [List.length_drop]
            exact Nat.le_trans (Nat.sub_le _ _) (Nat.le_of_succ_le_succ enough)
          have later := ih (hn ▸ nameLength_drop rest) shorter
          have first : roundsExtent segmentExtent (fuel + 1) (c :: rest) =
              roundsExtent segmentExtent fuel (rest.drop (k + 1)) + (k + 1) + 1 := by
            simp only [roundsExtent, segmentExtent, hc, hn]
            exact Nat.add_comm _ _
          generalize roundsExtent segmentExtent fuel (rest.drop (k + 1)) = r at later first
          have left : (c :: rest).drop (r + (k + 1) + 1) = (rest.drop (k + 1)).drop r := by
            rw [List.drop_succ_cons, List.drop_drop, Nat.add_comm]
          rw [goesOn_of_named hn, later, first, left]
          omega

theorem measured_rooted :
    Measured (.seq (plus segment false) (opt (.one isSeparator) false)) rootedExtent := by
  have segments := measured_segment.seq_total (measured_star measured_segment nofun) fun _ => rfl
  refine (segments.seq_total (measured_opt (measured_one isSeparator)) fun _ => rfl).congr fun s => ?_
  cases s with
  | nil => rfl
  | cons c rest =>
    have closing : ∀ s, (oneExtent isSeparator s).getD 0 = closingLength s := fun s => by
      unfold oneExtent closingLength
      split <;> rfl
    simp only [seqExtent, closing]
    cases hc : isSeparator c with
    | false => simp [rootedExtent, segmentExtent, hc]
    | true =>
      cases hn : nameLength rest with
      | zero => simp [rootedExtent, segmentExtent, goesOn_of_unnamed hn, hc, hn]
      | succ k =>
        have later := goesOn_segments (hn ▸ nameLength_drop rest) (Nat.le_refl (rest.drop (k + 1)).length)
        have first : segmentExtent (c :: rest) = some (k + 1 + 1) := by simp [segmentExtent, hc, hn]
        have goes : rootedExtent (c :: rest) = some (k + 1 + goesOn false (rest.drop (k + 1)) + 1) := by
          simp [rootedExtent, hc, goesOn_of_named hn]
        rw [goes, first, later]
        simp only [Option.bind_some, Option.map_some, List.drop_succ_cons]
        generalize roundsExtent segmentExtent (rest.drop (k + 1)).length (rest.drop (k + 1)) = r
        have left : (c :: rest).drop (k + 1 + 1 + r) = (rest.drop (k + 1)).drop r := by
          rw [Nat.add_right_comm, List.drop_succ_cons, List.drop_drop]
        rw [left]
        congr 1
        omega

theorem measured_drive : Measured (.seq (.one Char.isAlpha) (char ':')) driveExtent := by
  refine ((measured_one _).seq_single (measured_one _) (single_one _)).congr fun s => ?_
  match s with
  | [] => rfl
  | [c] => cases hc : c.isAlpha <;> simp [seqExtent, oneExtent, driveExtent, hc]
  | c :: d :: rest =>
    cases hc : c.isAlpha <;> cases hd : d == ':' <;> simp [seqExtent, oneExtent, driveExtent, hc, hd]

theorem measured_path : Measured pathPattern pathExtent := by
  refine measured_opt_seq measured_drive (single_seq (single_one _) (single_one _)) (fun s => ?_) measured_rooted
  unfold driveExtent
  split
  · split <;> simp
  · simp

/-! ### What parts a text -/

theorem proper_pathExtent : pathExtent.Proper := by
  refine measured_path.proper fun s => ?_
  have rooted : ∀ s, rootedExtent s ≠ some 0 := fun s => by
    unfold rootedExtent
    split
    · simp
    · split <;> simp
  unfold pathExtent
  intro still
  rcases Option.or_eq_some_iff.1 still with drive | ⟨-, plain⟩
  · obtain ⟨n, -, behind⟩ := Option.bind_eq_some_iff.1 drive
    obtain ⟨k, reached, sum⟩ := Option.map_eq_some_iff.1 behind
    obtain rfl : k = 0 := by omega
    exact rooted _ reached
  · exact rooted s plain

/-- No path reaches over the character in front of the text: it is in no name and separates none, and if it is a colon,
no separator follows. -/
structure Bars (b : Char) (y : List Char) : Prop where
  excluded : isExcluded b = true
  other : isSeparator b = false
  colon : b = ':' → y.head?.any isSeparator = false

theorem goesOn_bars {b : Char} {y : List Char} (h : Bars b y) (separated : Bool) (x : List Char) :
    goesOn separated (x ++ b :: y) = goesOn separated x := by
  induction x generalizing separated with
  | nil => simp [goesOn, isNameChar, h.excluded, h.other]
  | cons c rest ih => simp only [List.cons_append, goesOn, ih]

theorem rootedExtent_bars {b : Char} {y : List Char} (h : Bars b y) (x : List Char) :
    rootedExtent (x ++ b :: y) = rootedExtent x := by
  cases x with
  | nil => simp [rootedExtent, h.other]
  | cons c rest => simp only [List.cons_append, rootedExtent, goesOn_bars h]

theorem not_alpha_of_excluded {c : Char} (h : isExcluded c = true) : c.isAlpha = false := by
  have few : c ∈ ['\\', '/', ':', '*', '?', '"', '<', '>', '|'] ∨ Text.isBlank c = true := by
    simpa [isExcluded, isSeparator, or_assoc] using h
  rcases few with mark | blank
  · simp only [List.mem_cons, List.not_mem_nil, or_false] at mark
    rcases mark with rfl | rfl | rfl | rfl | rfl | rfl | rfl | rfl | rfl <;> rfl
  · refine Bool.eq_false_iff.2 fun alpha => ?_
    have letter : 65 ≤ c.toNat ∧ c.toNat ≤ 90 ∨ 97 ≤ c.toNat ∧ c.toNat ≤ 122 := by
      simpa [Char.isAlpha, Char.isUpper, Char.isLower, UInt32.le_iff_toNat_le] using alpha
    simp only [Text.isBlank, Bool.or_eq_true, Bool.and_eq_true, decide_eq_true_eq, beq_iff_eq] at blank
    omega

theorem driveExtent_bars {b : Char} {y : List Char} (h : Bars b y) (x : List Char) :
    seqExtent driveExtent rootedExtent (x ++ b :: y) = seqExtent driveExtent rootedExtent x := by
  match x with
  | [] => cases y <;> simp [seqExtent, driveExtent, not_alpha_of_excluded h.excluded]
  | [c] =>
    cases hb : b == ':' with
    | false => simp [seqExtent, driveExtent, hb]
    | true =>
      have none : rootedExtent y = none := by
        cases y with
        | nil => rfl
        | cons d rest =>
          have other : isSeparator d = false := h.colon (eq_of_beq hb)
          simp [rootedExtent, other]
      cases hc : c.isAlpha <;> simp [seqExtent, driveExtent, hb, hc, none]
  | c :: d :: rest =>
    cases hd : c.isAlpha && d == ':' <;> simp [seqExtent, driveExtent, hd, rootedExtent_bars h]

theorem pathExtent_bars {b : Char} {y : List Char} (h : Bars b y) (x : List Char) :
    pathExtent (x ++ b :: y) = pathExtent x := by
  rw [pathExtent, driveExtent_bars h, rootedExtent_bars h, pathExtent]

/-! ### Redacted texts -/

theorem scan_redact (s : List Char) : Scan pathExtent (fun _ => placeholder) s (redact s) :=
  scan_replaceAll measured_path proper_pathExtent s

theorem redactString_eq_iff {s t : String} : redactString s = t ↔ redact s.toList = t.toList := by
  constructor
  · rintro rfl
    exact String.toList_ofList.symm
  · intro same
    rw [redactString, same, String.ofList_toList]

/-- Texts that are parted by a character are redacted each on its own. -/
theorem redact_append {b : Char} {y : List Char} (h : Bars b y) (x : List Char) :
    redact (x ++ b :: y) = redact x ++ b :: redact y :=
  (scan_redact _).unique proper_pathExtent
    ((scan_redact x).append proper_pathExtent (pathExtent_bars h) (scan_redact y))

/-- A text that disappears as a whole: it starts with a separator, and goes on with names, between which stand single
separators. -/
structure Plain (s : List Char) : Prop where
  rooted : s.head?.any isSeparator = true
  named : s.any isNameChar = true
  chars : (s.all fun c => isSeparator c || isNameChar c) = true
  single : s.IsChain fun c d => isSeparator c = true → isSeparator d = false

instance (s : List Char) : Decidable (Plain s) :=
  decidable_of_iff (s.head?.any isSeparator = true ∧ s.any isNameChar = true ∧
      (s.all fun c => isSeparator c || isNameChar c) = true ∧
        s.IsChain fun c d => isSeparator c = true → isSeparator d = false)
    ⟨fun ⟨rooted, named, chars, single⟩ => ⟨rooted, named, chars, single⟩,
      fun ⟨rooted, named, chars, single⟩ => ⟨rooted, named, chars, single⟩⟩

theorem goesOn_eq_length_iff {c : Char} {s : List Char} :
    goesOn (isSeparator c) s = s.length ↔
      (s.all fun d => isSeparator d || isNameChar d) = true ∧
        (c :: s).IsChain fun c d => isSeparator c = true → isSeparator d = false := by
  induction s generalizing c with
  | nil => simp [goesOn]
  | cons d rest ih =>
    rw [List.isChain_cons_cons, List.all_cons]
    have later := @ih d
    cases name : isNameChar d with
    | true =>
      have other : isSeparator d = false := not_separator_of_name name
      rw [other] at later
      simp [goesOn, name, other, later]
    | false =>
      cases hd : isSeparator d with
      | false => simp [goesOn, name, hd]
      | true =>
        rw [hd] at later
        cases hc : isSeparator c with
        | false => simp [goesOn, name, hd, later]
        | true => simp [goesOn, name, hd]

/-- No drive starts with a separator. -/
theorem pathExtent_separator {c : Char} (separator : isSeparator c = true) (rest : List Char) :
    pathExtent (c :: rest) = if goesOn true rest = 0 then none else some (goesOn true rest + 1) := by
  have other : c.isAlpha = false := not_alpha_of_excluded (by simp [isExcluded, separator])
  have driveless : seqExtent driveExtent rootedExtent (c :: rest) = none := by
    cases rest <;> simp [seqExtent, driveExtent, other]
  rw [pathExtent, driveless, Option.none_or, rootedExtent, separator, Bool.true_and]
  simp only [bne_iff_ne, ne_eq, ite_not]

theorem pathExtent_eq_length_iff {s : List Char} (rooted : s.head?.any isSeparator = true) :
    pathExtent s = some s.length ↔ Plain s := by
  cases s with
  | nil => cases rooted
  | cons c rest =>
    have separator : isSeparator c = true := rooted
    have goes : pathExtent (c :: rest) = some (c :: rest).length ↔
        rest ≠ [] ∧ goesOn (isSeparator c) rest = rest.length := by
      rw [pathExtent_separator separator, separator]
      cases rest with
      | nil => simp [goesOn]
      | cons d rest =>
        have more : goesOn true (d :: rest) = (d :: rest).length → goesOn true (d :: rest) ≠ 0 := fun whole => by
          simp [whole]
        split
        next still => simpa using fun whole => more whole still
        · simp
    rw [goes, goesOn_eq_length_iff]
    constructor
    · rintro ⟨more, chars, single⟩
      obtain ⟨d, rest, rfl⟩ := List.exists_cons_of_ne_nil more
      have other : isSeparator d = false := (List.isChain_cons_cons.1 single).1 separator
      have name : isNameChar d = true := by
        rw [List.all_cons, other, Bool.false_or, Bool.and_eq_true] at chars
        exact chars.1
      have all : ((c :: d :: rest).all fun c => isSeparator c || isNameChar c) = true := by
        rw [List.all_cons, separator, Bool.true_or, Bool.true_and, chars]
      exact ⟨rooted, by simp [name], all, single⟩
    · rintro ⟨-, named, chars, single⟩
      rw [List.all_cons, Bool.and_eq_true] at chars
      refine ⟨?_, chars.2, single⟩
      rintro rfl
      have name : isNameChar c = true := by simpa using named
      exact absurd separator (by simp [not_separator_of_name name])

/-- Of a path that starts with a separator nothing is left exactly if it is plain. -/
theorem redact_eq_placeholder_iff {s : List Char} (rooted : s.head?.any isSeparator = true) :
    redact s = placeholder ↔ Plain s := by
  rw [← pathExtent_eq_length_iff rooted]
  constructor
  · have gone : ∀ t, Scan pathExtent (fun _ => placeholder) s t → t = placeholder → pathExtent s = some s.length := by
      intro t scan ht
      cases scan with
      | done => cases rooted
      | @hit _ t n found rest =>
        have ended : s.drop n = [] := rest.eq_nil (fun _ => by decide) (List.append_right_eq_self.1 ht)
        have within : n ≤ s.length := (proper_pathExtent found).2
        rw [found, Nat.le_antisymm within (List.drop_eq_nil_iff.1 ended)]
      | skip =>
        obtain rfl := (List.cons.inj ht).1
        cases rooted
    exact gone _ (scan_redact s)
  · intro whole
    have hit := Scan.hit (f := fun _ => placeholder) whole (by rw [List.drop_length]; exact .done)
    rw [List.append_nil] at hit
    exact (scan_redact s).unique proper_pathExtent hit

end ShaderDiagnostics.Redaction
