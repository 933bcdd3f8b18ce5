import ShaderDiagnostics.Proofs.Document.Divisions

/-!
# Edits as the editor means them

An editor counts lines by the protocol: a line feed, a carriage return and the two together end a line,
and nothing else does. The text of a document also breaks its lines at the other characters that Unicode
calls line breaks, which are foreign to the protocol (`isForeign`). So a place of the protocol (`place?`)
is found by its line and column exactly if no foreign break stands in front of it, where the character
right before the place does not matter: its line is the place's own (`charIndex_eq_iff`).

Main statement: edits that are valid by the protocol, of which none has a foreign break in front of the
end of its range, lead to the text that the editor has (`applyAll_of_edited?`). With a foreign break they
need not, and everything after such an edit goes wrong as well (`formFeed_misplaced`).
-/

namespace ShaderDiagnostics

/-- One place is not behind another. -/
instance : LE Position :=
  ⟨fun p q => p.line < q.line ∨ p.line = q.line ∧ p.column ≤ q.column⟩

theorem Position.le_def {p q : Position} :
    p ≤ q ↔ p.line < q.line ∨ p.line = q.line ∧ p.column ≤ q.column := Iff.rfl

instance (p q : Position) : Decidable (p ≤ q) :=
  decidable_of_iff _ Position.le_def.symm

namespace Document

open Text (units charsWithin charsWithin_zero)

/-! ### Places of the protocol -/

/-- Whether a character belongs to a line break of the protocol. -/
def isTerminator (c : Char) : Bool := c == '\n' || c == '\r'

/-- Whether a line ends after a character by the protocol, given what follows: a carriage return leaves
that to the line feed after it. -/
def endsLine (c : Char) (rest : List Char) : Bool :=
  c == '\n' || c == '\r' && rest.head? != some '\n'

/-- The number of characters before a place, if there is such a place: its line exists, its column is at
most the width of the line without its break, and it does not lie inside a pair. -/
def place? : List Char → Position → Option Nat
  | _, ⟨0, 0⟩ => some 0
  | [], _ => none
  | c :: rest, ⟨0, column + 1⟩ =>
    if isTerminator c || column + 1 < units c then none
    else (place? rest ⟨0, column + 1 - units c⟩).map (· + 1)
  | c :: rest, ⟨line + 1, column⟩ =>
    (place? rest ⟨if endsLine c rest then line else line + 1, column⟩).map (· + 1)

/-- The text after an edit, if the edit is valid: the characters between its two places are replaced, of
which the first is not behind the second. -/
def Edit.replace? (e : Edit) (s : List Char) : Option (List Char) :=
  match e.range with
  | none => some e.text
  | some r =>
    match place? s r.start, place? s r.stop with
    | some i, some j =>
      if r.start ≤ r.stop then some (s.take i ++ e.text ++ s.drop j) else none
    | _, _ => none

/-- The text after some edits, one after another, if each is valid in the text that it finds. -/
def edited? (edits : List Edit) (s : List Char) : Option (List Char) :=
  edits.foldlM (fun s e => e.replace? s) s

theorem edited?_cons (e : Edit) (edits : List Edit) (s : List Char) :
    edited? (e :: edits) s = (e.replace? s).bind (edited? edits) := List.foldlM_cons

@[simp] theorem place?_zero (s : List Char) : place? s ⟨0, 0⟩ = some 0 := by
  cases s <;> rfl

/-- What there is to know of a place behind the start of a line. -/
theorem place?_column {c : Char} {rest : List Char} {column i : Nat}
    (h : place? (c :: rest) ⟨0, column + 1⟩ = some i) :
    isTerminator c = false ∧ units c ≤ column + 1 ∧
      ∃ j, place? rest ⟨0, column + 1 - units c⟩ = some j ∧ i = j + 1 := by
  simp only [place?, Option.ite_none_left_eq_some, Bool.or_eq_true, decide_eq_true_eq,
    Option.map_eq_some_iff] at h
  obtain ⟨inside, j, hj, rfl⟩ := h
  refine ⟨?_, ?_, j, hj, rfl⟩
  · exact Bool.eq_false_iff.2 fun hc => inside (Or.inl hc)
  · exact Nat.le_of_not_lt fun hc => inside (Or.inr hc)

theorem place?_line {c : Char} {rest : List Char} {line column i : Nat}
    (h : place? (c :: rest) ⟨line + 1, column⟩ = some i) :
    ∃ j, place? rest ⟨if endsLine c rest then line else line + 1, column⟩ = some j ∧ i = j + 1 := by
  simp only [place?, Option.map_eq_some_iff] at h
  obtain ⟨j, hj, rfl⟩ := h
  exact ⟨j, hj, rfl⟩

theorem endsLine_of_not_terminator {c : Char} (h : isTerminator c = false) (rest : List Char) :
    endsLine c rest = false := by
  simp only [isTerminator, Bool.or_eq_false_iff] at h
  simp [endsLine, h.1, h.2]

/-! ### Lines of the text -/

/-- Whether a character breaks a line of the text, but none of the protocol. -/
def isForeign (c : Char) : Bool := isBreak c && !isTerminator c

/-- The lines of the text end where those of the protocol end, and after foreign breaks. -/
theorem breaksLine_eq (c : Char) (rest : List Char) :
    breaksLine c rest = (endsLine c rest || isForeign c) := by
  unfold breaksLine endsLine isForeign isTerminator
  by_cases hn : c = '\n'
  · subst hn
    rfl
  · have notFeed : (c == '\n') = false := beq_eq_false_iff_ne.2 hn
    by_cases hr : c = '\r'
    · subst hr
      simp [bne, show isBreak '\r' = true from rfl]
    · have notReturn : (c == '\r') = false := beq_eq_false_iff_ne.2 hr
      simp [notFeed, notReturn]

theorem breaksLine_of_endsLine {c : Char} {rest : List Char} (h : endsLine c rest = true) :
    breaksLine c rest = true := by
  rw [breaksLine_eq, h, Bool.true_or]

theorem isTerminator_of_foreign {c : Char} (h : isForeign c = true) : isTerminator c = false := by
  simp only [isForeign, Bool.and_eq_true, Bool.not_eq_true'] at h
  exact h.2

/-! ### Places of the protocol in the text -/

/-- A place of the protocol is one in the lines that it ends. -/
theorem stands_of_place? {s : List Char} {p : Position} {i : Nat} (h : place? s p = some i) :
    Stands endsLine s p i := by
  obtain ⟨line, column⟩ := p
  induction s generalizing line column i with
  | nil =>
    cases line with
    | succ line => cases h
    | zero =>
      cases column with
      | succ column => cases h
      | zero =>
        cases h
        exact .start []
  | cons c rest ih =>
    cases line with
    | succ line =>
      obtain ⟨j, hj, rfl⟩ := place?_line h
      cases he : endsLine c rest with
      | true =>
        rw [he, if_pos rfl] at hj
        exact .down he (ih _ _ hj)
      | false =>
        rw [he, if_neg Bool.false_ne_true] at hj
        exact .past he (ih _ _ hj)
    | zero =>
      cases column with
      | zero =>
        rw [place?_zero] at h
        cases h
        exact .start _
      | succ column =>
        obtain ⟨text, fits, j, hj, rfl⟩ := place?_column h
        have along := Stands.along (endsLine_of_not_terminator text rest) (ih _ _ hj)
        rwa [Nat.add_sub_cancel' fits] at along

theorem place?_mono {s : List Char} {p q : Position} {i j : Nat} (hi : place? s p = some i)
    (hj : place? s q = some j) (hpq : p ≤ q) : i ≤ j :=
  (stands_of_place? hi).mono (stands_of_place? hj) (Position.le_def.1 hpq)

/-- The way to a place is clear if no foreign break stands on it. -/
theorem clear_endsLine_iff (s : List Char) (i : Nat) :
    Clear endsLine s i ↔ ∀ c ∈ s.take (i - 1), isForeign c = false := by
  induction s generalizing i with
  | nil => simp [Clear]
  | cons c rest ih =>
    rcases i with _ | _ | i
    · simp [Clear]
    · simp [Clear]
    · have same : breaksLine c rest = endsLine c rest ↔ isForeign c = false := by
        rw [breaksLine_eq]
        cases foreign : isForeign c with
        | false => simp
        | true => simp [endsLine_of_not_terminator (isTerminator_of_foreign foreign)]
      rw [Clear, same, ih, Nat.add_sub_cancel, Nat.add_sub_cancel, List.take_succ_cons, List.forall_mem_cons]

/-- **Where places are found.** A place of the protocol is found exactly if no foreign break stands in
front of it, the character right before it apart. -/
theorem charIndex_eq_iff {s : List Char} {p : Position} {i : Nat} (h : place? s p = some i) :
    charIndex s p = i ↔ ∀ c ∈ s.take (i - 1), isForeign c = false :=
  ((stands_of_place? h).charIndex_eq_iff_clear fun _ _ => breaksLine_of_endsLine).trans (clear_endsLine_iff s i)

/-! ### Edits -/

/-- An edit finds no foreign break in front of the end of its range, the character right before that end
apart. -/
def Edit.Plain (e : Edit) (s : List Char) : Prop :=
  ∀ r j, e.range = some r → place? s r.stop = some j → ∀ c ∈ s.take (j - 1), isForeign c = false

theorem Edit.apply_of_replace? {e : Edit} {s t : List Char} (valid : e.replace? s = some t)
    (plain : e.Plain s) : e.apply s = t := by
  unfold Edit.replace? at valid
  unfold Edit.apply
  cases hr : e.range with
  | none =>
    rw [hr] at valid
    exact Option.some.inj valid
  | some r =>
    rw [hr] at valid
    dsimp only at valid ⊢
    split at valid
    next i j hi hj =>
      obtain ⟨order, text⟩ := Option.ite_none_right_eq_some.1 valid
      have hij : i ≤ j := place?_mono hi hj order
      have behind := plain r j hr hj
      have stop : charIndex s r.stop = j := (charIndex_eq_iff hj).2 behind
      have start : charIndex s r.start = i := by
        refine (charIndex_eq_iff hi).2 fun c hc => behind c ?_
        exact (List.take_subset_take_left s (Nat.sub_le_sub_right hij 1)) hc
      rw [start, stop, Nat.max_eq_right hij]
      exact Option.some.inj text
    next => cases valid

/-- **Synchrony.** Edits that are valid by the protocol, each in the text that it finds, lead to the text
that the editor has, if none of them has a foreign break in front of the end of its range; right before
that end one may stand. -/
theorem applyAll_of_edited? {edits : List Edit} {s t : List Char} (valid : edited? edits s = some t)
    (plain : ∀ before e rest u, edits = before ++ e :: rest → edited? before s = some u → e.Plain u) :
    applyAll edits s = t := by
  induction edits generalizing s with
  | nil => exact Option.some.inj valid
  | cons e edits ih =>
    rw [edited?_cons] at valid
    obtain ⟨u, hu, valid⟩ := Option.bind_eq_some_iff.1 valid
    have first : e.apply s = u := e.apply_of_replace? hu (plain [] e edits s rfl rfl)
    show applyAll edits (e.apply s) = t
    rw [first]
    refine ih valid fun before e' rest v hedits hv => ?_
    refine plain (e :: before) e' rest v (by rw [hedits, List.cons_append]) ?_
    rw [edited?_cons, hu]
    exact hv

/-- An edit that brings no foreign break leaves a text without as it is in this. -/
theorem Edit.plain_of_replace? {e : Edit} {s t : List Char} (h : e.replace? s = some t)
    (hs : ∀ c ∈ s, isForeign c = false) (new : ∀ c ∈ e.text, isForeign c = false) :
    ∀ c ∈ t, isForeign c = false := by
  intro c hc
  unfold Edit.replace? at h
  split at h
  · obtain rfl := Option.some.inj h
    exact new c hc
  · split at h
    next i j _ _ =>
      obtain ⟨-, h⟩ := Option.ite_none_right_eq_some.1 h
      obtain rfl := Option.some.inj h
      simp only [List.mem_append] at hc
      rcases hc with (hc | hc) | hc
      · exact hs c (List.mem_of_mem_take hc)
      · exact new c hc
      · exact hs c (List.mem_of_mem_drop hc)
    next => cases h

/-- A text in which no foreign break stands, and into which no edit brings one, stays without. -/
theorem plain_of_edited? {edits : List Edit} {s t : List Char} (h : edited? edits s = some t)
    (hs : ∀ c ∈ s, isForeign c = false) (he : ∀ e ∈ edits, ∀ c ∈ e.text, isForeign c = false) :
    ∀ c ∈ t, isForeign c = false := by
  induction edits generalizing s with
  | nil => exact Option.some.inj h ▸ hs
  | cons e edits ih =>
    rw [edited?_cons] at h
    obtain ⟨u, hu, h⟩ := Option.bind_eq_some_iff.1 h
    have plain := e.plain_of_replace? hu hs (he e List.mem_cons_self)
    exact ih h plain fun e' he' => he e' (List.mem_cons_of_mem e he')

theorem plain_before {edits : List Edit} {s : List Char} (hs : ∀ c ∈ s, isForeign c = false)
    (he : ∀ e ∈ edits, ∀ c ∈ e.text, isForeign c = false) (before : List Edit) (e : Edit)
    (rest : List Edit) (u : List Char) (split : edits = before ++ e :: rest)
    (hu : edited? before s = some u) : e.Plain u := by
  intro r j _ _ c hc
  refine plain_of_edited? hu hs (fun e' he' => he e' ?_) c (List.mem_of_mem_take hc)
  rw [split]
  exact List.mem_append_left _ he'

/-- An edit behind a pair, and one that takes a line break of two characters away. -/
def pairEdits : List Edit := [⟨some ⟨⟨0, 7⟩, ⟨0, 8⟩⟩, ['z']⟩, ⟨some ⟨⟨0, 9⟩, ⟨1, 1⟩⟩, ['\n']⟩]

theorem pairEdits_synchronous :
    edited? pairEdits "/*😀*/ x;\r\ny;\r".toList = some "/*😀*/ z;\n;\r".toList ∧
      applyAll pairEdits "/*😀*/ x;\r\ny;\r".toList = "/*😀*/ z;\n;\r".toList := by
  have valid : edited? pairEdits "/*😀*/ x;\r\ny;\r".toList = some "/*😀*/ z;\n;\r".toList := by
    decide +kernel
  have plain : ("/*😀*/ x;\r\ny;\r".toList.all fun c => !isForeign c) = true := by decide +kernel
  have plainEdits : (pairEdits.all fun e => e.text.all fun c => !isForeign c) = true := by decide +kernel
  simp only [List.all_eq_true, Bool.not_eq_true'] at plain plainEdits
  exact ⟨valid, applyAll_of_edited? valid (plain_before plain plainEdits)⟩

/-- After a form feed an edit lands on another line than the editor means. -/
theorem formFeed_misplaced :
    let edit : Edit := ⟨some ⟨⟨1, 0⟩, ⟨1, 1⟩⟩, ['w']⟩
    edited? [edit] "x;\x0cy;\nz;".toList = some "x;\x0cy;\nw;".toList ∧
      applyAll [edit] "x;\x0cy;\nz;".toList = "x;\x0cw;\nz;".toList ∧
      applyAll [edit] "x;\x0cy;\nz;".toList ≠ "x;\x0cy;\nw;".toList := by
  decide +kernel

end Document

end ShaderDiagnostics
