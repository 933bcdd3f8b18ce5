import ShaderDiagnostics.Proofs.Pattern.Extents

/-!
# Replacing matches

A pattern with an extent is replaced by passing over the text once: where the pattern matches, the match is replaced
and passed as a whole, and any other character is kept (`Pattern.Scan`). Where a character can be in no match, the
texts on both sides of it are passed independently of each other (`Pattern.Scan.append`).
-/

namespace ShaderDiagnostics.Pattern

/-- Replaces the matches in a text, from its start to its end. -/
inductive Scan (l : Extent) (f : List Char → List Char) : List Char → List Char → Prop where
  /-- The text ends. -/
  | done : Scan l f [] []
  /-- A match is replaced. -/
  | hit {s t : List Char} {n : Nat} (found : l s = some n) (rest : Scan l f (s.drop n) t) :
      Scan l f s (f (s.take n) ++ t)
  /-- A character is kept. -/
  | skip {c : Char} {s t : List Char} (none : l (c :: s) = none) (rest : Scan l f s t) :
      Scan l f (c :: s) (c :: t)

/-- Matches take something, and no more than there is. -/
def Extent.Proper (l : Extent) : Prop := ∀ {s : List Char} {n : Nat}, l s = some n → 0 < n ∧ n ≤ s.length

theorem Extent.Proper.nil {l : Extent} (proper : l.Proper) : l [] = none := by
  cases h : l [] with
  | none => rfl
  | some n => exact absurd (proper h).2 (Nat.not_le.2 (proper h).1)

theorem Measured.proper {p : Pattern} {l : Extent} (hp : Measured p l) (moves : ∀ s, l s ≠ some 0) : l.Proper := by
  intro s n hn
  obtain ⟨b, -, ahead⟩ := hp.takes (a := Place.start s) hn
  exact ⟨Nat.pos_of_ne_zero fun still => moves s (still ▸ hn), ahead.within⟩

variable {p : Pattern} {l : Extent} {f : List Char → List Char} {s t u x y : List Char} {b : Char}

namespace Scan

theorem unique (proper : l.Proper) (h : Scan l f s t) (h' : Scan l f s u) : t = u := by
  induction h generalizing u with
  | done =>
    cases h' with
    | done => rfl
    | hit found => cases proper.nil.symm.trans found
  | hit found _ ih =>
    cases h' with
    | done => cases proper.nil.symm.trans found
    | hit found' rest' =>
      obtain rfl := Option.some.inj (found.symm.trans found')
      rw [ih rest']
    | skip none => cases none.symm.trans found
  | skip none _ ih =>
    cases h' with
    | hit found => cases none.symm.trans found
    | skip _ rest' => rw [ih rest']

/-- A character that no match reaches parts the text. -/
theorem append (proper : l.Proper) (bars : ∀ x, l (x ++ b :: y) = l x) (h : Scan l f x t) (h' : Scan l f y u) :
    Scan l f (x ++ b :: y) (t ++ b :: u) := by
  induction h with
  | done => exact .skip ((bars []).trans proper.nil) h'
  | @hit s t n found _ ih =>
    have within : n ≤ s.length := (proper found).2
    have next := Scan.hit (f := f) ((bars s).trans found) (by rwa [List.drop_append_of_le_length within])
    rwa [List.take_append_of_le_length within, ← List.append_assoc] at next
  | skip none _ ih => exact .skip ((bars _).trans none) ih

/-- Something is left of any text if something stands in place of a match. -/
theorem eq_nil (keeps : ∀ m, f m ≠ []) (h : Scan l f s t) (nil : t = []) : s = [] := by
  cases h with
  | done => rfl
  | hit => exact absurd (List.append_eq_nil_iff.1 nil).1 (keeps _)
  | skip => cases nil

/-- Characters before the first match are kept. -/
theorem skips {k : Nat} (within : k ≤ s.length) (none : ∀ j, j < k → l (s.drop j) = none)
    (rest : Scan l f (s.drop k) t) : Scan l f s (s.take k ++ t) := by
  induction k generalizing s with
  | zero => exact rest
  | succ k ih =>
    cases s with
    | nil => cases within
    | cons c s =>
      exact .skip (none 0 (Nat.succ_pos k)) (ih (Nat.le_of_succ_le_succ within)
        (fun j hj => none (j + 1) (Nat.succ_lt_succ hj)) rest)

end Scan

/-! ### Searching -/

/-- The first match in a text comes after so many characters, and takes so many. -/
structure First (l : Extent) (s : List Char) (k n : Nat) : Prop where
  within : k ≤ s.length
  none : ∀ j, j < k → l (s.drop j) = none
  found : l (s.drop k) = some n

/-- What a search finds: nothing at all, or the first match. -/
theorem search_cases (hp : Measured p l) (index : Nat) (previous : Option Char) (s : List Char) :
    (search p index previous s = none ∧ ∀ j, l (s.drop j) = none) ∨
      ∃ k n a b, search p index previous s = some (a, b) ∧ First l s k n ∧ a.index = index + k ∧
        a.after = s.drop k ∧ a.Ahead n b := by
  induction s generalizing index previous with
  | nil =>
    cases hl : l [] with
    | none => exact .inl ⟨by rw [search, hp.fails hl]; rfl, fun j => by rw [List.drop_nil, hl]⟩
    | some n =>
      obtain ⟨b, ends, ahead⟩ := hp.takes (a := ⟨index, previous, [], []⟩) hl
      exact .inr ⟨0, n, _, b, by rw [search, ends]; rfl, ⟨Nat.le_refl _, nofun, hl⟩, rfl, rfl, ahead⟩
  | cons c rest ih =>
    cases hl : l (c :: rest) with
    | some n =>
      obtain ⟨b, ends, ahead⟩ := hp.takes (a := ⟨index, previous, c :: rest, []⟩) hl
      exact .inr ⟨0, n, _, b, by rw [search, ends], ⟨Nat.zero_le _, nofun, hl⟩, rfl, rfl, ahead⟩
    | none =>
      have on : search p index previous (c :: rest) = search p (index + 1) (some c) rest := by
        rw [search, hp.fails hl]
      rw [on]
      rcases ih (index + 1) (some c) with ⟨nothing, never⟩ | ⟨k, n, a, b, reached, first, here, after, ahead⟩
      · exact .inl ⟨nothing, fun j => by cases j with | zero => exact hl | succ j => exact never j⟩
      · refine .inr ⟨k + 1, n, a, b, reached, ⟨Nat.succ_le_succ first.within, fun j hj => ?_, first.found⟩,
          by rw [here]; omega, after, ahead⟩
        cases j with
        | zero => exact hl
        | succ j => exact first.none j (Nat.lt_of_succ_lt_succ hj)

/-! ### Replacing -/

theorem scan_substitute (hp : Measured p l) (proper : l.Proper) (fuel : Nat) (closed : Bool) (here : Place)
    (enough : here.after.length < fuel) :
    Scan l f here.after (substitute f here.index here.after (matchesFrom p fuel closed here)) := by
  induction fuel generalizing closed here with
  | zero => cases enough
  | succ fuel ih =>
    rw [matchesFrom]
    rcases search_cases hp here.index here.previous here.after with
      ⟨nothing, never⟩ | ⟨k, n, a, b, reached, first, index, after, ahead⟩
    · rw [nothing]
      have kept : Scan l f here.after (here.after.take here.after.length ++ []) :=
        .skips (Nat.le_refl _) (fun j _ => never j) (by rw [List.drop_length]; exact .done)
      rwa [List.take_length, List.append_nil] at kept
    · obtain ⟨moves, within⟩ := proper first.found
      have moved : a.same b = false := Bool.eq_false_iff.2 fun same => by
        rw [ahead.same_iff.1 same] at moves
        exact Nat.lt_irrefl 0 moves
      have rest : b.after = here.after.drop (k + n) := by rw [ahead.after, after, List.drop_drop]
      have shorter : b.after.length < fuel := by
        rw [List.length_drop] at within
        rw [rest, List.length_drop]
        omega
      rw [reached]
      dsimp only
      rw [moved, Bool.and_false, Bool.false_and, if_neg Bool.false_ne_true, substitute]
      have start : a.index - here.index = k := by omega
      have taken : b.index - a.index = n := by rw [ahead.index]; omega
      have stop : b.index - here.index = k + n := by rw [ahead.index]; omega
      rw [start, taken, stop, List.append_assoc]
      exact .skips first.within first.none (.hit first.found (by rw [List.drop_drop, ← rest]; exact ih true b shorter))

/-- Replacing all matches passes over the text. -/
theorem scan_replaceAll (hp : Measured p l) (proper : l.Proper) (s : List Char) :
    Scan l f s (p.replaceAll f s) :=
  scan_substitute hp proper _ false (Place.start s) (by show s.length < 2 * s.length + 2; omega)

end ShaderDiagnostics.Pattern
