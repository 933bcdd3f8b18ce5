import Mathlib.Data.List.Nodup
import ShaderDiagnostics.Proofs.Pattern.Choices
import ShaderDiagnostics.Report.Snippet

/-!
# Whole words

The pattern of a whole word matches where the word stands alone (`Report.StandsAt`): it lies ahead, and no other
character of a word touches it. Such positions are never so close that the word overlaps itself, for inside of it every
character is one of a word. So the search, which goes on behind each match, misses none of them, and the matches are
all positions where the word stands alone, in their order (`Report.matches_wholeWord`).
-/

namespace ShaderDiagnostics.Report

open Pattern Unicode

/-- The word lies ahead at a position of a text, and no other character of a word touches it there. -/
structure StandsAt (word s : List Char) (k : Nat) : Prop where
  ahead : word <+: s.drop k
  starts : (s.take k).getLast?.any isWord = false
  ends : (s.drop (k + word.length)).head?.any isWord = false

theorem standsAt_iff {word s : List Char} {k : Nat} :
    StandsAt word s k ↔ word <+: s.drop k ∧ (s.take k).getLast?.any isWord = false ∧
      (s.drop (k + word.length)).head?.any isWord = false :=
  ⟨fun h => ⟨h.ahead, h.starts, h.ends⟩, fun ⟨ahead, starts, ends⟩ => ⟨ahead, starts, ends⟩⟩

instance (word s : List Char) (k : Nat) : Decidable (StandsAt word s k) := decidable_of_iff' _ standsAt_iff

/-- The place at a position of a text. -/
abbrev placeAt (s : List Char) (k : Nat) : Place := (Place.start s).past k

section

variable {word s : List Char} (identifier : isIdentifier word = true)

include identifier

theorem ne_nil_of_isIdentifier : word ≠ [] := by
  rintro rfl
  cases identifier

theorem isWord_of_isIdentifier {c : Char} (mem : c ∈ word) : isWord c = true :=
  List.all_eq_true.1 (Bool.and_eq_true_iff.1 identifier).2 c mem

theorem length_pos_of_isIdentifier : 0 < word.length := List.length_pos_of_ne_nil (ne_nil_of_isIdentifier identifier)

theorem any_head?_isIdentifier (rest : List Char) : (word ++ rest).head?.any isWord = true := by
  obtain ⟨c, w, rfl⟩ := List.exists_cons_of_ne_nil (ne_nil_of_isIdentifier identifier)
  exact isWord_of_isIdentifier identifier List.mem_cons_self

theorem any_getLast?_isIdentifier (previous : Option Char) : (word.getLast?.or previous).any isWord = true := by
  rw [List.getLast?_eq_getLast_of_ne_nil (ne_nil_of_isIdentifier identifier)]
  exact isWord_of_isIdentifier identifier (List.getLast_mem _)

/-- Where the pattern of a word matches, and where it ends. -/
theorem endAt?_wholeWord (a : Place) :
    (wholeWord word).endAt? a =
      if word <+: a.after ∧ a.follows isWord = false ∧ (a.past word.length).precedes isWord = false then
        some (a.past word.length)
      else none := by
  rw [wholeWord, endAt?_anchor_seq, endAt?_seq, ends_literal]
  by_cases ahead : word <+: a.after
  · have ⟨rest, after⟩ := ahead
    have precedes : a.precedes isWord = true := by
      rw [Place.precedes, ← after]
      exact any_head?_isIdentifier identifier rest
    have follows : (a.past word.length).follows isWord = true := by
      rw [Place.follows, Place.past, ← after, List.take_left]
      exact any_getLast?_isIdentifier identifier a.previous
    cases starts : a.follows isWord <;> cases closes : (a.past word.length).precedes isWord <;>
      simp [endAt?, ends, Place.meets, starts, precedes, follows, closes, ahead]
  · simp [ahead]

theorem endAt?_placeAt (s : List Char) (k : Nat) :
    (wholeWord word).endAt? (placeAt s k) =
      if StandsAt word s k then some (placeAt s (k + word.length)) else none := by
  have here : StandsAt word s k ↔ word <+: (placeAt s k).after ∧ (placeAt s k).follows isWord = false ∧
      (placeAt s (k + word.length)).precedes isWord = false := by
    simp [standsAt_iff, Place.follows, Place.precedes, Place.past, Place.start]
  simp only [endAt?_wholeWord identifier, Place.past_past, here]

theorem isIdentifier_take {n : Nat} (some : 0 < n) : isIdentifier (word.take n) = true := by
  obtain ⟨n, rfl⟩ := Nat.exists_eq_add_of_lt some
  obtain ⟨c, w, rfl⟩ := List.exists_cons_of_ne_nil (ne_nil_of_isIdentifier identifier)
  have words : ∀ d ∈ (c :: w).take (0 + n + 1), isWord d = true := fun d mem =>
    isWord_of_isIdentifier identifier (List.mem_of_mem_take mem)
  simpa [isIdentifier] using words

/-- Inside a word that stands alone none does, for it would follow a character of the first one. -/
theorem StandsAt.not_inside {k j : Nat} (h : StandsAt word s k) (behind : k < j) (within : j < k + word.length) :
    ¬ StandsAt word s j := by
  intro other
  obtain ⟨rest, after⟩ := h.ahead
  obtain ⟨n, rfl⟩ := Nat.exists_eq_add_of_le (Nat.le_of_lt behind)
  have passed : s.take (k + n) = s.take k ++ word.take n := by
    rw [List.take_add, ← after, List.take_append_of_le_length (by omega)]
  have follows := any_getLast?_isIdentifier (isIdentifier_take identifier (show 0 < n by omega)) (s.take k).getLast?
  have starts := other.starts
  rw [passed, List.getLast?_append, follows] at starts
  cases starts

theorem StandsAt.within {k : Nat} (h : StandsAt word s k) : k + word.length ≤ s.length := by
  have some := length_pos_of_isIdentifier identifier
  have length := h.ahead.length_le
  rw [List.length_drop] at length
  omega

/-- What stands around a word that stands alone. -/
theorem standsAt_iff_split {k : Nat} :
    StandsAt word s k ↔ ∃ before after, s = before ++ word ++ after ∧ before.length = k ∧
      before.getLast?.any isWord = false ∧ after.head?.any isWord = false := by
  constructor
  · intro stands
    obtain ⟨after, rest⟩ := stands.ahead
    have within := stands.within identifier
    have behind : s.drop (k + word.length) = after := by rw [← List.drop_drop, ← rest, List.drop_left]
    refine ⟨s.take k, after, ?_, List.length_take_of_le (by omega), stands.starts, behind ▸ stands.ends⟩
    rw [List.append_assoc, rest, List.take_append_drop]
  · rintro ⟨before, after, rfl, rfl, starts, ends⟩
    have behind : (before ++ word ++ after).drop (before.length + word.length) = after := by
      rw [← List.length_append, List.drop_left]
    refine ⟨?_, ?_, behind.symm ▸ ends⟩
    · rw [List.append_assoc, List.drop_left]
      exact List.prefix_append word after
    · rwa [List.append_assoc, List.take_left]

/-! ### The search -/

/-- The search finds the next position where the word stands alone. -/
theorem search_wholeWord (k n : Nat) (all : k + n = s.length) :
    search (wholeWord word) k (placeAt s k).previous (s.drop k) =
      ((List.range' k (n + 1)).find? fun j => StandsAt word s j).map fun j =>
        (placeAt s j, placeAt s (j + word.length)) := by
  have place : ∀ j, (⟨j, (placeAt s j).previous, s.drop j, []⟩ : Place) = placeAt s j := fun j => by
    simp [Place.past, Place.start]
  induction n generalizing k with
  | zero =>
    obtain rfl : k = s.length := all
    have here := place s.length
    rw [List.drop_length] at here ⊢
    rw [search, here, endAt?_placeAt identifier]
    by_cases stands : StandsAt word s s.length <;> simp [stands]
  | succ n ih =>
    have drop := List.drop_eq_getElem_cons (show k < s.length by omega)
    have here := place k
    have previous : (placeAt s (k + 1)).previous = some s[k] := by
      change (s.take (k + 1)).getLast?.or none = some s[k]
      rw [List.take_succ_eq_append_getElem, List.getLast?_concat, Option.some_or]
    rw [drop] at here
    rw [drop, search, here, endAt?_placeAt identifier, List.range'_succ]
    by_cases stands : StandsAt word s k
    · simp [stands]
    · have on := ih (k + 1) (by omega)
      rw [previous] at on
      simpa [stands] using on

/-- The stretch of a word at a position. -/
abbrev wordSpan (word : List Char) (k : Nat) : Span := ⟨k, k + word.length⟩

theorem matchesFrom_wholeWord (fuel k n : Nat) (closed : Bool) (all : k + n = s.length) (enough : n < fuel) :
    matchesFrom (wholeWord word) fuel closed (placeAt s k) =
      ((List.range' k (n + 1)).filter fun j => StandsAt word s j).map (wordSpan word) := by
  induction fuel generalizing k n closed with
  | zero => cases enough
  | succ fuel ih =>
    have index : (placeAt s k).index = k := Nat.zero_add k
    have after : (placeAt s k).after = s.drop k := rfl
    rw [matchesFrom, index, after, search_wholeWord identifier k n all]
    cases found : (List.range' k (n + 1)).find? fun j => StandsAt word s j with
    | none =>
      have nowhere : (List.range' k (n + 1)).filter (fun j => StandsAt word s j) = [] :=
        List.filter_eq_nil_iff.2 (List.find?_eq_none.1 found)
      rw [nowhere]
      rfl
    | some j =>
      obtain ⟨stands, mem, first⟩ := List.find?_range'_eq_some.1 found
      have stands : StandsAt word s j := of_decide_eq_true stands
      obtain ⟨before, rfl⟩ := Nat.exists_eq_add_of_le (List.mem_range'_1.1 mem).1
      have moves := length_pos_of_isIdentifier identifier
      have within := stands.within identifier
      -- the positions before the word, its own, those inside of it, and those behind it
      obtain ⟨inside, length⟩ := Nat.exists_eq_add_of_lt moves
      obtain ⟨behind, rest⟩ := Nat.exists_eq_add_of_le within
      have parts : List.range' k (n + 1) = List.range' k before ++ (k + before) ::
          (List.range' (k + before + 1) inside ++ List.range' (k + before + word.length) (behind + 1)) := by
        have split : n + 1 = before + ((inside + (behind + 1)) + 1) := by omega
        have next : k + before + word.length = k + before + 1 + inside := by omega
        rw [split, next, List.range'_append_1, ← List.range'_succ, List.range'_append_1]
      have none_before : (List.range' k before).filter (fun i => StandsAt word s i) = [] :=
        List.filter_eq_nil_iff.2 fun i hi => by
          obtain ⟨low, high⟩ := List.mem_range'_1.1 hi
          simpa using first i low high
      have none_inside : (List.range' (k + before + 1) inside).filter (fun i => StandsAt word s i) = [] :=
        List.filter_eq_nil_iff.2 fun i hi => by
          obtain ⟨low, high⟩ := List.mem_range'_1.1 hi
          simpa using stands.not_inside identifier low (by omega)
      have start : (placeAt s (k + before)).index = k + before := Nat.zero_add _
      have stop : (placeAt s (k + before + word.length)).index = k + before + word.length := Nat.zero_add _
      have moved : (placeAt s (k + before)).same (placeAt s (k + before + word.length)) = false := by
        rw [Place.same, start, stop]
        simpa using ne_nil_of_isIdentifier identifier
      have on := ih (k + before + word.length) behind true (by omega) (by omega)
      rw [Option.map_some]
      dsimp only
      rw [moved, Bool.and_false, Bool.false_and, if_neg Bool.false_ne_true, on, parts, List.filter_append, none_before,
        List.filter_cons_of_pos (by simpa using stands), List.filter_append, none_inside, start, stop]
      rfl

/-- The pattern of a word matches at every position where the word stands alone. -/
theorem matches_wholeWord (s : List Char) :
    (wholeWord word).matches_ s =
      ((List.range (s.length + 1)).filter fun k => StandsAt word s k).map (wordSpan word) := by
  have here : Place.start s = placeAt s 0 := (Place.past_zero _).symm
  rw [matches_, here, List.range_eq_range']
  exact matchesFrom_wholeWord identifier _ 0 s.length false (Nat.zero_add _) (by omega)

/-- There is one match if the word stands alone at one position only. -/
theorem matches_wholeWord_eq_singleton_iff {m : Span} :
    (wholeWord word).matches_ s = [m] ↔
      ∃ k, m = wordSpan word k ∧ StandsAt word s k ∧ ∀ j, StandsAt word s j → j = k := by
  have positions : ∀ k, (List.range (s.length + 1)).filter (fun j => StandsAt word s j) = [k] ↔
      ∀ j, StandsAt word s j ↔ j = k := by
    intro k
    rw [← List.perm_singleton,
      List.perm_ext_iff_of_nodup (List.nodup_range.filter _) (List.nodup_singleton k)]
    refine forall_congr' fun j => ?_
    have within : StandsAt word s j → j < s.length + 1 := fun stands => by
      have := stands.within identifier
      omega
    simpa using within
  rw [matches_wholeWord identifier, List.map_eq_singleton_iff]
  constructor
  · rintro ⟨k, only, rfl⟩
    exact ⟨k, rfl, ((positions k).1 only k).2 rfl, fun j => ((positions k).1 only j).1⟩
  · rintro ⟨k, rfl, stands, only⟩
    exact ⟨k, (positions k).2 fun j => ⟨only j, fun same => same ▸ stands⟩, rfl⟩

end

end ShaderDiagnostics.Report
