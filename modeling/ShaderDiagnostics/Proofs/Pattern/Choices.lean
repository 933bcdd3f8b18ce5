import Mathlib.Data.List.Induction
import ShaderDiagnostics.Proofs.Pattern.Extents

/-!
# Texts and choices

A condition is met or not, and then the pattern behind it decides (`Pattern.endAt?_anchor_seq`). Further patterns with
an extent: a given text (`Pattern.measured_literal`), either of two patterns
(`Pattern.measured_alt`), and as few characters as possible before a pattern (`Pattern.measured_until`). The last one
goes on to its second end, its third, and so forth only where the pattern behind it does not match yet.
-/

namespace ShaderDiagnostics.Pattern

open Unicode

variable {p q : Pattern} {l m : Extent}

/-! ### Conditions -/

theorem endAt?_anchor_seq (cond : Anchor) (q : Pattern) (a : Place) :
    (seq (.anchor cond) q).endAt? a = if a.meets cond then q.endAt? a else none := by
  rw [endAt?_seq, ends]
  split <;> simp

/-! ### Given texts -/

/-- The place so many characters further on. -/
def Place.past (a : Place) (n : Nat) : Place :=
  { a with
    index := a.index + n
    previous := (a.after.take n).getLast?.or a.previous
    after := a.after.drop n }

theorem Place.Ahead.past {a : Place} {n : Nat} (within : n ≤ a.after.length) : a.Ahead n (a.past n) :=
  ⟨rfl, rfl, within⟩

theorem Place.past_zero (a : Place) : a.past 0 = a := by simp [past]

theorem Place.past_past (a : Place) (m n : Nat) : (a.past m).past n = a.past (m + n) := by
  simp [past, List.take_add, List.getLast?_append, Option.or_assoc, Nat.add_assoc]

theorem ends_char (c : Char) (a : Place) : (char c).ends a = if [c] <+: a.after then [a.past 1] else [] := by
  obtain ⟨index, previous, s, groups⟩ := a
  cases s with
  | nil => simp [char, ends, Place.precedes]
  | cons d rest =>
    by_cases h : c = d
    · simp [char, ends, Place.precedes, Place.next?, Place.past, h]
    · simp [char, ends, Place.precedes, h, Ne.symm h]

/-- A given text ends in one place, if it lies ahead. -/
theorem ends_literal (w : List Char) (a : Place) :
    (literal w).ends a = if w <+: a.after then [a.past w.length] else [] := by
  induction w using List.reverseRecOn with
  | nil => simp [literal, sequence, ends, Place.past_zero]
  | append_singleton w c ih =>
    rcases List.eq_nil_or_concat w with rfl | ⟨init, d, rfl⟩
    · exact ends_char c a
    · generalize hw : init.concat d = w at ih ⊢
      have joined : literal (w ++ [c]) = seq (literal w) (char c) := by
        subst hw
        obtain ⟨e, rest, he⟩ := List.exists_cons_of_ne_nil (List.concat_ne_nil d init)
        simp [he, literal, sequence]
      rw [joined, ends, ih]
      by_cases h : w <+: a.after
      · obtain ⟨rest, after⟩ := h
        have next : (a.past w.length).after = rest := by rw [Place.past, ← after, List.drop_left]
        have both : w ++ [c] <+: a.after ↔ [c] <+: rest := by rw [← after, List.prefix_append_right_inj]
        rw [if_pos ⟨rest, after⟩, List.flatMap_singleton, ends_char, next, Place.past_past]
        simp only [both, List.length_append, List.length_singleton]
        split <;> simp [Place.firsts, Place.firstsBeyond]
      · have neither : ¬ w ++ [c] <+: a.after := fun longer => h ((List.prefix_append w [c]).trans longer)
        rw [if_neg h, if_neg neither]
        rfl

/-- The extent of a given text. -/
def literalExtent (w : List Char) : Extent := fun s => if w <+: s then some w.length else none

theorem measured_literal (w : List Char) : Measured (literal w) (literalExtent w) where
  takes {a n} hn := by
    obtain ⟨h, taken⟩ := Option.ite_none_right_eq_some.1 hn
    obtain rfl := Option.some.inj taken
    exact ⟨a.past w.length, by rw [endAt?, ends_literal, if_pos h]; rfl, .past h.length_le⟩
  fails {a} hn := by
    have h : ¬ w <+: a.after := fun h => by simp [literalExtent, h] at hn
    rw [endAt?, ends_literal, if_neg h]
    rfl

theorem single_literal (w : List Char) (a : Place) : ((literal w).ends a).length ≤ 1 := by
  rw [ends_literal]
  split
  · exact Nat.le_refl _
  · exact Nat.zero_le _

/-! ### Either of two patterns -/

theorem endAt?_alt (p q : Pattern) (a : Place) : (alt p q).endAt? a = (p.endAt? a).or (q.endAt? a) := by
  rw [endAt?, ends, Place.head?_firsts, List.head?_append]
  rfl

theorem measured_alt (hp : Measured p l) (hq : Measured q m) : Measured (alt p q) fun s => (l s).or (m s) where
  takes {a n} hn := by
    rw [endAt?_alt]
    cases hi : l a.after with
    | none =>
      rw [hi, Option.none_or] at hn
      rw [hp.fails hi, Option.none_or]
      exact hq.takes hn
    | some i =>
      obtain ⟨b, first, ahead⟩ := hp.takes hi
      rw [hi, Option.some_or] at hn
      exact ⟨b, by rw [first, Option.some_or], Option.some.inj hn ▸ ahead⟩
  fails {a} hn := by
    obtain ⟨first, second⟩ := Option.or_eq_none_iff.1 hn
    rw [endAt?_alt, hp.fails first, hq.fails second, Option.none_or]

/-! ### As few characters as possible -/

/-- The extent of a text with as few characters of the class in front of it as possible. -/
def untilExtent (chars : CharClass) (m : Extent) : Extent
  | [] => m []
  | c :: rest => (m (c :: rest)).or (if chars c then (untilExtent chars m rest).map (1 + ·) else none)

/-- The places of a run are tried one after another. -/
theorem findSome?_run (chars : CharClass) (hq : Measured q m) (groups : List (String × List Char)) (index : Nat)
    (previous : Option Char) (s : List Char) :
    (∀ n, untilExtent chars m s = some n →
        ∃ b, (Place.run chars groups index previous s).findSome? q.endAt? = some b ∧
          Place.Ahead ⟨index, previous, s, groups⟩ n b) ∧
      (untilExtent chars m s = none → (Place.run chars groups index previous s).findSome? q.endAt? = none) := by
  induction s generalizing index previous with
  | nil =>
    refine ⟨fun n hn => ?_, fun hn => ?_⟩
    · obtain ⟨b, ends, ahead⟩ := hq.takes (a := ⟨index, previous, [], groups⟩) hn
      exact ⟨b, by simp [Place.run, ends], ahead⟩
    · simp [Place.run, hq.fails (a := ⟨index, previous, [], groups⟩) hn]
  | cons c rest ih =>
    rw [untilExtent, Place.run, List.findSome?_cons]
    cases hi : m (c :: rest) with
    | some i =>
      obtain ⟨b, ends, ahead⟩ := hq.takes (a := ⟨index, previous, c :: rest, groups⟩) hi
      rw [ends]
      exact ⟨fun n hn => ⟨b, rfl, Option.some.inj hn ▸ ahead⟩, fun hn => by cases hn⟩
    | none =>
      rw [hq.fails (a := ⟨index, previous, c :: rest, groups⟩) hi, Option.none_or]
      cases chars c with
      | false => exact ⟨fun n hn => (by cases hn), fun _ => rfl⟩
      | true =>
        obtain ⟨takes, fails⟩ := ih (index + 1) (some c)
        rw [if_pos rfl, if_pos rfl]
        refine ⟨fun n hn => ?_, fun hn => fails (Option.map_eq_none_iff.1 hn)⟩
        obtain ⟨k, hk, rfl⟩ := Option.map_eq_some_iff.1 hn
        obtain ⟨b, found, ahead⟩ := takes k hk
        have one : Place.Ahead ⟨index, previous, c :: rest, groups⟩ 1 ⟨index + 1, some c, rest, groups⟩ :=
          ⟨rfl, rfl, Nat.le_add_left _ _⟩
        exact ⟨b, found, one.trans ahead⟩

theorem measured_until (chars : CharClass) (hq : Measured q m) :
    Measured (seq (star (one chars) true) q) (untilExtent chars m) where
  takes {a n} hn := by
    rw [endAt?_seq]
    exact (findSome?_run chars hq a.groups a.index a.previous a.after).1 n hn
  fails {a} hn := by
    rw [endAt?_seq]
    exact (findSome?_run chars hq a.groups a.index a.previous a.after).2 hn

end ShaderDiagnostics.Pattern
