import Mathlib.Data.List.Basic
import ShaderDiagnostics.Pattern.Search

/-!
# How far a pattern goes

Whether a pattern without anchors matches, and how many characters its preferred match takes, depends on nothing but
the text that lies ahead: the pattern has an extent (`Pattern.Measured`). Extents are put together as patterns are.
One thing needs care: where two patterns follow each other, the first one goes back to an end that it prefers less
if the second one does not match. So the extent is that of the preferred ends only if there is nothing to go back to
(`Measured.seq_single`) or no need to (`Measured.seq_total`).
-/

namespace ShaderDiagnostics.Pattern

open Unicode

/-- How many characters a match at the start of a text takes, if there is one. -/
abbrev Extent := List Char → Option Nat

/-! ### Places -/

namespace Place

variable {a b c : Place} {m n : Nat}

/-- A place so many characters further on. -/
structure Ahead (a : Place) (n : Nat) (b : Place) : Prop where
  index : b.index = a.index + n
  after : b.after = a.after.drop n
  within : n ≤ a.after.length

theorem Ahead.refl (a : Place) : a.Ahead 0 a := ⟨rfl, rfl, Nat.zero_le _⟩

theorem Ahead.trans (h : a.Ahead m b) (h' : b.Ahead n c) : a.Ahead (m + n) c where
  index := by rw [h'.index, h.index, Nat.add_assoc]
  after := by rw [h'.after, h.after, List.drop_drop]
  within := by
    have within := h'.within
    rw [h.after, List.length_drop] at within
    have := h.within
    omega

theorem Ahead.same_iff (h : a.Ahead n b) : a.same b = true ↔ n = 0 := by
  rw [same, beq_iff_eq, h.index]
  omega

theorem head?_firsts (places : List Place) : (firsts places).head? = places.head? := by
  cases places with
  | nil => rfl
  | cons a rest => simp [firsts, firstsBeyond]

theorem length_firstsBeyond_le (passed : IndexSet) (places : List Place) :
    (firstsBeyond passed places).length ≤ places.length := by
  induction places generalizing passed with
  | nil => exact Nat.le_refl _
  | cons a rest ih =>
    rw [firstsBeyond]
    split
    · exact Nat.le_succ_of_le (ih _)
    · exact Nat.succ_le_succ (ih _)

theorem firsts_pair (h : a.index ≠ b.index) : firsts [a, b] = [a, b] := by
  simp [firsts, firstsBeyond, h]

/-- The last place that a run reaches. -/
theorem getLast?_run (chars : CharClass) (groups : List (String × List Char)) (index : Nat)
    (previous : Option Char) (s : List Char) :
    ∃ b, (run chars groups index previous s).getLast? = some b ∧
      Ahead ⟨index, previous, s, groups⟩ (s.takeWhile chars).length b := by
  induction s generalizing index previous with
  | nil => exact ⟨_, rfl, .refl _⟩
  | cons c rest ih =>
    cases hc : chars c with
    | false =>
      refine ⟨_, by rw [run, hc]; rfl, ?_⟩
      rw [List.takeWhile_cons_of_neg (by simp [hc])]
      exact .refl _
    | true =>
      obtain ⟨b, last, ahead⟩ := ih (index + 1) (some c)
      refine ⟨b, by rw [run, hc, if_pos rfl, List.getLast?_cons, last]; rfl, ?_⟩
      rw [List.takeWhile_cons_of_pos hc, List.length_cons, Nat.add_comm]
      have one : Ahead ⟨index, previous, c :: rest, groups⟩ 1 ⟨index + 1, some c, rest, groups⟩ :=
        ⟨rfl, rfl, Nat.le_add_left _ _⟩
      exact one.trans ahead

end Place

/-! ### Extents of patterns -/

/-- The pattern has an extent: its preferred end lies so far ahead, wherever it starts. -/
structure Measured (p : Pattern) (extent : Extent) : Prop where
  takes : ∀ {a : Place} {n : Nat}, extent a.after = some n → ∃ b, p.endAt? a = some b ∧ a.Ahead n b
  fails : ∀ {a : Place}, extent a.after = none → p.endAt? a = none

/-- The extent of one character. -/
def oneExtent (chars : CharClass) : Extent := fun s => if s.head?.any chars then some 1 else none

/-- The extent of one text after another. -/
def seqExtent (l m : Extent) : Extent := fun s => (l s).bind fun n => (m (s.drop n)).map (n + ·)

/-- The extent of as many rounds as possible, at most so many. A round that takes nothing is the last. -/
def roundsExtent (l : Extent) : Nat → List Char → Nat
  | 0, _ => 0
  | n + 1, s =>
    match l s with
    | none => 0
    | some 0 => 0
    | some (k + 1) => k + 1 + roundsExtent l n (s.drop (k + 1))

variable {p q : Pattern} {l m : Extent}

theorem Measured.congr (h : Measured p l) (same : ∀ s, l s = m s) : Measured p m := by
  rwa [← funext same]

theorem measured_one (chars : CharClass) : Measured (.one chars) (oneExtent chars) where
  takes {a n} hn := by
    obtain ⟨index, previous, s, groups⟩ := a
    cases s with
    | nil => cases hn
    | cons c rest =>
      cases hc : chars c with
      | false => simp [oneExtent, hc] at hn
      | true =>
        obtain rfl : 1 = n := by simpa [oneExtent, hc] using hn
        exact ⟨⟨index + 1, some c, rest, groups⟩, by simp [endAt?, ends, Place.precedes, Place.next?, hc],
          rfl, rfl, Nat.le_add_left _ _⟩
  fails {a} hn := by
    have stays : a.precedes chars = false := by simpa [oneExtent, Place.precedes] using hn
    simp [endAt?, ends, stays]

theorem measured_run (chars : CharClass) :
    Measured (.star (.one chars) false) fun s => some (s.takeWhile chars).length where
  takes {a n} hn := by
    obtain rfl := Option.some.inj hn
    obtain ⟨b, last, ahead⟩ := Place.getLast?_run chars a.groups a.index a.previous a.after
    exact ⟨b, by rw [endAt?, ends]; simpa using last, ahead⟩
  fails := nofun

/-! ### One pattern after another -/

theorem endAt?_seq (p q : Pattern) (a : Place) : (seq p q).endAt? a = (p.ends a).findSome? q.endAt? := by
  rw [endAt?, ends, Place.head?_firsts, List.head?_flatMap]
  rfl

/-- The extent of one pattern after another, if the first one keeps to the end that it prefers. -/
theorem Measured.seq_of_bind (hp : Measured p l) (hq : Measured q m)
    (keeps : ∀ a, (p.ends a).findSome? q.endAt? = (p.endAt? a).bind q.endAt?) :
    Measured (seq p q) (seqExtent l m) where
  takes {a n} hn := by
    obtain ⟨i, hi, hn⟩ := Option.bind_eq_some_iff.1 hn
    obtain ⟨j, hj, rfl⟩ := Option.map_eq_some_iff.1 hn
    obtain ⟨b, first, ahead⟩ := hp.takes hi
    obtain ⟨c, second, ahead'⟩ := hq.takes (a := b) (ahead.after ▸ hj)
    exact ⟨c, by rw [endAt?_seq, keeps, first]; exact second, ahead.trans ahead'⟩
  fails {a} hn := by
    rw [endAt?_seq, keeps]
    cases hi : l a.after with
    | none => rw [hp.fails hi]; rfl
    | some i =>
      obtain ⟨b, first, ahead⟩ := hp.takes hi
      rw [first]
      refine hq.fails ?_
      simpa [seqExtent, hi, ahead.after] using hn

/-- The first pattern has no other end to go back to. -/
theorem Measured.seq_single (hp : Measured p l) (hq : Measured q m) (single : ∀ a, (p.ends a).length ≤ 1) :
    Measured (seq p q) (seqExtent l m) := by
  refine hp.seq_of_bind hq fun a => ?_
  rw [endAt?]
  match hb : p.ends a, single a with
  | [], _ => rfl
  | [b], _ => simp

/-- The second pattern matches everywhere. -/
theorem Measured.seq_total (hp : Measured p l) (hq : Measured q m) (total : ∀ s, (m s).isSome) :
    Measured (seq p q) (seqExtent l m) := by
  refine hp.seq_of_bind hq fun a => ?_
  rw [endAt?]
  cases p.ends a with
  | nil => rfl
  | cons b rest =>
    obtain ⟨n, hn⟩ := Option.isSome_iff_exists.1 (total b.after)
    obtain ⟨c, second, -⟩ := hq.takes hn
    simp [second]

theorem single_one (chars : CharClass) (a : Place) : ((one chars).ends a).length ≤ 1 := by
  unfold ends
  split
  · exact Option.length_toList_le
  · exact Nat.zero_le _

theorem single_seq (hp : ∀ a, (p.ends a).length ≤ 1) (hq : ∀ a, (q.ends a).length ≤ 1) (a : Place) :
    ((seq p q).ends a).length ≤ 1 := by
  rw [ends]
  refine Nat.le_trans (Place.length_firstsBeyond_le _ _) ?_
  match p.ends a, hp a with
  | [], _ => exact Nat.zero_le _
  | [b], _ => simpa using hq b

/-! ### A pattern or nothing -/

theorem ends_opt (p : Pattern) (a : Place) : (opt p false).ends a = Place.firsts (p.ends a ++ [a]) := rfl

theorem measured_opt (hp : Measured p l) : Measured (opt p false) fun s => some ((l s).getD 0) where
  takes {a n} hn := by
    rw [endAt?, ends_opt, Place.head?_firsts, List.head?_append]
    change ∃ b, (p.endAt? a).or (some a) = some b ∧ a.Ahead n b
    obtain rfl := Option.some.inj hn
    cases hi : l a.after with
    | none => exact ⟨a, by rw [hp.fails hi]; rfl, .refl a⟩
    | some i =>
      obtain ⟨b, first, ahead⟩ := hp.takes hi
      exact ⟨b, by rw [first]; rfl, ahead⟩
  fails := nofun

/-- A pattern that may be left out, and then is if what follows does not match behind it. -/
theorem measured_opt_seq (hp : Measured p l) (single : ∀ a, (p.ends a).length ≤ 1) (moves : ∀ s, l s ≠ some 0)
    (hq : Measured q m) : Measured (seq (opt p false) q) fun s => (seqExtent l m s).or (m s) := by
  have tries : ∀ a, (seq (opt p false) q).endAt? a = ((seq p q).endAt? a).or (q.endAt? a) := by
    intro a
    rw [endAt?_seq, endAt?_seq, ends_opt]
    match hb : p.ends a, single a with
    | [], _ => simp [Place.firsts, Place.firstsBeyond]
    | [b], _ =>
      have apart : b.index ≠ a.index := by
        have first : p.endAt? a = some b := by rw [endAt?, hb]; rfl
        cases hi : l a.after with
        | none => cases (hp.fails hi).symm.trans first
        | some i =>
          obtain ⟨b', first', ahead⟩ := hp.takes hi
          obtain rfl := Option.some.inj (first'.symm.trans first)
          have moved : i ≠ 0 := fun still => moves _ (hi.trans (congrArg some still))
          rw [ahead.index]
          omega
      rw [List.singleton_append, Place.firsts_pair apart]
      cases hc : q.endAt? b <;> simp [hc]
  have both := hp.seq_single hq single
  constructor
  · intro a n hn
    rw [tries]
    cases hi : seqExtent l m a.after with
    | none =>
      rw [hi, Option.none_or] at hn
      rw [both.fails hi, Option.none_or]
      exact hq.takes hn
    | some i =>
      obtain ⟨b, reached, ahead⟩ := both.takes hi
      rw [hi, Option.some_or] at hn
      exact ⟨b, by rw [reached, Option.some_or], Option.some.inj hn ▸ ahead⟩
  · intro a hn
    obtain ⟨first, second⟩ := Option.or_eq_none_iff.1 hn
    rw [tries, both.fails first, hq.fails second, Option.none_or]

/-! ### As many rounds as possible -/

/-- The end that is found first stays first. -/
theorem Trail.first_add {t : Trail} {b : Place} (first : t.found.getLast? = some b) (a : Place) :
    (t.add a).found.getLast? = some b := by
  unfold add
  split
  · exact first
  · rw [List.getLast?_cons, first]
    rfl

theorem Trail.first_added {t : Trail} (found : t.found = []) (known : ∀ i, t.known.contains i = false) (a : Place) :
    (t.add a).found.getLast? = some a := by
  rw [add, known, if_neg Bool.false_ne_true, found]
  rfl

/-- What an exploration does about a place that a round has reached. -/
def advance (step : Place → List Place) (lazy : Bool) (n : Nat) (a : Place) (t : Trail) (b : Place) : Trail :=
  if a.same b then t.add b else explore step lazy n b t

section

variable {step : Place → List Place} {lazy : Bool} {n : Nat} {a b : Place}

theorem first_fold (keeps : ∀ t c, t.found.getLast? = some b → (explore step lazy n c t).found.getLast? = some b)
    (places : List Place) {t : Trail} (first : t.found.getLast? = some b) :
    (places.foldl (advance step lazy n a) t).found.getLast? = some b := by
  induction places generalizing t with
  | nil => exact first
  | cons c rest ih =>
    refine ih ?_
    unfold advance
    split
    · exact Trail.first_add first c
    · exact keeps t c first

theorem first_explore (n : Nat) (t : Trail) (a : Place) (first : t.found.getLast? = some b) :
    (explore step lazy n a t).found.getLast? = some b := by
  induction n generalizing a t with
  | zero => exact Trail.first_add first a
  | succ n ih =>
    rw [explore]
    split
    · exact first
    · refine Trail.first_add (first_fold (fun t c => ih t c) _ ?_) a
      split
      · exact Trail.first_add (show (t.visit a).found.getLast? = some b from first) a
      · exact first

end

/-- Nothing has been found, and the places explored lie behind. -/
structure Trail.Fresh (t : Trail) (a : Place) : Prop where
  found : t.found = []
  known : ∀ i, t.known.contains i = false
  seen : ∀ i, t.seen.contains i = true → i < a.index

/-- Places further on are fresh once a place has been explored. -/
theorem Trail.Fresh.visit {t : Trail} {a b : Place} (fresh : t.Fresh a) (further : a.index < b.index) :
    (t.visit a).Fresh b where
  found := fresh.found
  known := fresh.known
  seen i hi := by
    have here : a.index = i ∨ t.seen.contains i = true := by simpa [Trail.visit] using hi
    rcases here with rfl | before
    · exact further
    · exact Nat.lt_trans (fresh.seen i before) further

/-- The place behind one round after another, each as it is preferred. A round that does not move is the last. -/
def lastRound (step : Place → List Place) : Nat → Place → Place
  | 0, a => a
  | n + 1, a =>
    match (step a).head? with
    | none => a
    | some b => if a.same b then b else lastRound step n b

/-- What is found first is what the preferred rounds lead to. -/
theorem explore_lastRound {step : Place → List Place}
    (onward : ∀ a b, (step a).head? = some b → a.index ≤ b.index) (n : Nat) {a : Place} {t : Trail}
    (fresh : t.Fresh a) : (explore step false n a t).found.getLast? = some (lastRound step n a) := by
  induction n generalizing a t with
  | zero => exact Trail.first_added fresh.found fresh.known a
  | succ n ih =>
    have unseen : t.seen.contains a.index = false :=
      Bool.eq_false_iff.2 fun here => Nat.lt_irrefl _ (fresh.seen _ here)
    have opens : explore step false (n + 1) a t = ((step a).foldl (advance step false n a) (t.visit a)).add a := by
      rw [explore, unseen, if_neg Bool.false_ne_true]
      rfl
    have first : ∀ c, ((t.visit a).add c).found.getLast? = some c :=
      Trail.first_added (show (t.visit a).found = [] from fresh.found) fresh.known
    rw [opens, lastRound]
    cases reached : step a with
    | nil => exact first a
    | cons b rest =>
      have best : (advance step false n a (t.visit a) b).found.getLast? =
          some (if a.same b then b else lastRound step n b) := by
        unfold advance
        by_cases still : a.same b = true
        · rw [if_pos still, if_pos still]
          exact first b
        · have further : a.index < b.index := by
            have moved : a.index ≠ b.index := fun same => still (beq_iff_eq.2 same)
            have onward := onward a b (by rw [reached]; rfl)
            omega
          rw [if_neg still, if_neg still]
          exact ih (fresh.visit further)
      exact Trail.first_add (first_fold (first_explore n) rest best) a

theorem Measured.onward (hp : Measured p l) {a b : Place} (first : (p.ends a).head? = some b) : a.index ≤ b.index := by
  cases hi : l a.after with
  | none => cases (hp.fails hi).symm.trans first
  | some i =>
    obtain ⟨c, preferred, ahead⟩ := hp.takes hi
    obtain rfl := Option.some.inj (preferred.symm.trans first)
    rw [ahead.index]
    exact Nat.le_add_right _ _

theorem ahead_lastRound (hp : Measured p l) (n : Nat) (a : Place) :
    a.Ahead (roundsExtent l n a.after) (lastRound p.ends n a) := by
  induction n generalizing a with
  | zero => exact .refl a
  | succ n ih =>
    have preferred : (p.ends a).head? = p.endAt? a := rfl
    rw [lastRound, roundsExtent, preferred]
    cases hi : l a.after with
    | none =>
      rw [hp.fails hi]
      exact .refl a
    | some i =>
      obtain ⟨b, reached, ahead⟩ := hp.takes hi
      rw [reached]
      cases i with
      | zero =>
        dsimp only
        rw [if_pos (ahead.same_iff.2 rfl)]
        exact ahead
      | succ k =>
        have moved : ¬ a.same b = true := fun same => Nat.succ_ne_zero k (ahead.same_iff.1 same)
        dsimp only
        rw [if_neg moved]
        exact ahead.trans (ahead.after ▸ ih b)

/-- The end that a repetition prefers is behind its preferred rounds. -/
theorem endAt?_star (hp : Measured p l) (composite : ∀ chars, p ≠ .one chars) (a : Place) :
    (star p false).endAt? a = some (lastRound p.ends a.after.length a) := by
  have explores : (star p false).ends a = (explore p.ends false a.after.length a .empty).found.reverse := by
    cases p with
    | one chars => exact absurd rfl (composite chars)
    | _ => rfl
  have fresh : Trail.empty.Fresh a := ⟨rfl, IndexSet.contains_empty, by simp [Trail.empty]⟩
  rw [endAt?, explores, List.head?_reverse, explore_lastRound (fun a b first => hp.onward first) _ fresh]

/-- As many rounds as possible of a pattern that is not just one character. -/
theorem measured_star (hp : Measured p l) (composite : ∀ chars, p ≠ .one chars) :
    Measured (.star p false) fun s => some (roundsExtent l s.length s) where
  takes {a n} hn := by
    obtain rfl := Option.some.inj hn
    exact ⟨_, endAt?_star hp composite a, ahead_lastRound hp _ a⟩
  fails := nofun

end ShaderDiagnostics.Pattern
