import ShaderDiagnostics.Proofs.Pattern.Choices

/-!
# What a pattern reads

A pattern reads a text before another one if it prefers to take the first and to stop before the second, wherever it is
tried (`Pattern.Reads`). Readings are put together as patterns are, along with the groups that they keep, as long as
each pattern in turn need not give back anything for the next one to match. The exception is a repetition that takes as
little as possible: it stops before the first character that closes it (`Pattern.reads_closed`).
-/

namespace ShaderDiagnostics.Pattern

open Unicode

/-- Where `s` and then `rest` lie ahead, the pattern prefers to take `s`, and it keeps the groups. -/
def Reads (p : Pattern) (s rest : List Char) (kept : List (String × List Char)) : Prop :=
  ∀ index previous groups, ∃ last,
    p.endAt? ⟨index, previous, s ++ rest, groups⟩ = some ⟨index + s.length, last, rest, kept ++ groups⟩

variable {p q : Pattern} {s t rest : List Char} {kept kept' : List (String × List Char)}

theorem endAt?_seq_of_some {a b c : Place} (hp : p.endAt? a = some b) (hq : q.endAt? b = some c) :
    (seq p q).endAt? a = some c := by
  obtain ⟨others, first⟩ := List.head?_eq_some_iff.1 hp
  rw [endAt?_seq, first, List.findSome?_cons, hq]

theorem endAt?_seq_of_none {a : Place} (hp : p.endAt? a = none) : (seq p q).endAt? a = none := by
  have none : p.ends a = [] := List.head?_eq_none_iff.1 hp
  rw [endAt?_seq, none]
  rfl

/-- What follows each other does not match where the first part does not. -/
theorem endAt?_sequence_of_none {a : Place} (hp : p.endAt? a = none) (others : List Pattern) :
    (sequence (p :: others)).endAt? a = none := by
  change (others.foldl Pattern.seq p).endAt? a = none
  induction others generalizing p with
  | nil => exact hp
  | cons q others ih => exact ih (endAt?_seq_of_none hp)

theorem reads_one {chars : CharClass} {c : Char} (inside : chars c = true) (rest : List Char) :
    Reads (one chars) [c] rest [] := by
  intro index previous groups
  exact ⟨some c, by simp [endAt?, ends, Place.precedes, Place.next?, inside]⟩

theorem reads_char (c : Char) (rest : List Char) : Reads (char c) [c] rest [] := reads_one (beq_self_eq_true c) rest

/-- As many characters of a class as there are. -/
theorem reads_run {chars : CharClass} (inside : ∀ c ∈ s, chars c = true) (stops : rest.head?.any chars = false) :
    Reads (star (one chars) false) s rest [] := by
  intro index previous groups
  induction s generalizing index previous with
  | nil =>
    refine ⟨previous, ?_⟩
    cases rest with
    | nil => rfl
    | cons c rest =>
      have stops : chars c = false := stops
      simp [endAt?, ends, Place.run, stops]
  | cons c s ih =>
    obtain ⟨first, others⟩ := List.forall_mem_cons.1 inside
    obtain ⟨last, reads⟩ := ih others (index + 1) (some c)
    refine ⟨last, ?_⟩
    rw [endAt?, ends] at reads ⊢
    have onward : (Place.run chars groups (index + 1) (some c) (s ++ rest)).getLast? =
        some ⟨index + 1 + s.length, last, rest, groups⟩ := by simpa using reads
    rw [List.cons_append, Place.run, first, if_pos rfl, if_neg Bool.false_ne_true, List.head?_reverse, List.getLast?_cons,
      onward, List.length_cons, Nat.add_assoc, Nat.add_comm 1]
    rfl

namespace Reads

theorem seq (hp : Reads p s (t ++ rest) kept) (hq : Reads q t rest kept') :
    Reads (seq p q) (s ++ t) rest (kept' ++ kept) := by
  intro index previous groups
  obtain ⟨middle, first⟩ := hp index previous groups
  obtain ⟨last, second⟩ := hq (index + s.length) middle (kept ++ groups)
  refine ⟨last, ?_⟩
  rw [List.append_assoc, List.length_append, ← Nat.add_assoc, List.append_assoc]
  exact endAt?_seq_of_some first second

theorem group (hp : Reads p s rest kept) (name : String) : Reads (group name p) s rest ((name, s) :: kept) := by
  intro index previous groups
  obtain ⟨last, first⟩ := hp index previous groups
  obtain ⟨others, first⟩ := List.head?_eq_some_iff.1 first
  refine ⟨last, ?_⟩
  simp [endAt?, ends, first, Place.upTo]

theorem opt (hp : Reads p s rest kept) : Reads (opt p false) s rest kept := by
  intro index previous groups
  obtain ⟨last, first⟩ := hp index previous groups
  refine ⟨last, ?_⟩
  rw [endAt?, ends_opt, Place.head?_firsts, List.head?_append]
  rw [endAt?] at first
  rw [first, Option.some_or]

end Reads

/-- A pattern that may be left out is, where it does not match. -/
theorem reads_opt_nothing (fails : ∀ index previous groups, p.endAt? ⟨index, previous, rest, groups⟩ = none) :
    Reads (opt p false) [] rest [] := by
  intro index previous groups
  refine ⟨previous, ?_⟩
  have none : p.ends ⟨index, previous, rest, groups⟩ = [] := List.head?_eq_none_iff.1 (fails index previous groups)
  rw [endAt?, ends_opt, Place.head?_firsts, List.nil_append, none]
  rfl

/-- The same of at least one character. -/
theorem reads_plus {chars : CharClass} (some : s ≠ []) (inside : ∀ c ∈ s, chars c = true)
    (stops : rest.head?.any chars = false) : Reads (plus (one chars) false) s rest [] := by
  obtain ⟨c, s, rfl⟩ := List.exists_cons_of_ne_nil some
  obtain ⟨first, others⟩ := List.forall_mem_cons.1 inside
  exact (reads_one first (s ++ rest)).seq (reads_run others stops)

/-! ### A whole text -/

/-- At the start of a text with `s` and then `rest`, the pattern prefers to take `s`, and it keeps the groups. -/
def Begins (p : Pattern) (s rest : List Char) (kept : List (String × List Char)) : Prop :=
  ∃ last, p.captures? (s ++ rest) = some ⟨s.length, last, rest, kept⟩

theorem Reads.begins (hp : Reads p s rest kept) : Begins (Pattern.seq (anchor .textStart) p) s rest kept := by
  obtain ⟨last, first⟩ := hp 0 none []
  refine ⟨last, ?_⟩
  rw [captures?, Place.start, endAt?_anchor_seq, Place.meets]
  rwa [Nat.zero_add, List.append_nil] at first

theorem Begins.seq (hp : Begins p s (t ++ rest) kept) (hq : Reads q t rest kept') :
    Begins (Pattern.seq p q) (s ++ t) rest (kept' ++ kept) := by
  obtain ⟨middle, first⟩ := hp
  obtain ⟨last, second⟩ := hq s.length middle kept
  refine ⟨last, ?_⟩
  rw [List.append_assoc, List.length_append]
  exact endAt?_seq_of_some first second

theorem reads_textEnd : Reads (anchor .textEnd) [] [] [] := fun _ previous _ => ⟨previous, rfl⟩

/-! ### Rounds -/

section

variable {l : Extent} (hp : Measured p l) (moves : ∀ s, l s ≠ some 0)

include hp moves

theorem lastRound_at_end (n : Nat) {a : Place} (ended : a.after = []) : lastRound p.ends n a = a := by
  cases n with
  | zero => rfl
  | succ n =>
    have stuck : (p.ends a).head? = none := by
      cases hi : l a.after with
      | none => exact hp.fails hi
      | some i =>
        obtain ⟨b, -, ahead⟩ := hp.takes hi
        have within := ahead.within
        rw [ended] at within
        obtain rfl := Nat.le_zero.1 within
        exact absurd hi (moves _)
    rw [lastRound, stuck]

/-- More rounds than there are characters change nothing. -/
theorem lastRound_of_le {m n : Nat} {a : Place} (hm : a.after.length ≤ m) (hn : a.after.length ≤ n) :
    lastRound p.ends m a = lastRound p.ends n a := by
  induction m generalizing n a with
  | zero =>
    have ended : a.after = [] := List.length_eq_zero_iff.1 (Nat.le_zero.1 hm)
    rw [lastRound_at_end hp moves n ended, lastRound]
  | succ m ih =>
    cases n with
    | zero =>
      have ended : a.after = [] := List.length_eq_zero_iff.1 (Nat.le_zero.1 hn)
      rw [lastRound_at_end hp moves (m + 1) ended, lastRound]
    | succ n =>
      rw [lastRound, lastRound]
      cases reached : (p.ends a).head? with
      | none => rfl
      | some b =>
        dsimp only
        split
        · rfl
        next moved =>
          cases hi : l a.after with
          | none => cases (hp.fails hi).symm.trans reached
          | some i =>
            obtain ⟨c, first, ahead⟩ := hp.takes hi
            obtain rfl := Option.some.inj (first.symm.trans reached)
            have further : i ≠ 0 := fun still => moved (ahead.same_iff.2 still)
            have shorter : c.after.length = a.after.length - i := by rw [ahead.after, List.length_drop]
            exact ih (by omega) (by omega)

/-- One more round before those of a repetition. -/
theorem Reads.star_cons (composite : ∀ chars, p ≠ .one chars) (some : s ≠ []) (first : Reads p s (t ++ rest) kept)
    (others : Reads (star p false) t rest kept') : Reads (star p false) (s ++ t) rest (kept' ++ kept) := by
  intro index previous groups
  obtain ⟨middle, first⟩ := first index previous groups
  obtain ⟨last, others⟩ := others (index + s.length) middle (kept ++ groups)
  refine ⟨last, ?_⟩
  rw [endAt?_star hp composite] at others ⊢
  have moved : ¬ (index == index + s.length) = true := by simpa using some
  obtain ⟨n, enough⟩ := Nat.exists_eq_add_of_lt (List.length_pos_of_ne_nil some)
  have fuel : (s ++ t ++ rest).length = n + (t ++ rest).length + 1 := by
    rw [List.append_assoc, List.length_append, enough]
    omega
  have preferred : (p.ends ⟨index, previous, s ++ t ++ rest, groups⟩).head? =
      Option.some ⟨index + s.length, middle, t ++ rest, kept ++ groups⟩ := by
    rw [List.append_assoc]
    exact first
  have onward := lastRound_of_le (a := ⟨index + s.length, middle, t ++ rest, kept ++ groups⟩) hp moves
    (Nat.le_add_left _ n) (Nat.le_refl _)
  rw [fuel, lastRound, preferred]
  dsimp only at onward others ⊢
  rw [Place.same, if_neg moved, onward, others, List.length_append, Nat.add_assoc, List.append_assoc]

omit moves in
theorem reads_star_nothing (composite : ∀ chars, p ≠ .one chars)
    (fails : ∀ index previous groups, p.endAt? ⟨index, previous, rest, groups⟩ = none) :
    Reads (star p false) [] rest [] := by
  intro index previous groups
  refine ⟨previous, ?_⟩
  rw [endAt?_star hp composite, List.nil_append]
  cases rest with
  | nil => rfl
  | cons c rest =>
    have stuck : (p.ends ⟨index, previous, c :: rest, groups⟩).head? = none := fails index previous groups
    rw [List.length_cons, lastRound, stuck]
    rfl

end

/-! ### Up to a closing character -/

theorem firstsBeyond_of_ascending {passed : IndexSet} {places : List Place}
    (ascending : places.Pairwise fun a b => a.index < b.index)
    (beyond : ∀ a ∈ places, passed.contains a.index = false) : Place.firstsBeyond passed places = places := by
  induction places generalizing passed with
  | nil => rfl
  | cons a places ih =>
    obtain ⟨below, ascending⟩ := List.pairwise_cons.1 ascending
    obtain ⟨first, others⟩ := List.forall_mem_cons.1 beyond
    have others : ∀ b ∈ places, (passed.insert a.index).contains b.index = false := fun b mem => by
      simp [others b mem, Nat.ne_of_lt (below b mem)]
    rw [Place.firstsBeyond, first, if_neg Bool.false_ne_true, ih ascending others]

theorem ascending_run (chars : CharClass) (groups : List (String × List Char)) (index : Nat)
    (previous : Option Char) (s : List Char) :
    (Place.run chars groups index previous s).Pairwise (fun a b => a.index < b.index) ∧
      ∀ a ∈ Place.run chars groups index previous s, index ≤ a.index := by
  induction s generalizing index previous with
  | nil => simp [Place.run]
  | cons c s ih =>
    obtain ⟨ascending, above⟩ := ih (index + 1) (some c)
    rw [Place.run]
    split
    · exact ⟨List.pairwise_cons.2 ⟨above, ascending⟩, List.forall_mem_cons.2
        ⟨Nat.le_refl _, fun a mem => Nat.le_of_succ_le (above a mem)⟩⟩
    · simp

/-- A place behind another one, with the text between them as a group. -/
def Place.keeping (a : Place) (name : String) (b : Place) : Place :=
  { b with groups := (name, a.upTo b) :: b.groups }

/-- The first place of a run that a closing character follows. The characters of `before` have been passed. -/
theorem findSome?_closed {chars : CharClass} {close : Char} (inside : ∀ c ∈ s, chars c = true) (closes : close ∉ s)
    (name : String) (a : Place) (previous : Option Char) (before rest : List Char)
    (ahead : a.after = before ++ s ++ close :: rest) :
    (Place.run chars a.groups (a.index + before.length) previous (s ++ close :: rest)).findSome?
        (fun b => (char close).endAt? (a.keeping name b)) =
      some ⟨a.index + (before ++ s).length + 1, some close, rest, (name, before ++ s) :: a.groups⟩ := by
  induction s generalizing previous before with
  | nil =>
    have between : a.upTo ⟨a.index + before.length, previous, close :: rest, a.groups⟩ = before := by
      rw [Place.upTo, ahead, Nat.add_sub_cancel_left, List.append_nil, List.take_left]
    rw [List.nil_append, Place.run, List.findSome?_cons, Place.keeping, between, List.append_nil]
    simp [char, endAt?, ends, Place.precedes, Place.next?]
  | cons c s ih =>
    obtain ⟨first, others⟩ := List.forall_mem_cons.1 inside
    obtain ⟨other, closes⟩ := List.ne_and_not_mem_of_not_mem_cons closes
    have on := ih others closes (some c) (before ++ [c]) (by simpa using ahead)
    have stays : (char close).endAt?
        (a.keeping name ⟨a.index + before.length, previous, c :: (s ++ close :: rest), a.groups⟩) = none := by
      simp [char, endAt?, ends, Place.keeping, Place.precedes, Ne.symm other]
    rw [List.cons_append, Place.run, List.findSome?_cons, stays, first, if_pos rfl]
    rwa [List.length_append, List.length_singleton, List.append_assoc, List.singleton_append, ← Nat.add_assoc] at on

/-- As few characters as possible between two given ones: all of them, if the closing one is not among them. -/
theorem reads_closed {chars : CharClass} {close : Char} (inside : ∀ c ∈ s, chars c = true) (closes : close ∉ s)
    (opening : Char) (name : String) (rest : List Char) :
    Reads (Pattern.seq (Pattern.seq (char opening) (Pattern.group name (star (one chars) true))) (char close))
      (opening :: (s ++ [close])) rest [(name, s)] := by
  intro index previous groups
  let a : Place := ⟨index + 1, some opening, s ++ close :: rest, groups⟩
  let places := Place.run chars groups (index + 1) (some opening) (s ++ close :: rest)
  have ascending : (places.map (a.keeping name)).Pairwise fun a b => a.index < b.index :=
    List.pairwise_map.2 (ascending_run ..).1
  have opened : (Pattern.seq (char opening) (Pattern.group name (star (one chars) true))).ends
      ⟨index, previous, opening :: (s ++ [close]) ++ rest, groups⟩ = places.map (a.keeping name) := by
    have inner : (Pattern.group name (star (one chars) true)).ends a = places.map (a.keeping name) := rfl
    have next : (char opening).ends ⟨index, previous, opening :: (s ++ [close]) ++ rest, groups⟩ = [a] := by
      simp [char, ends, Place.precedes, Place.next?, a]
    rw [ends, next, List.flatMap_singleton, inner]
    exact firstsBeyond_of_ascending ascending fun _ _ => IndexSet.contains_empty _
  have closed := findSome?_closed inside closes name a (some opening) [] rest rfl
  refine ⟨some close, ?_⟩
  rw [endAt?_seq, opened, List.findSome?_map]
  refine closed.trans ?_
  simp [a]
  omega

end ShaderDiagnostics.Pattern
