import ShaderDiagnostics.Proofs.Pattern.Extents

/-!
# Where matches lie

Whatever a pattern is made of, every end that it has lies ahead of the place where it is tried, in what the text still
holds (`Pattern.onward_of_mem_ends`). So a match ends no sooner than it starts and no later than the text does
(`Pattern.mem_matches`).
-/

namespace ShaderDiagnostics.Pattern

open Unicode

/-- One place is some characters further on than another, or the same. -/
def Place.Onward (a b : Place) : Prop := ∃ n, a.Ahead n b

namespace Place

variable {a b c : Place}

theorem Onward.refl (a : Place) : a.Onward a := ⟨0, .refl a⟩

theorem Onward.trans (h : a.Onward b) (h' : b.Onward c) : a.Onward c := by
  obtain ⟨m, hm⟩ := h
  obtain ⟨n, hn⟩ := h'
  exact ⟨m + n, hm.trans hn⟩

theorem Onward.index_le (h : a.Onward b) : a.index ≤ b.index := by
  obtain ⟨n, ahead⟩ := h
  rw [ahead.index]
  exact Nat.le_add_right _ _

/-- Both places have the same end of the text before them. -/
theorem Onward.total (h : a.Onward b) : b.index + b.after.length = a.index + a.after.length := by
  obtain ⟨n, ahead⟩ := h
  have within := ahead.within
  rw [ahead.index, ahead.after, List.length_drop]
  omega

/-- The groups kept and the character before do not matter. -/
theorem Onward.congr {a' b' : Place} (h : a.Onward b) (index : a.index = a'.index) (after : a.after = a'.after)
    (index' : b.index = b'.index) (after' : b.after = b'.after) : a'.Onward b' := by
  obtain ⟨n, ahead⟩ := h
  exact ⟨n, by rw [← index, ← index', ahead.index], by rw [← after, ← after', ahead.after], after ▸ ahead.within⟩

theorem onward_next? (h : a.next? = some b) : a.Onward b := by
  obtain ⟨index, previous, s, groups⟩ := a
  cases s with
  | nil => cases h
  | cons c rest =>
    obtain rfl := Option.some.inj h
    exact ⟨1, rfl, rfl, Nat.le_add_left _ _⟩

theorem onward_run {chars : CharClass} {groups : List (String × List Char)} {index : Nat} {previous : Option Char}
    {s : List Char} (mem : b ∈ run chars groups index previous s) : Onward ⟨index, previous, s, groups⟩ b := by
  induction s generalizing index previous with
  | nil =>
    obtain rfl := List.mem_singleton.1 mem
    exact .refl _
  | cons c rest ih =>
    rcases List.mem_cons.1 mem with rfl | mem
    · exact .refl _
    · have one : Onward ⟨index, previous, c :: rest, groups⟩ ⟨index + 1, some c, rest, groups⟩ :=
        onward_next? rfl
      split at mem
      · exact one.trans (ih mem)
      · cases mem

theorem mem_of_mem_firstsBeyond {passed : IndexSet} {places : List Place} (mem : b ∈ firstsBeyond passed places) :
    b ∈ places := by
  induction places generalizing passed with
  | nil => cases mem
  | cons a rest ih =>
    rw [firstsBeyond] at mem
    split at mem
    · exact List.mem_cons_of_mem a (ih mem)
    · rcases List.mem_cons.1 mem with rfl | mem
      · exact List.mem_cons_self
      · exact List.mem_cons_of_mem a (ih mem)

theorem mem_of_mem_firsts {places : List Place} (mem : b ∈ firsts places) : b ∈ places := mem_of_mem_firstsBeyond mem

end Place

/-! ### Repetitions -/

/-- What holds of all ends found so far and of the new one holds of all. -/
theorem Trail.forall_add {P : Place → Prop} {t : Trail} {a : Place} (holds : P a) (ht : ∀ c ∈ t.found, P c) :
    ∀ c ∈ (t.add a).found, P c := by
  unfold add
  split
  · exact ht
  · exact List.forall_mem_cons.2 ⟨holds, ht⟩

section

variable {step : Place → List Place} {lazy : Bool} {P : Place → Prop}

theorem forall_fold {n : Nat} {a : Place}
    (keeps : ∀ t c, P c → (∀ d ∈ t.found, P d) → ∀ d ∈ (explore step lazy n c t).found, P d)
    (places : List Place) (holds : ∀ c ∈ places, P c) {t : Trail} (ht : ∀ d ∈ t.found, P d) :
    ∀ d ∈ (places.foldl (advance step lazy n a) t).found, P d := by
  induction places generalizing t with
  | nil => exact ht
  | cons c rest ih =>
    obtain ⟨first, others⟩ := List.forall_mem_cons.1 holds
    refine ih others ?_
    unfold advance
    split
    · exact Trail.forall_add first ht
    · exact keeps t c first ht

/-- What every round keeps holds of all ends of a repetition. -/
theorem forall_explore (keeps : ∀ a, P a → ∀ b ∈ step a, P b) (n : Nat) {a : Place} {t : Trail} (holds : P a)
    (ht : ∀ c ∈ t.found, P c) : ∀ c ∈ (explore step lazy n a t).found, P c := by
  induction n generalizing a t with
  | zero => exact Trail.forall_add holds ht
  | succ n ih =>
    rw [explore]
    split
    · exact ht
    · refine Trail.forall_add holds (forall_fold (fun t c hc ht => ih hc ht) _ (keeps a holds) ?_)
      split
      · exact Trail.forall_add holds ht
      · exact ht

end

/-! ### Patterns -/

/-- Every end of a pattern lies ahead of the place where it is tried, in what is left of the text. -/
theorem onward_of_mem_ends {p : Pattern} {a b : Place} (mem : b ∈ p.ends a) : a.Onward b := by
  induction p generalizing a b with
  | nothing =>
    obtain rfl := List.mem_singleton.1 mem
    exact .refl _
  | one chars =>
    rw [ends] at mem
    split at mem
    · exact Place.onward_next? (Option.mem_toList.1 mem)
    · cases mem
  | anchor cond =>
    rw [ends] at mem
    split at mem
    · obtain rfl := List.mem_singleton.1 mem
      exact .refl _
    · cases mem
  | seq p q ihp ihq =>
    rw [ends] at mem
    obtain ⟨middle, first, second⟩ := List.mem_flatMap.1 (Place.mem_of_mem_firsts mem)
    exact (ihp first).trans (ihq second)
  | alt p q ihp ihq =>
    rw [ends] at mem
    rcases List.mem_append.1 (Place.mem_of_mem_firsts mem) with first | second
    · exact ihp first
    · exact ihq second
  | star p lazy ih =>
    have rounds (n : Nat) : ∀ c ∈ (explore p.ends lazy n a .empty).found, a.Onward c :=
      forall_explore (fun _ reached _ round => reached.trans (ih round)) n (.refl a) (List.forall_mem_nil _)
    cases p with
    | one chars =>
      rw [ends] at mem
      have inRun : b ∈ Place.run chars a.groups a.index a.previous a.after := by
        split at mem
        · exact mem
        · exact List.mem_reverse.1 mem
      exact Place.onward_run inRun
    | _ => exact rounds _ b (List.mem_reverse.1 mem)
  | group name p ih =>
    rw [ends] at mem
    obtain ⟨c, reached, rfl⟩ := List.mem_map.1 mem
    exact (ih reached).congr rfl rfl rfl rfl

/-! ### Matches -/

theorem onward_of_search {p : Pattern} {index : Nat} {previous : Option Char} {s : List Char} {a b : Place}
    (found : search p index previous s = some (a, b)) : Place.Onward ⟨index, previous, s, []⟩ a ∧ a.Onward b := by
  have tried : ∀ {here}, p.endAt? here = some b → here.Onward b := fun h =>
    onward_of_mem_ends (List.mem_of_head? h)
  induction s generalizing index previous with
  | nil =>
    obtain ⟨c, ends, same⟩ := Option.map_eq_some_iff.1 found
    obtain ⟨rfl, rfl⟩ := Prod.mk.inj same
    exact ⟨.refl _, tried ends⟩
  | cons c rest ih =>
    rw [search] at found
    split at found
    next d ends =>
      obtain ⟨rfl, rfl⟩ := Prod.mk.inj (Option.some.inj found)
      exact ⟨.refl _, tried ends⟩
    next =>
      obtain ⟨reached, ends⟩ := ih found
      have one : Place.Onward ⟨index, previous, c :: rest, []⟩ ⟨index + 1, some c, rest, []⟩ := Place.onward_next? rfl
      exact ⟨one.trans reached, ends⟩

theorem mem_matchesFrom {p : Pattern} {fuel : Nat} {closed : Bool} {here : Place} {m : Span}
    (mem : m ∈ matchesFrom p fuel closed here) : ∃ a b, here.Onward a ∧ a.Onward b ∧ m = ⟨a.index, b.index⟩ := by
  induction fuel generalizing closed here with
  | zero => cases mem
  | succ fuel ih =>
    rw [matchesFrom] at mem
    split at mem
    next => cases mem
    next a b found =>
      obtain ⟨reached, ends⟩ := onward_of_search found
      have reached : here.Onward a := reached.congr rfl rfl rfl rfl
      split at mem
      next =>
        split at mem
        next => cases mem
        next next step =>
          obtain ⟨c, d, further, ends, same⟩ := ih mem
          exact ⟨c, d, (Place.onward_next? step).trans further, ends, same⟩
      next =>
        rcases List.mem_cons.1 mem with rfl | mem
        · exact ⟨a, b, reached, ends, rfl⟩
        · obtain ⟨c, d, further, ends', same⟩ := ih mem
          exact ⟨c, d, (reached.trans ends).trans further, ends', same⟩

/-- A match ends no sooner than it starts, and no later than the text does. -/
theorem mem_matches {p : Pattern} {s : List Char} {m : Span} (mem : m ∈ p.matches_ s) :
    m.start ≤ m.stop ∧ m.stop ≤ s.length := by
  obtain ⟨a, b, reached, ends, rfl⟩ := mem_matchesFrom mem
  have total := (reached.trans ends).total
  have start : (Place.start s).index + (Place.start s).after.length = s.length := Nat.zero_add _
  refine ⟨ends.index_le, ?_⟩
  show b.index ≤ s.length
  omega

end ShaderDiagnostics.Pattern
