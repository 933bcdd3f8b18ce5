import Mathlib.Data.List.Nodup
import Mathlib.Data.String.Basic
import ShaderDiagnostics.Json.Value

/-!
# Members of objects

An object is made by putting one member after another among those that are there, so that their keys are distinct and
in ascending order (`Json.exists_object`). Members that come in this order stay as they are
(`Json.object_of_ascending`).

A part of an object has some of its members, perhaps with others that the object does not have (`Json.Part`). How deep
one may take parts of members again is told by a number.
-/

namespace ShaderDiagnostics.Json

/-! ### Looking up members -/

theorem get?_nil (key : String) : get? (.obj []) key = none := rfl

theorem get?_cons (k key : String) (v : Json) (rest : List (String × Json)) :
    get? (.obj ((k, v) :: rest)) key = if k = key then some v else get? (.obj rest) key := by
  by_cases h : k = key <;> simp [get?, h]

/-- A member that has been put among others is found, wherever it has got in their order. -/
theorem get?_insert (k key : String) (v : Json) (members : List (String × Json)) :
    get? (.obj (insert k v members)) key = if k = key then some v else get? (.obj members) key := by
  induction members with
  | nil => rw [insert, get?_cons]
  | cons m rest ih =>
    obtain ⟨k', v'⟩ := m
    rw [insert]
    split
    · rw [get?_cons]
    · split
      next same =>
        obtain rfl := eq_of_beq same
        rw [get?_cons, get?_cons]
        split <;> rfl
      next other =>
        rw [get?_cons, ih, get?_cons]
        split
        next found =>
          rw [if_neg]
          rintro rfl
          exact other (beq_iff_eq.2 found.symm)
        · rfl

variable {members : List (String × Json)} {key : String} {v : Json}

theorem mem_of_get? (h : get? (.obj members) key = some v) : (key, v) ∈ members := by
  obtain ⟨m, found, rfl⟩ := Option.map_eq_some_iff.1 h
  have named : (m.1 == key) = true := by simpa using List.find?_some found
  obtain rfl : m.1 = key := eq_of_beq named
  exact List.mem_of_find?_eq_some found

/-- Where keys are distinct, every member is found. -/
theorem get?_of_mem (distinct : (members.map (·.1)).Nodup) (h : (key, v) ∈ members) :
    get? (.obj members) key = some v := by
  have there : (get? (.obj members) key).isSome := by
    rw [get?, Option.isSome_map, List.find?_isSome]
    exact ⟨_, h, beq_self_eq_true key⟩
  obtain ⟨w, found⟩ := Option.isSome_iff_exists.1 there
  have same : (key, w) = (key, v) := List.inj_on_of_nodup_map distinct (mem_of_get? found) h rfl
  rw [found, (Prod.mk.inj same).2]

theorem isSome_get? (members : List (String × Json)) (key : String) :
    (get? (.obj members) key).isSome = members.any fun m => m.1 == key := by
  rw [get?, Option.isSome_map, List.isSome_find?]

/-! ### Order -/

/-- The keys are distinct and in ascending order. -/
def Ascending {α : Type} (members : List (String × α)) : Prop := members.Pairwise fun a b => a.1 < b.1

theorem Ascending.nodup {α : Type} {members : List (String × α)} (h : Ascending members) :
    (members.map (·.1)).Nodup :=
  List.pairwise_map.2 (h.imp ne_of_lt)

theorem mem_insert {m : String × Json} (h : m ∈ insert key v members) : m = (key, v) ∨ m ∈ members := by
  induction members with
  | nil => exact .inl (List.mem_singleton.1 h)
  | cons first rest ih =>
    rw [insert] at h
    split at h
    · exact List.mem_cons.1 h
    · split at h
      · exact (List.mem_cons.1 h).imp id (List.mem_cons_of_mem _)
      · rcases List.mem_cons.1 h with rfl | later
        · exact .inr List.mem_cons_self
        · exact (ih later).imp id (List.mem_cons_of_mem _)

theorem Ascending.insert (h : Ascending members) (key : String) (v : Json) : Ascending (insert key v members) := by
  induction members with
  | nil => exact List.pairwise_singleton _ _
  | cons first rest ih =>
    obtain ⟨before, later⟩ := List.pairwise_cons.1 h
    rw [Json.insert]
    split
    next less =>
      refine List.pairwise_cons.2 ⟨fun m hm => ?_, h⟩
      rcases List.mem_cons.1 hm with rfl | hm
      · exact less
      · exact lt_trans less (before m hm)
    · split
      next same =>
        obtain rfl : key = first.1 := eq_of_beq same
        exact List.pairwise_cons.2 ⟨before, later⟩
      next notLess other =>
        refine List.pairwise_cons.2 ⟨fun m hm => ?_, ih later⟩
        rcases mem_insert hm with rfl | hm
        · exact lt_of_le_of_ne (not_lt.1 notLess) fun same => other (beq_iff_eq.2 same.symm)
        · exact before m hm

/-- An object has its members in ascending order, and no others than those that it is made of. -/
theorem exists_object (given : List (String × Json)) :
    ∃ members, object given = .obj members ∧ Ascending members ∧ ∀ m ∈ members, m ∈ given := by
  have puts : ∀ (given members : List (String × Json)), Ascending members →
      Ascending (given.foldl (fun ms m => insert m.1 m.2 ms) members) ∧
        ∀ m ∈ given.foldl (fun ms m => insert m.1 m.2 ms) members, m ∈ members ∨ m ∈ given := by
    intro given
    induction given with
    | nil => exact fun members ascending => ⟨ascending, fun m hm => .inl hm⟩
    | cons first rest ih =>
      intro members ascending
      obtain ⟨order, among⟩ := ih _ (ascending.insert first.1 first.2)
      refine ⟨order, fun m hm => ?_⟩
      rcases among m hm with put | later
      · exact (mem_insert put).elim (fun same => .inr (same ▸ List.mem_cons_self)) .inl
      · exact .inr (List.mem_cons_of_mem _ later)
  obtain ⟨order, among⟩ := puts given [] List.Pairwise.nil
  exact ⟨_, rfl, order, fun m hm => (among m hm).resolve_left List.not_mem_nil⟩

theorem insert_last (last : ∀ m ∈ members, m.1 < key) : insert key v members = members ++ [(key, v)] := by
  induction members with
  | nil => rfl
  | cons first rest ih =>
    obtain ⟨less, later⟩ := List.forall_mem_cons.1 last
    rw [insert, if_neg (lt_asymm less), if_neg fun same => ne_of_gt less (eq_of_beq same), ih later]
    rfl

theorem object_of_ascending (h : Ascending members) : object members = .obj members := by
  have puts : ∀ before : List (String × Json), Ascending (before ++ members) →
      members.foldl (fun ms m => insert m.1 m.2 ms) before = before ++ members := by
    clear h
    induction members with
    | nil => exact fun before _ => (List.append_nil before).symm
    | cons m rest ih =>
      intro before ascending
      have last : ∀ k ∈ before, k.1 < m.1 := fun k hk =>
        (List.pairwise_append.1 ascending).2.2 k hk m List.mem_cons_self
      have next : before ++ m :: rest = (before ++ [(m.1, m.2)]) ++ rest := by simp
      rw [List.foldl_cons, insert_last last, next]
      exact ih _ (next ▸ ascending)
  exact congrArg Json.obj (puts [] h)

/-! ### Parts -/

/-- The second value is a part of the first one, down to a depth: of objects, only some of the members are there, and
they are parts down to one less, in any order, and among any others. -/
inductive Part : Nat → Json → Json → Prop where
  /-- The value itself. -/
  | whole (j : Json) : Part 0 j j
  /-- An object. -/
  | members {depth : Nat} {all some : List (String × Json)} (distinct : (some.map (·.1)).Nodup)
      (parts : ∀ m ∈ some, ∀ w, get? (.obj all) m.1 = .some w → Part depth w m.2) :
      Part (depth + 1) (.obj all) (.obj some)

theorem part_zero_iff {whole j : Json} : Part 0 whole j ↔ j = whole := by
  constructor
  · rintro ⟨⟩
    rfl
  · rintro rfl
    exact .whole j

theorem Part.exists_members {depth : Nat} {whole j : Json} (h : Part (depth + 1) whole j) :
    ∃ members, j = .obj members ∧ (members.map (·.1)).Nodup ∧
      ∀ m ∈ members, ∀ w, whole.get? m.1 = some w → Part depth w m.2 := by
  cases h with
  | members distinct parts => exact ⟨_, rfl, distinct, parts⟩

/-- An object is a part of itself if its members are. -/
theorem part_object {depth : Nat} {given : List (String × Json)} (h : ∀ m ∈ given, Part depth m.2 m.2) :
    Part (depth + 1) (object given) (object given) := by
  obtain ⟨members, same, ascending, among⟩ := exists_object given
  rw [same]
  refine .members ascending.nodup fun m mem w found => ?_
  obtain rfl : m.2 = w := Option.some.inj ((get?_of_mem ascending.nodup mem).symm.trans found)
  exact h m (among m mem)

end ShaderDiagnostics.Json
