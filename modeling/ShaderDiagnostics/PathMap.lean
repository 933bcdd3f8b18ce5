import ShaderDiagnostics.Path

/-!
# Tables by path

Values kept under paths, where two spellings of a path with the same components are one key. The spelling
under which a value was first put stays.
-/

namespace ShaderDiagnostics

/-- Values by paths, in the order in which the paths came in. -/
structure PathMap (α : Type) where
  /-- The entries. -/
  entries : List (Path × α)

namespace PathMap

variable {α : Type}

/-- The empty table. -/
def empty : PathMap α := ⟨[]⟩

/-- The value under a path. -/
def get? (m : PathMap α) (p : Path) : Option α :=
  (m.entries.find? fun e => e.1.same p).map (·.2)

/-- Whether there is a value under the path. -/
def has (m : PathMap α) (p : Path) : Bool := (m.get? p).isSome

/-- Puts a value among entries. -/
def put (p : Path) (a : α) : List (Path × α) → List (Path × α)
  | [] => [(p, a)]
  | e :: rest => if e.1.same p then (e.1, a) :: rest else e :: put p a rest

/-- The table with a value put under a path. -/
def insert (m : PathMap α) (p : Path) (a : α) : PathMap α := ⟨put p a m.entries⟩

/-- The table without the value under a path. -/
def erase (m : PathMap α) (p : Path) : PathMap α := ⟨m.entries.filter fun e => !e.1.same p⟩

/-- The values. -/
def values (m : PathMap α) : List α := m.entries.map (·.2)

/-- The number of values. -/
def size (m : PathMap α) : Nat := m.entries.length

theorem same_congr {p q : Path} (h : p.same q = true) (r : Path) : p.same r = q.same r := by
  rw [Path.same_iff] at h
  simp [Path.same, h]

theorem not_same {p q r : Path} (hp : p.same r = true) (hq : ¬ q.same r = true) :
    p.same q = false := by
  rw [Bool.eq_false_iff]
  intro h
  exact hq (by rw [← same_congr h, hp])

theorem find?_put (p q : Path) (a : α) (es : List (Path × α)) :
    ((put p a es).find? fun e => e.1.same q).map (·.2) =
      if p.same q then some a else (es.find? fun e => e.1.same q).map (·.2) := by
  induction es with
  | nil => by_cases h : p.same q <;> simp [put, h]
  | cons e rest ih =>
    simp only [put]
    by_cases hep : e.1.same p
    · rw [if_pos hep, List.find?_cons, List.find?_cons, same_congr hep]
      by_cases hq : p.same q <;> simp [hq]
    · rw [if_neg hep, List.find?_cons, List.find?_cons]
      by_cases hq : e.1.same q
      · have hpq : p.same q = false := by
          rw [Bool.eq_false_iff]
          intro h
          rw [Path.same_comm] at h
          exact hep (by rw [same_congr hq, h])
        simp [hq, hpq]
      · simpa [hq] using ih

/-- What is put under a path is found there, under any spelling, and everything else stays. -/
theorem get?_insert (m : PathMap α) (p q : Path) (a : α) :
    (m.insert p a).get? q = if p.same q then some a else m.get? q := find?_put p q a m.entries

/-- What is erased is gone, and everything else stays. -/
theorem get?_erase (m : PathMap α) (p q : Path) :
    (m.erase p).get? q = if p.same q then none else m.get? q := by
  unfold get? erase
  rw [List.find?_filter]
  by_cases h : p.same q
  · have gone : (m.entries.find? fun e => !e.1.same p && e.1.same q) = none := by
      rw [List.find?_eq_none]
      intro e _ he
      simp only [Bool.and_eq_true, Bool.not_eq_true'] at he
      rw [Path.same_comm] at h
      rw [same_congr he.2, h] at he
      exact absurd he.1 (by decide)
    simp [h, gone]
  · have same : (fun e : Path × α => !e.1.same p && e.1.same q) = fun e => e.1.same q := by
      funext e
      by_cases he : e.1.same q
      · simp [he, not_same he h]
      · simp [he]
    simp [h, same]

end PathMap

end ShaderDiagnostics
