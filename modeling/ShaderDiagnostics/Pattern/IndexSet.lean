/-!
# Sets of indices

A set of places in a text, kept as the bits of one number: matching asks and extends it at every step,
and a text has few enough places for its bits to be cheap.
-/

namespace ShaderDiagnostics.Pattern

/-- A finite set of indices. -/
structure IndexSet where
  /-- The number whose bit `i` says whether `i` is in the set. -/
  bits : Nat

namespace IndexSet

/-- The set without indices. -/
def empty : IndexSet := ⟨0⟩

/-- Whether an index is in the set. -/
def contains (s : IndexSet) (i : Nat) : Bool := s.bits.testBit i

/-- The set with one more index. -/
def insert (s : IndexSet) (i : Nat) : IndexSet := ⟨s.bits ||| 1 <<< i⟩

@[simp] theorem contains_empty (i : Nat) : empty.contains i = false := by
  simp [empty, contains]

@[simp] theorem contains_insert (s : IndexSet) (i j : Nat) :
    (s.insert i).contains j = (decide (i = j) || s.contains j) := by
  simp only [insert, contains, Nat.testBit_or, Nat.one_shiftLeft, Nat.testBit_two_pow]
  exact Bool.or_comm ..

end IndexSet

end ShaderDiagnostics.Pattern
