import ShaderDiagnostics.Number.Shortest

/-!
# JSON values

Integers between `-2^63` and `2^64` are kept exactly; all other numbers are floating point numbers, whole
ones included. The members of an object have distinct keys in ascending order.
-/

namespace ShaderDiagnostics

open Number

/-- JSON values. -/
inductive Json where
  /-- The value `null`. -/
  | null
  /-- A truth value. -/
  | bool (b : Bool)
  /-- An integer. -/
  | int (n : Int)
  /-- Any other number. -/
  | float (x : Binary64)
  /-- A text. -/
  | str (s : String)
  /-- A list of values. -/
  | arr (items : List Json)
  /-- Values by keys. -/
  | obj (members : List (String × Json))
  deriving Repr, Inhabited

namespace Json

mutual

/-- Whether two values are equal. -/
def beq : Json → Json → Bool
  | .null, .null => true
  | .bool a, .bool b => a == b
  | .int a, .int b => a == b
  | .float a, .float b => a == b
  | .str a, .str b => a == b
  | .arr a, .arr b => beqItems a b
  | .obj a, .obj b => beqMembers a b
  | _, _ => false

/-- Whether two lists of values are equal. -/
def beqItems : List Json → List Json → Bool
  | [], [] => true
  | a :: as, b :: bs => beq a b && beqItems as bs
  | _, _ => false

/-- Whether two lists of members are equal. -/
def beqMembers : List (String × Json) → List (String × Json) → Bool
  | [], [] => true
  | (k, a) :: as, (l, b) :: bs => k == l && beq a b && beqMembers as bs
  | _, _ => false

end

instance : BEq Json := ⟨beq⟩

/-- Puts a member among others, in order; it replaces one with the same key. -/
def insert (key : String) (value : Json) : List (String × Json) → List (String × Json)
  | [] => [(key, value)]
  | (k, v) :: rest =>
    if key < k then (key, value) :: (k, v) :: rest
    else if key == k then (key, value) :: rest
    else (k, v) :: insert key value rest

/-- An object with the given members; of two with one key the later counts. -/
def object (members : List (String × Json)) : Json :=
  .obj (members.foldl (fun ms m => insert m.1 m.2 ms) [])

/-- The value of a key, if this is an object that has it. -/
def get? (j : Json) (key : String) : Option Json :=
  match j with
  | .obj members => (members.find? fun m => m.1 == key).map (·.2)
  | _ => none

/-- The value of a key, or `null`. -/
def get (j : Json) (key : String) : Json := (j.get? key).getD .null

/-- The value behind a sequence of keys, if all are there. -/
def path? (j : Json) : List String → Option Json
  | [] => some j
  | key :: rest => (j.get? key).bind fun v => v.path? rest

/-- A value that may be missing, as `null` in that case. -/
def orNull (j : Option Json) : Json := j.getD .null

/-- A number as JSON. -/
def nat (n : Nat) : Json := .int n

/-- Members of which some may be missing. -/
def present (members : List (String × Option Json)) : Json :=
  object (members.filterMap fun m => m.2.map fun v => (m.1, v))

end Json

end ShaderDiagnostics
