import ShaderDiagnostics.Text.Utf8

/-!
# Paths

File system paths are bytes. Two spellings name the same file for us when their components agree:
repeated slashes, a slash at the end and dots between slashes do not count, but a leading dot of a
relative path and parents do.
-/

namespace ShaderDiagnostics

/-- A file system path. -/
structure Path where
  /-- The bytes as spelled. -/
  bytes : List UInt8
  deriving DecidableEq, Repr

namespace Path

/-- The slash between components. -/
def slash : UInt8 := 47

/-- The dot. -/
def dot : UInt8 := 46

/-- A part of a path. -/
inductive Component where
  /-- The root of an absolute path. -/
  | root
  /-- The current directory, at the start of a relative path. -/
  | current
  /-- The parent directory. -/
  | parent
  /-- A name. -/
  | name (bytes : List UInt8)
  deriving DecidableEq, Repr

/-- The path spelled by a string. -/
def ofString (s : String) : Path := ⟨Text.bytesOf s⟩

/-- The path for display, with replacement characters for what is not UTF-8. -/
def text (p : Path) : String := String.ofList (Text.decodeLossy p.bytes)

/-- Whether the path starts at the root. -/
def isAbsolute (p : Path) : Bool := p.bytes.head? == some slash

/-- Splits bytes at every slash. -/
def split : List UInt8 → List (List UInt8)
  | [] => [[]]
  | b :: rest =>
    if b == slash then [] :: split rest
    else
      match split rest with
      | [] => [[b]]
      | part :: parts => (b :: part) :: parts

/-- The component that a part between slashes stands for, if any; `leading` says that it starts a
relative path. -/
def component? (leading : Bool) (part : List UInt8) : Option Component :=
  if part = [] then none
  else if part = [dot] then (if leading then some .current else none)
  else if part = [dot, dot] then some .parent
  else some (.name part)

/-- The components of a path. -/
def components (p : Path) : List Component :=
  match split p.bytes with
  | [] => []
  | first :: rest =>
    (if p.isAbsolute then [.root] else (component? true first).toList) ++
      rest.filterMap (component? false)

/-- Whether two spellings have the same components. -/
def same (p q : Path) : Bool := p.components == q.components

@[simp] theorem same_refl (p : Path) : p.same p = true := by simp [same]

theorem same_iff {p q : Path} : p.same q = true ↔ p.components = q.components := by simp [same]

theorem same_comm (p q : Path) : p.same q = q.same p := by
  rw [Bool.eq_iff_iff, same_iff, same_iff]
  exact eq_comm

end Path

end ShaderDiagnostics
