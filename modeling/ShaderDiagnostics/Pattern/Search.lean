import ShaderDiagnostics.Pattern.Basic

/-!
# Searching with patterns

A search takes the leftmost place where the pattern matches and its preferred end there. Successive
matches do not overlap, and an empty match directly behind the match before it does not count.
-/

namespace ShaderDiagnostics.Pattern

/-- A stretch of a text, in characters. -/
structure Span where
  /-- The number of characters before the stretch. -/
  start : Nat
  /-- The number of characters up to its end. -/
  stop : Nat
  deriving DecidableEq, Repr

/-- The leftmost match in what follows a place, whose index and character before are given. -/
def search (p : Pattern) : Nat → Option Char → List Char → Option (Place × Place)
  | index, previous, [] =>
    let a : Place := ⟨index, previous, [], []⟩
    (p.endAt? a).map fun b => (a, b)
  | index, previous, c :: rest =>
    let a : Place := ⟨index, previous, c :: rest, []⟩
    match p.endAt? a with
    | some b => some (a, b)
    | none => search p (index + 1) (some c) rest

/-- The matches from a place on, at most `fuel` of them and skipped places; `closed` says that a match
has just ended here, so that an empty one does not count. -/
def matchesFrom (p : Pattern) : Nat → Bool → Place → List Span
  | 0, _, _ => []
  | n + 1, closed, here =>
    match search p here.index here.previous here.after with
    | none => []
    | some (a, b) =>
      if closed && a.same b && a.same here then
        match here.next? with
        | none => []
        | some next => matchesFrom p n false next
      else ⟨a.index, b.index⟩ :: matchesFrom p n true b

/-- All matches of the pattern in a text. A match is empty or moves on, and an empty one is followed by
one step, so twice the length is enough. -/
def matches_ (p : Pattern) (s : List Char) : List Span :=
  matchesFrom p (2 * s.length + 2) false (Place.start s)

/-- Puts `f` of its text in place of every stretch; `offset` characters have been passed. -/
def substitute (f : List Char → List Char) : Nat → List Char → List Span → List Char
  | _, s, [] => s
  | offset, s, m :: rest =>
    s.take (m.start - offset) ++ f ((s.drop (m.start - offset)).take (m.stop - m.start)) ++
      substitute f m.stop (s.drop (m.stop - offset)) rest

/-- Puts `f` of its text in place of every match. -/
def replaceAll (p : Pattern) (f : List Char → List Char) (s : List Char) : List Char :=
  substitute f 0 s (p.matches_ s)

/-- The groups of a match at the very start of a text. -/
def captures? (p : Pattern) (s : List Char) : Option Place := p.endAt? (Place.start s)

end ShaderDiagnostics.Pattern
