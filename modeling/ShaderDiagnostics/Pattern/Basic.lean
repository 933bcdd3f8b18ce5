import ShaderDiagnostics.Unicode.Named
import ShaderDiagnostics.Pattern.IndexSet

/-!
# Patterns

Regular expressions over characters and what they match. A pattern is tried at a place of a text and
answers with the places where it may end, the preferred one first: an alternative is preferred to those
after it, and a repetition prefers more rounds, or fewer when it is lazy. Of two ways to the same end
only the preferred one counts, since whatever follows cannot tell them apart.

A repetition whose body matched without moving stops there: another round could not lead anywhere else.
-/

namespace ShaderDiagnostics

open Unicode

/-- Conditions on a place that take no character. -/
inductive Anchor where
  /-- The start of the text. -/
  | textStart
  /-- The end of the text. -/
  | textEnd
  /-- The start of a line; with `crlf`, a carriage return breaks lines as well. -/
  | lineStart (crlf : Bool)
  /-- The end of a line. -/
  | lineEnd (crlf : Bool)
  /-- Between a character of the class and one that is not, or an end of the text. -/
  | boundary (word : CharClass)
  /-- Anywhere else. -/
  | inner (word : CharClass)
  /-- Before the first character of a word. -/
  | wordStart (word : CharClass)
  /-- After the last character of a word. -/
  | wordEnd (word : CharClass)
  /-- Not after a character of a word. -/
  | freeBefore (word : CharClass)
  /-- Not before a character of a word. -/
  | freeAfter (word : CharClass)

/-- Regular expressions. -/
inductive Pattern where
  /-- The empty text. -/
  | nothing
  /-- One character of a class. -/
  | one (chars : CharClass)
  /-- A condition on the place. -/
  | anchor (a : Anchor)
  /-- One pattern after another. -/
  | seq (p q : Pattern)
  /-- Either pattern, the first preferred. -/
  | alt (p q : Pattern)
  /-- Any number of rounds, as many as possible unless `lazy`. -/
  | star (p : Pattern) (lazy : Bool)
  /-- A pattern whose text is kept under a name. -/
  | group (name : String) (p : Pattern)

namespace Pattern

/-- A place in a text, with what can be seen from there. -/
structure Place where
  /-- The number of characters before the place. -/
  index : Nat
  /-- The character just before it, unless it is the start of the text. -/
  previous : Option Char
  /-- The characters after it. -/
  after : List Char
  /-- The texts of the groups, latest first. -/
  groups : List (String × List Char)

namespace Place

/-- The start of a text. -/
def start (s : List Char) : Place := ⟨0, none, s, []⟩

/-- Whether two places of one text are the same. -/
def same (a b : Place) : Bool := a.index == b.index

/-- The place after the next character. -/
def next? (a : Place) : Option Place :=
  match a.after with
  | [] => none
  | c :: rest => some { a with index := a.index + 1, previous := some c, after := rest }

/-- The text between a place and a later one. -/
def upTo (a b : Place) : List Char := a.after.take (b.index - a.index)

/-- The text of a group, if it took part. -/
def group? (a : Place) (name : String) : Option (List Char) :=
  (a.groups.find? fun g => g.1 == name).map (·.2)

/-- Whether the character before the place is in the class. -/
def follows (a : Place) (chars : CharClass) : Bool := a.previous.any chars

/-- Whether the character after the place is in the class. -/
def precedes (a : Place) (chars : CharClass) : Bool := a.after.head?.any chars

/-- Whether the condition holds at the place. -/
def meets (a : Place) : Anchor → Bool
  | .textStart => a.previous.isNone
  | .textEnd => a.after.isEmpty
  | .lineStart crlf =>
    match a.previous with
    | none => true
    | some '\n' => true
    | some '\r' => crlf && !a.precedes (· == '\n')
    | _ => false
  | .lineEnd crlf =>
    match a.after with
    | [] => true
    | '\r' :: _ => crlf
    | '\n' :: _ => !(crlf && a.follows (· == '\r'))
    | _ => false
  | .boundary w => a.follows w != a.precedes w
  | .inner w => a.follows w == a.precedes w
  | .wordStart w => !a.follows w && a.precedes w
  | .wordEnd w => a.follows w && !a.precedes w
  | .freeBefore w => !a.follows w
  | .freeAfter w => !a.precedes w

/-- The places reached by passing characters of the class one by one, the nearest first. -/
def run (chars : CharClass) (groups : List (String × List Char)) :
    Nat → Option Char → List Char → List Place
  | index, previous, [] => [⟨index, previous, [], groups⟩]
  | index, previous, c :: rest =>
    ⟨index, previous, c :: rest, groups⟩ ::
      (if chars c then run chars groups (index + 1) (some c) rest else [])

/-- The places outside a set, each once: later ways to the same place are dropped. -/
def firstsBeyond (passed : IndexSet) : List Place → List Place
  | [] => []
  | a :: rest =>
    if passed.contains a.index then firstsBeyond passed rest
    else a :: firstsBeyond (passed.insert a.index) rest

/-- The places, each once, in the order in which they are first reached. -/
def firsts (places : List Place) : List Place := firstsBeyond .empty places

end Place

/-- What an exploration has found so far. -/
structure Trail where
  /-- The places explored. -/
  seen : IndexSet
  /-- The places found to be ends. -/
  known : IndexSet
  /-- The ends found, latest first. -/
  found : List Place

namespace Trail

/-- The exploration before its first step. -/
def empty : Trail := ⟨.empty, .empty, []⟩

/-- Records an end, unless it is known. -/
def add (t : Trail) (a : Place) : Trail :=
  if t.known.contains a.index then t
  else { t with known := t.known.insert a.index, found := a :: t.found }

/-- Remembers that a place is explored. -/
def visit (t : Trail) (a : Place) : Trail := { t with seen := t.seen.insert a.index }

end Trail

/-- Explores the rounds of a repetition: before any further round when it is lazy, after them
otherwise, the place itself is an end. A round that does not move ends the repetition. -/
def explore (step : Place → List Place) (lazy : Bool) : Nat → Place → Trail → Trail
  | 0, a, t => t.add a
  | n + 1, a, t =>
    if t.seen.contains a.index then t
    else
      let t := t.visit a
      let t := if lazy then t.add a else t
      let t := (step a).foldl (fun t b => if a.same b then t.add b else explore step lazy n b t) t
      t.add a

/-- The places where the pattern may end when it starts at the given place, the preferred first. -/
def ends : Pattern → Place → List Place
  | .nothing, a => [a]
  | .one chars, a => if a.precedes chars then a.next?.toList else []
  | .anchor cond, a => if a.meets cond then [a] else []
  | .seq p q, a => Place.firsts ((p.ends a).flatMap q.ends)
  | .alt p q, a => Place.firsts (p.ends a ++ q.ends a)
  | .star (.one chars) lazy, a =>
    let places := Place.run chars a.groups a.index a.previous a.after
    if lazy then places else places.reverse
  | .star p lazy, a => (explore p.ends lazy a.after.length a .empty).found.reverse
  | .group name p, a =>
    (p.ends a).map fun b => { b with groups := (name, a.upTo b) :: b.groups }

/-- The preferred end of the pattern when it starts at the given place. -/
def endAt? (p : Pattern) (a : Place) : Option Place := (p.ends a).head?

/-! ### Composite patterns -/

/-- The patterns one after another. The first two are joined first, so that the ends reached so far are
told apart before the next pattern starts from them. -/
def sequence : List Pattern → Pattern
  | [] => .nothing
  | p :: rest => rest.foldl .seq p

/-- One or more rounds. -/
def plus (p : Pattern) (lazy : Bool) : Pattern := .seq p (.star p lazy)

/-- The pattern or nothing. -/
def opt (p : Pattern) (lazy : Bool) : Pattern :=
  if lazy then .alt .nothing p else .alt p .nothing

/-- Exactly `n` rounds. -/
def times : Nat → Pattern → Pattern
  | 0, _ => .nothing
  | 1, p => p
  | n + 1, p => .seq (times n p) p

/-- At most `n` rounds. -/
def atMost (lazy : Bool) : Nat → Pattern → Pattern
  | 0, _ => .nothing
  | n + 1, p => opt (.seq p (atMost lazy n p)) lazy

/-- One given character. -/
def char (c : Char) : Pattern := .one (· == c)

/-- The characters of a text, one after another. -/
def literal (s : List Char) : Pattern := sequence (s.map char)

end Pattern

end ShaderDiagnostics
