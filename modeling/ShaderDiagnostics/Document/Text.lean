import ShaderDiagnostics.Diagnostic
import ShaderDiagnostics.Text.Utf16

/-!
# Text of a document

The text that an editor works on, and its edits. A line ends with its line break: a carriage return with
the line feed after it, either of them alone, or one of the other characters that Unicode calls line
breaks. An edit replaces the text between two places. A place behind the last line is the end of the
text, a column behind the end of a line is the end of that line with its break, and a column inside of a
character is the start of that character.
-/

namespace ShaderDiagnostics.Document

open Text (width units charsWithin)

/-- The characters that break a line. -/
def isBreak (c : Char) : Bool :=
  let n := c.toNat
  (10 ≤ n && n ≤ 13) || n == 0x85 || n == 0x2028 || n == 0x2029

/-- Puts a character in front of the first line. -/
def consLine (c : Char) : List (List Char) → List (List Char)
  | [] => [[c]]
  | line :: rest => (c :: line) :: rest

/-- The lines of a text with their breaks; the last one has none. -/
def lines : List Char → List (List Char)
  | [] => [[]]
  | [c] => if isBreak c then [[c], []] else [[c]]
  | c :: d :: rest =>
    if isBreak c && !(c == '\r' && d == '\n') then [c] :: lines (d :: rest)
    else consLine c (lines (d :: rest))

/-- The number of characters before a place in the given lines. -/
def indexIn : List (List Char) → Position → Nat
  | [], _ => 0
  | line :: rest, p =>
    if p.line = 0 then charsWithin line p.column
    else line.length + indexIn rest ⟨p.line - 1, p.column⟩

/-- The number of characters before a place. -/
def charIndex (s : List Char) (p : Position) : Nat := indexIn (lines s) p

/-- An edit: a new text, for the text of a range or for everything. -/
structure Edit where
  /-- What is replaced, if not everything. -/
  range : Option Range
  /-- What it is replaced by. -/
  text : List Char

/-- The text after an edit; a range that ends before its start is empty. -/
def Edit.apply (e : Edit) (s : List Char) : List Char :=
  match e.range with
  | none => e.text
  | some r =>
    let start := charIndex s r.start
    let stop := max start (charIndex s r.stop)
    s.take start ++ e.text ++ s.drop stop

/-- The text after some edits, one after another. -/
def applyAll (edits : List Edit) (s : List Char) : List Char :=
  edits.foldl (fun s e => e.apply s) s

theorem consLine_flatten (c : Char) (ls : List (List Char)) :
    (consLine c ls).flatten = c :: ls.flatten := by
  cases ls <;> simp [consLine]

/-- No character is lost between the lines. -/
theorem lines_flatten (s : List Char) : (lines s).flatten = s := by
  fun_induction lines s with
  | case1 => rfl
  | case2 => simp
  | case3 => simp
  | case4 c d rest _ ih => simpa using ih
  | case5 c d rest _ ih => rw [consLine_flatten, ih]

theorem indexIn_le (ls : List (List Char)) (p : Position) : indexIn ls p ≤ ls.flatten.length := by
  induction ls generalizing p with
  | nil => simp [indexIn]
  | cons line rest ih =>
    simp only [indexIn, List.flatten_cons, List.length_append]
    split
    · exact Nat.le_trans (Text.charsWithin_le_length line p.column) (Nat.le_add_right _ _)
    · exact Nat.add_le_add_left (ih _) _

/-- Every place lies in the text. -/
theorem charIndex_le (s : List Char) (p : Position) : charIndex s p ≤ s.length := by
  have := indexIn_le (lines s) p
  rwa [lines_flatten] at this

end ShaderDiagnostics.Document
