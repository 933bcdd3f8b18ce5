import ShaderDiagnostics.Text.Decimal
import ShaderDiagnostics.Text.Quoted

/-!
# Version tokens

The diagnostics of a document depend on its content and on the settings. A token pairs the versions of
both, and a result for one token may be served for another when neither version is older. The text of a
token is its result id.
-/

namespace ShaderDiagnostics

/-- The versions that diagnostics belong to. -/
structure Token where
  /-- Grows with every change of the document. -/
  content : UInt32
  /-- Grows with every change of the settings that matters to results. -/
  settings : UInt32
  deriving DecidableEq, Repr

namespace Token

/-- Whether results for `a` may be served for `b`. -/
def covers (a b : Token) : Bool := b.content ≤ a.content && b.settings ≤ a.settings

/-- The text of a token. -/
def text (t : Token) : String :=
  String.ofList
    (Text.natText t.content.toNat ++ ':' :: Text.natText t.settings.toNat)

/-- A text that is no token. -/
structure Malformed where
  /-- The text. -/
  text : String
  deriving DecidableEq, Repr

/-- The wording of the fault. -/
def Malformed.message (e : Malformed) : String :=
  "invalid diagnostic version: " ++ Text.quoted e.text

/-- An unsigned number of 32 bits. -/
def readWord (s : List Char) : Option UInt32 :=
  (Text.readNat UInt32.size s).map UInt32.ofNat

/-- Reads a token: two numbers around the first colon. -/
def read (s : List Char) : Option Token :=
  match s.dropWhile (· != ':') with
  | [] => none
  | _ :: right =>
    match readWord (s.takeWhile (· != ':')), readWord right with
    | some content, some settings => some ⟨content, settings⟩
    | _, _ => none

/-- The token that a text stands for. -/
def ofText (s : String) : Except Malformed Token :=
  match read s.toList with
  | some t => .ok t
  | none => .error ⟨s⟩

theorem covers_refl (t : Token) : t.covers t = true := by
  simp [covers]

theorem covers_trans {a b c : Token} (hab : a.covers b = true) (hbc : b.covers c = true) :
    a.covers c = true := by
  simp only [covers, Bool.and_eq_true, decide_eq_true_eq] at *
  exact ⟨UInt32.le_trans hbc.1 hab.1, UInt32.le_trans hbc.2 hab.2⟩

end Token

end ShaderDiagnostics
