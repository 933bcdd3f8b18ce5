import ShaderDiagnostics.Document.Text
import ShaderDiagnostics.PathMap

/-!
# Documents open in the editor

The texts of the documents that the editor has open, as the editor has them.
-/

namespace ShaderDiagnostics

/-- A document open in the editor. -/
structure OpenDocument where
  /-- Its text. -/
  text : List Char
  /-- The number that the editor gave to this state of the text. -/
  version : Int

/-- The documents open in the editor. -/
abbrev Editor := PathMap OpenDocument

namespace Editor

/-- The editor opens a document, anew if it was open. -/
def opened (e : Editor) (p : Path) (text : List Char) (version : Int) : Editor :=
  e.insert p ⟨text, version⟩

/-- The editor closes a document. -/
def closed (e : Editor) (p : Path) : Editor := e.erase p

/-- The editor changes a document, which must be open. -/
def changed? (e : Editor) (p : Path) (edits : List Document.Edit) (version : Int) : Option Editor :=
  (e.get? p).map fun d => e.insert p ⟨Document.applyAll edits d.text, version⟩

/-- The text of an open document. -/
def text? (e : Editor) (p : Path) : Option (List Char) := (e.get? p).map (·.text)

/-- The length of an open document, in characters. -/
def length? (e : Editor) (p : Path) : Option Nat := (e.text? p).map List.length

end Editor

end ShaderDiagnostics
