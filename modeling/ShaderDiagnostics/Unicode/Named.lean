import ShaderDiagnostics.Unicode.Category
import ShaderDiagnostics.Unicode.Property
import ShaderDiagnostics.Unicode.Script

/-!
# Sets of characters by name

What a pattern may ask for by name: a binary property, a general category or a group of them, a script,
or a property with a value. A name stands for the first of these that knows it.
-/

namespace ShaderDiagnostics.Unicode

/-- A set of characters. -/
abbrev CharClass := Char → Bool

/-- Decimal digits of all scripts. -/
def isDecimalDigit (c : Char) : Bool :=
  if c.toNat < 128 then c.isDigit else (category "nd").has c

/-- Word characters. -/
def isWord (c : Char) : Bool :=
  if c.toNat < 128 then c.isAlphanum || c == '_' else wordRanges.has c

/-- Alphabetic characters. -/
def isAlphabetic (c : Char) : Bool :=
  if c.toNat < 128 then c.isAlpha else (property "alphabetic").has c

/-- Alphabetic characters and numbers of all kinds. -/
def isAlphanumeric (c : Char) : Bool :=
  isAlphabetic c || ["nd", "nl", "no"].any (fun g => (category g).has c)

/-- The entry of a table that lists the name. -/
def lookUp {α : Type} (table : List (List String × α)) (name : String) : Option α :=
  (table.find? fun e => e.1.contains name).map (·.2)

/-- The characters of a general category, of a group of categories, or of one of the sets `any`,
`ascii` and `assigned`, by a name in loose form. -/
def categoryNamed (name : String) : Option CharClass :=
  if name == "any" then some fun _ => true
  else if name == "ascii" then some fun c => c.toNat < 128
  else if name == "assigned" then some fun c => !(category "cn").has c
  else
    match lookUp categoryGroups name with
    | some members => some fun c => members.any fun g => (category g).has c
    | none => (lookUp categories name).map fun r c => r.has c

/-- The characters of a script. -/
def scriptNamed (name : String) : Option CharClass := (lookUp scripts name).map fun r c => r.has c

/-- The characters used with a script. -/
def scriptExtensionNamed (name : String) : Option CharClass :=
  match lookUp scriptExtensions name with
  | some r => some fun c => r.has c
  | none => scriptNamed name

/-- The characters that a single name stands for. The names `cf`, `sc` and `lc` are categories, although
they abbreviate properties too. -/
def classNamed (name : String) : Option CharClass :=
  let binary := if ["cf", "sc", "lc"].contains name then none else lookUp properties name
  match binary with
  | some r => some fun c => r.has c
  | none =>
    match categoryNamed name with
    | some p => some p
    | none => scriptNamed name

/-- The characters for which the property has the value, both in loose form. -/
def classValued (property value : String) : Option CharClass :=
  if ["gc", "generalcategory"].contains property then categoryNamed value
  else if ["sc", "script"].contains property then scriptNamed value
  else if ["scx", "scriptextensions"].contains property then scriptExtensionNamed value
  else none

end ShaderDiagnostics.Unicode
