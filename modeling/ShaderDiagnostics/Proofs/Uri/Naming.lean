import ShaderDiagnostics.Proofs.Uri.RoundTrip

/-!
# Which URI a path has

A path is known by its components, and so is its URI: absolute paths with the same components have the same
URI (`ofPath?_congr`), and no other path has it. The bytes that keep a path from having a URI are the two
brackets, the caret and the bar. A URI leads back to the path that it was made of, unless a parent is among
the components (`named_faithfully`): neither percent signs nor backslashes, control bytes, drives or bytes
that are no UTF-8 get in the way.
-/

namespace ShaderDiagnostics.Uri

/-- The URI of a path depends on its components alone. -/
theorem ofPath?_congr {p q : Path} (same : p.same q = true) : ofPath? p = ofPath? q := by
  have text : fileText p = fileText q := by
    unfold fileText
    rw [Path.same_iff.1 same]
  unfold ofPath?
  rw [Path.isAbsolute_congr same, text]

theorem isMisfit_iff {b : UInt8} : isMisfit b = true ↔ b ∈ Text.bytesOf "[]^|" := by
  have bytes : Text.bytesOf "[]^|" = [0x5B, 0x5D, 0x5E, 0x7C] := by decide +kernel
  rw [bytes]
  simp [isMisfit]
  tauto

/-- Nothing in a path keeps it from having a URI exactly if neither bracket, caret nor bar is in it. -/
theorem fits_iff (bytes : List UInt8) :
    (∀ b ∈ bytes, isMisfit b = false) ↔ ∀ b ∈ Text.bytesOf "[]^|", b ∉ bytes := by
  simp only [← isMisfit_iff, ← Bool.not_eq_true]
  exact ⟨fun fits b misfit there => fits b there misfit, fun none b there misfit => none b misfit there⟩

/-- **Paths are named faithfully.** An absolute path has a URI exactly if no bracket, caret or bar is among its
bytes. The URI then names a path with the same components exactly if none of them is a parent, and the paths
that have this URI are just those with the same components. -/
theorem named_faithfully {p : Path} (absolute : p.isAbsolute = true) :
    ((∃ u, ofPath? p = some u) ↔ ∀ b ∈ Text.bytesOf "[]^|", b ∉ p.bytes) ∧
      ∀ u, ofPath? p = some u →
        (∃ q, u.path? = some q ∧ (q.same p = true ↔ Path.Component.parent ∉ p.components)) ∧
          ∀ q, ofPath? q = some u ↔ q.same p = true := by
  refine ⟨(ofPath?_isSome_iff absolute).trans (fits_iff p.bytes), fun u named => ?_⟩
  refine ⟨path?_of_ofPath? named, fun q => ⟨fun alike => same_of_ofPath? alike named, fun same => ?_⟩⟩
  rw [ofPath?_congr same, named]

/-- A path below something like a drive, with a name that looks like encoded dots, a backslash, a control byte and
a byte that is no UTF-8. -/
def oddPath : Path :=
  ⟨Text.bytesOf "//C:/./%2e%2E/a\\b\u0001" ++ [0xFF] ++ Text.bytesOf " .frag/"⟩

theorem oddPath_named :
    oddPath.isAbsolute = true ∧
      ∃ u, ofPath? oddPath = some u ∧ u.text = "file:///C:/%252e%252E/a%5Cb%01%FF%20.frag" ∧
        ∃ q, u.path? = some q ∧ q.same oddPath = true := by
  have absolute : oddPath.isAbsolute = true := by decide +kernel
  obtain ⟨exactly, back⟩ := named_faithfully absolute
  obtain ⟨u, named⟩ := exactly.2 (by decide +kernel)
  obtain ⟨⟨q, leads, same⟩, -⟩ := back u named
  have text : (ofPath? oddPath).map Uri.text = some "file:///C:/%252e%252E/a%5Cb%01%FF%20.frag" := by decide +kernel
  rw [named] at text
  exact ⟨absolute, u, named, Option.some.inj text, q, leads, same.2 (by decide +kernel)⟩

end ShaderDiagnostics.Uri
