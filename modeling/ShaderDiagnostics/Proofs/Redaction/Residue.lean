import ShaderDiagnostics.Proofs.Redaction.Paths

/-!
# What redaction leaves

A text is clean if no separator in it has a character of a name right behind it. Such a pair is the start of a path,
drive or no drive, and every path has one in it: so the clean texts are just those that redaction leaves alone. What
it makes of other texts is clean as well. A separator that is kept has no name behind it, and where a path was taken
out behind it there is the placeholder now, which no name begins and no separator ends (`Redaction.clean_of_scan`).
So redacting twice is redacting once (`Redaction.redacted_clean`).
-/

namespace ShaderDiagnostics.Redaction

open Pattern

/-- No separator has a character of a name right behind it. -/
def Clean (s : List Char) : Prop := s.IsChain fun c d => isSeparator c = true → isNameChar d = false

instance (s : List Char) : Decidable (Clean s) :=
  inferInstanceAs (Decidable (s.IsChain fun c d => isSeparator c = true → isNameChar d = false))

variable {c : Char} {rest s t : List Char}

/-! ### Texts without paths -/

theorem Clean.tail (h : Clean (c :: rest)) : Clean rest := List.IsChain.tail h

theorem Clean.unnamed (h : Clean (c :: rest)) (separator : isSeparator c = true) : nameLength rest = 0 := by
  cases rest with
  | nil => rfl
  | cons d rest =>
    have other : isNameChar d = false := (List.isChain_cons_cons.1 h).1 separator
    rw [nameLength_cons, other, if_neg Bool.false_ne_true]

theorem Clean.rootless (h : Clean s) : rootedExtent s = none := by
  cases s with
  | nil => rfl
  | cons c rest =>
    cases separator : isSeparator c with
    | false => simp [rootedExtent, separator]
    | true => simp [rootedExtent, goesOn_of_unnamed (h.unnamed separator)]

/-- No path starts in a clean text, not even behind a drive. -/
theorem Clean.pathless (h : Clean s) : pathExtent s = none := by
  have driveless : seqExtent driveExtent rootedExtent s = none := by
    unfold seqExtent
    cases driveExtent s with
    | none => rfl
    | some n =>
      have behind : rootedExtent (s.drop n) = none := Clean.rootless (List.IsChain.drop h n)
      rw [Option.bind_some, behind, Option.map_none]
  rw [pathExtent, driveless, h.rootless, Option.none_or]

theorem Clean.scan (h : Clean s) (f : List Char → List Char) : Scan pathExtent f s s := by
  induction s with
  | nil => exact .done
  | cons c rest ih => exact .skip h.pathless (ih h.tail)

/-! ### Texts that have been redacted -/

/-- A separator at which no path starts has no name behind it. -/
theorem unnamed_of_pathless (pathless : pathExtent (c :: rest) = none) (separator : isSeparator c = true) :
    ∀ d ∈ rest.head?, isNameChar d = false := by
  rw [pathExtent_separator separator] at pathless
  cases rest with
  | nil => nofun
  | cons d rest =>
    rintro _ ⟨⟩
    refine Bool.eq_false_iff.2 fun name => ?_
    simp [goesOn, name] at pathless

/-- A redacted text starts as the text did, or with the placeholder. -/
theorem head?_of_scan (h : Scan pathExtent (fun _ => placeholder) s t) :
    t.head? = s.head? ∨ t.head? = placeholder.head? := by
  cases h with
  | done => exact .inl rfl
  | hit => exact .inr rfl
  | skip => exact .inl rfl

theorem clean_placeholder : Clean placeholder := by decide

/-- Neither in what is kept nor at the seams is anything left of a path. -/
theorem clean_of_scan (h : Scan pathExtent (fun _ => placeholder) s t) : Clean t := by
  induction h with
  | done => exact .nil
  | hit _ _ ih =>
    refine List.IsChain.append clean_placeholder ih ?_
    rintro _ ⟨⟩ _ _ separator
    cases separator
  | @skip c s t pathless rest ih =>
    refine List.isChain_cons.2 ⟨fun d first separator => ?_, ih⟩
    rcases head?_of_scan rest with same | placed
    · exact unnamed_of_pathless pathless separator d (same ▸ first)
    · obtain rfl : '<' = d := Option.some.inj (placed.symm.trans first)
      rfl

theorem clean_redact (s : List Char) : Clean (redact s) := clean_of_scan (scan_redact s)

theorem redact_eq_self_iff : redact s = s ↔ Clean s := by
  constructor
  · intro same
    rw [← same]
    exact clean_redact s
  · intro clean
    exact (scan_redact s).unique proper_pathExtent (clean.scan _)

/-- **Nothing like a path is left.** A redacted text is clean, redacting it once more changes nothing, and the texts
that redaction leaves as they are are just the clean ones. -/
theorem redacted_clean (s : String) :
    Clean (redactString s).toList ∧ redactString (redactString s) = redactString s ∧
      (redactString s = s ↔ Clean s.toList) := by
  have alone : ∀ s : String, redactString s = s ↔ Clean s.toList := fun s =>
    redactString_eq_iff.trans redact_eq_self_iff
  have clean : Clean (redactString s).toList := by
    rw [redactString, String.toList_ofList]
    exact clean_redact s.toList
  exact ⟨clean, (alone _).2 clean, alone s⟩

end ShaderDiagnostics.Redaction
