import Mathlib.Data.List.DropRight
import ShaderDiagnostics.Text.Blank

/-!
# Trimming

A text is its trimmed form with blanks on both sides, and it is the only such form: whatever blanks a text that none
begins or ends is put between, trimming gives back that text (`Text.Trims.trim_eq`).
-/

namespace ShaderDiagnostics.Text

/-- Blanks, a text that no blank begins or ends, and blanks. -/
structure Trims (lead kept trail : List Char) : Prop where
  lead : ∀ c ∈ lead, isBlank c = true
  starts : kept.head?.any isBlank = false
  ends : kept.getLast?.any isBlank = false
  trail : ∀ c ∈ trail, isBlank c = true

theorem trimStart_append {lead : List Char} (blank : ∀ c ∈ lead, isBlank c = true) (s : List Char) :
    trimStart (lead ++ s) = trimStart s :=
  List.dropWhile_append_of_pos blank

theorem trimStart_eq_self {s : List Char} (starts : s.head?.any isBlank = false) : trimStart s = s := by
  cases s with
  | nil => rfl
  | cons c s => exact List.dropWhile_cons_of_neg (by simpa using starts)

theorem trimEnd_append (s : List Char) {trail : List Char} (blank : ∀ c ∈ trail, isBlank c = true) :
    trimEnd (s ++ trail) = trimEnd s := by
  rw [trimEnd, List.reverse_append, List.dropWhile_append_of_pos (by simpa using blank)]
  rfl

theorem trimEnd_eq_self {s : List Char} (ends : s.getLast?.any isBlank = false) : trimEnd s = s := by
  rw [trimEnd, ← trimStart, trimStart_eq_self (by rwa [List.head?_reverse]), List.reverse_reverse]

theorem Trims.trim_eq {lead kept trail : List Char} (h : Trims lead kept trail) :
    trim (lead ++ kept ++ trail) = kept := by
  rw [trim, List.append_assoc, trimStart_append h.lead]
  by_cases none : kept = []
  · subst none
    have nothing := trimStart_append h.trail []
    rw [List.append_nil] at nothing
    rw [List.nil_append, nothing]
    rfl
  · have starts : (kept ++ trail).head?.any isBlank = false := by
      rw [List.head?_append_of_ne_nil _ none]
      exact h.starts
    rw [trimStart_eq_self starts, trimEnd_append kept h.trail, trimEnd_eq_self h.ends]

theorem starts_trimStart (s : List Char) : (trimStart s).head?.any isBlank = false := by
  have first := List.head?_dropWhile_not isBlank s
  cases h : (s.dropWhile isBlank).head? with
  | none => rw [trimStart, h]; rfl
  | some c =>
    rw [h] at first
    rw [trimStart, h]
    exact first

/-- A text without the blanks at its end, and those. -/
theorem exists_trimEnd (s : List Char) :
    ∃ trail, s = trimEnd s ++ trail ∧ (∀ c ∈ trail, isBlank c = true) ∧ (trimEnd s).getLast?.any isBlank = false := by
  refine ⟨s.rtakeWhile isBlank, (List.rdropWhile_append_rtakeWhile ..).symm, fun c => List.mem_rtakeWhile_imp, ?_⟩
  rw [trimEnd, List.getLast?_reverse]
  exact starts_trimStart s.reverse

/-- A text without the blanks around it, and those. All of a blank text is taken away on the right first. -/
theorem exists_trims (s : List Char) :
    ∃ lead trail, s = lead ++ trim s ++ trail ∧ Trims lead (trim s) trail ∧ trimEnd s = lead ++ trim s ∧
      lead = (trimEnd s).takeWhile isBlank ∧ (trim s = [] → lead = []) := by
  obtain ⟨trail, split, blank, ends⟩ := exists_trimEnd s
  have parts : (trimEnd s).takeWhile isBlank ++ trimStart (trimEnd s) = trimEnd s := List.takeWhile_append_dropWhile
  have nothing : trimStart (trimEnd s) = [] → trimEnd s = [] := by
    intro all
    rw [all, List.append_nil] at parts
    by_contra some
    have mem : (trimEnd s).getLast some ∈ (trimEnd s).takeWhile isBlank := by
      rw [parts]
      exact List.getLast_mem some
    rw [List.getLast?_eq_getLast_of_ne_nil some, Option.any_some, List.mem_takeWhile_imp mem] at ends
    cases ends
  have trims : Trims ((trimEnd s).takeWhile isBlank) (trimStart (trimEnd s)) trail := by
    refine ⟨fun c => List.mem_takeWhile_imp, starts_trimStart _, ?_, blank⟩
    by_cases none : trimStart (trimEnd s) = []
    · rw [none]
      rfl
    · rwa [← parts, List.getLast?_append_of_ne_nil _ none] at ends
  have same : trim s = trimStart (trimEnd s) := by
    have eq := trims.trim_eq
    rwa [parts, ← split] at eq
  rw [same]
  refine ⟨_, trail, by rw [parts, ← split], trims, parts.symm, rfl, fun none => ?_⟩
  rw [nothing none]
  rfl

/-- Blanks behind a text do not count. -/
theorem trim_append (s : List Char) {trail : List Char} (blank : ∀ c ∈ trail, isBlank c = true) :
    trim (s ++ trail) = trim s := by
  obtain ⟨lead, rest, parts, trims, -⟩ := exists_trims s
  have longer : Trims lead (trim s) (rest ++ trail) :=
    ⟨trims.lead, trims.starts, trims.ends, List.forall_mem_append.2 ⟨trims.trail, blank⟩⟩
  have eq := longer.trim_eq
  rwa [← List.append_assoc, ← parts] at eq

theorem trim_trim (s : List Char) : trim (trim s) = trim s := by
  obtain ⟨lead, trail, -, trims, -⟩ := exists_trims s
  have alone : Trims [] (trim s) [] := ⟨nofun, trims.starts, trims.ends, nofun⟩
  have eq := alone.trim_eq
  rwa [List.nil_append, List.append_nil] at eq

end ShaderDiagnostics.Text
