import ShaderDiagnostics.Path

/-!
# How paths are spelled

A path is spelled by parts with slashes between them, and splitting it at the slashes gives the parts back
(`split_parts`); no part holds a slash, and no other byte gets lost (`mem_split_iff`). The components of an
absolute path come one by one from its parts (`components_parts`), so a slash at its end does not count
(`components_concat_slash`). Only absolute paths have the root among their components (`isAbsolute_iff_root`).
-/

namespace ShaderDiagnostics.Path

/-! ### Parts between slashes -/

theorem split_slash (rest : List UInt8) : split (slash :: rest) = [] :: split rest := by
  simp [split]

theorem split_ne_nil (bytes : List UInt8) : split bytes ≠ [] := by
  cases bytes with
  | nil => simp [split]
  | cons b rest =>
    simp only [split]
    split
    · simp
    · split <;> simp

/-- A byte that is no slash stands in front of the first part. -/
theorem split_cons {b : UInt8} (hb : b ≠ slash) (rest : List UInt8) :
    ∃ part parts, split rest = part :: parts ∧ split (b :: rest) = (b :: part) :: parts := by
  cases h : split rest with
  | nil => exact absurd h (split_ne_nil rest)
  | cons part parts => exact ⟨part, parts, rfl, by simp [split, hb, h]⟩

theorem slash_notMem_split {bytes part : List UInt8} (h : part ∈ split bytes) : slash ∉ part := by
  induction bytes generalizing part with
  | nil =>
    obtain rfl : part = [] := by simpa [split] using h
    exact List.not_mem_nil
  | cons b rest ih =>
    by_cases hb : b = slash
    · rw [hb, split_slash] at h
      rcases List.mem_cons.1 h with rfl | h
      · exact List.not_mem_nil
      · exact ih h
    · obtain ⟨first, parts, hs, hc⟩ := split_cons hb rest
      rw [hc] at h
      rw [hs] at ih
      rcases List.mem_cons.1 h with rfl | h
      · exact List.not_mem_cons_of_ne_of_not_mem (Ne.symm hb) (ih List.mem_cons_self)
      · exact ih (List.mem_cons_of_mem _ h)

/-- Only slashes get lost when a path is split. -/
theorem mem_split_iff {bytes : List UInt8} {b : UInt8} (hb : b ≠ slash) :
    (∃ part ∈ split bytes, b ∈ part) ↔ b ∈ bytes := by
  induction bytes with
  | nil => simp [split]
  | cons a rest ih =>
    by_cases ha : a = slash
    · rw [ha, split_slash]
      simp [hb, ih]
    · obtain ⟨first, parts, hs, hc⟩ := split_cons ha rest
      rw [hs] at ih
      rw [hc, List.mem_cons, ← ih]
      simp [or_assoc]

theorem split_append_slash {part : List UInt8} (h : slash ∉ part) (rest : List UInt8) :
    split (part ++ slash :: rest) = part :: split rest := by
  induction part with
  | nil => exact split_slash rest
  | cons b part ih =>
    obtain ⟨hb, hp⟩ := List.ne_and_not_mem_of_not_mem_cons h
    simp [split, Ne.symm hb, ih hp]

theorem split_of_notMem {part : List UInt8} (h : slash ∉ part) : split part = [part] := by
  induction part with
  | nil => rfl
  | cons b part ih =>
    obtain ⟨hb, hp⟩ := List.ne_and_not_mem_of_not_mem_cons h
    simp [split, Ne.symm hb, ih hp]

/-- Parts with a slash before each are split into the parts. -/
theorem split_parts {parts : List (List UInt8)} (h : ∀ part ∈ parts, slash ∉ part)
    (first : List UInt8) (hf : slash ∉ first) :
    split (first ++ parts.flatMap fun part => slash :: part) = first :: parts := by
  induction parts generalizing first with
  | nil => simpa using split_of_notMem hf
  | cons part rest ih =>
    rw [List.flatMap_cons, List.cons_append, split_append_slash hf,
      ih (fun p hp => h p (List.mem_cons_of_mem _ hp)) part (h part List.mem_cons_self)]

theorem split_concat_slash (bytes : List UInt8) : split (bytes ++ [slash]) = split bytes ++ [[]] := by
  induction bytes with
  | nil => rfl
  | cons b rest ih =>
    by_cases hb : b = slash
    · rw [hb, List.cons_append, split_slash, split_slash, ih, List.cons_append]
    · obtain ⟨part, parts, hs, hc⟩ := split_cons hb rest
      obtain ⟨part', parts', hs', hc'⟩ := split_cons hb (rest ++ [slash])
      rw [ih, hs, List.cons_append] at hs'
      obtain ⟨rfl, rfl⟩ := List.cons.inj hs'
      rw [List.cons_append, hc', hc, List.cons_append]

/-! ### Absolute paths -/

/-- An absolute path starts with a slash. -/
theorem bytes_of_isAbsolute {p : Path} (h : p.isAbsolute = true) :
    ∃ rest, p.bytes = slash :: rest := by
  have head : p.bytes.head? = some slash := by simpa [isAbsolute] using h
  exact List.head?_eq_some_iff.1 head

theorem components_slash (rest : List UInt8) :
    components ⟨slash :: rest⟩ = .root :: (split rest).filterMap (component? false) := by
  simp [components, split_slash, isAbsolute]

/-- Parts that stand for no component hold no bytes but dots. -/
theorem exists_component? {part : List UInt8} {b : UInt8} (hb : b ∈ part) (hd : b ≠ dot) :
    ∃ c, component? false part = some c := by
  unfold component?
  rw [if_neg (List.ne_nil_of_mem hb), if_neg]
  · split <;> exact ⟨_, rfl⟩
  · rintro rfl
    exact hd (List.mem_singleton.1 hb)

/-- A slash at the end of an absolute path does not count. -/
theorem components_concat_slash {p : Path} (h : p.isAbsolute = true) :
    components ⟨p.bytes ++ [slash]⟩ = p.components := by
  obtain ⟨bytes⟩ := p
  obtain ⟨rest, rfl⟩ := bytes_of_isAbsolute h
  rw [List.cons_append, components_slash, components_slash, split_concat_slash,
    List.filterMap_append]
  simp [component?]

/-- The components of parts with a slash before each come one by one from the parts. -/
theorem components_parts {parts : List (List UInt8)} (h : ∀ part ∈ parts, slash ∉ part)
    (hne : parts ≠ []) :
    components ⟨parts.flatMap fun part => slash :: part⟩ =
      .root :: parts.filterMap (component? false) := by
  cases parts with
  | nil => exact absurd rfl hne
  | cons part rest =>
    rw [List.flatMap_cons, List.cons_append, components_slash,
      split_parts (fun p hp => h p (List.mem_cons_of_mem _ hp)) part (h part List.mem_cons_self)]

theorem component?_ne_root (leading : Bool) (part : List UInt8) : component? leading part ≠ some .root := by
  unfold component?
  repeat' split
  all_goals exact nofun

/-- A path is absolute exactly if its components start with the root. -/
theorem isAbsolute_iff_root {p : Path} : p.isAbsolute = true ↔ Component.root ∈ p.components := by
  obtain ⟨bytes⟩ := p
  constructor
  · intro absolute
    obtain ⟨rest, rfl⟩ := bytes_of_isAbsolute absolute
    rw [components_slash]
    exact List.mem_cons_self
  · intro root
    refine Bool.of_not_eq_false fun relative => ?_
    unfold components at root
    split at root
    · cases root
    next first rest _ =>
      rw [relative, if_neg Bool.false_ne_true] at root
      rcases List.mem_append.1 root with leading | inner
      · exact component?_ne_root true first (Option.mem_toList.1 leading)
      · obtain ⟨part, -, named⟩ := List.mem_filterMap.1 inner
        exact component?_ne_root false part named

theorem isAbsolute_congr {p q : Path} (same : p.same q = true) : p.isAbsolute = q.isAbsolute := by
  rw [Bool.eq_iff_iff, isAbsolute_iff_root, isAbsolute_iff_root, same_iff.1 same]

end ShaderDiagnostics.Path
