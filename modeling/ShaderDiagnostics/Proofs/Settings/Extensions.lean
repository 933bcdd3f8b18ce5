import Mathlib.Data.List.Nodup
import ShaderDiagnostics.Proofs.Text.Decoding
import ShaderDiagnostics.Stage

/-!
# Extensions of all stages

The extensions to be watched are collected over all stages, each of them once (`StageExtensions.nodup_distinct`),
whereas the stage of a path is looked for one stage after another. Both go by the same extensions: a path has a
stage exactly if it ends with one that has been collected (`StageExtensions.isSome_stageOfPath`).
-/

namespace ShaderDiagnostics.StageExtensions

variable {e : StageExtensions} {x : String}

/-! ### Collecting -/

section

variable {known extensions : List String}

theorem mem_collect {y : String} : x ∈ collect known y ↔ x ∈ known ∨ x ≠ "" ∧ x = y := by
  unfold collect
  split
  next skipped =>
    rcases Bool.or_eq_true_iff.1 skipped with empty | there
    · obtain rfl := eq_of_beq empty
      exact ⟨.inl, fun h => h.elim id fun h => absurd h.2 h.1⟩
    · exact ⟨.inl, fun h => h.elim id fun h => h.2 ▸ List.contains_iff_mem.1 there⟩
  next new =>
    have filled : y ≠ "" := fun empty => new (by simp [empty])
    rw [List.mem_append, List.mem_singleton]
    exact or_congr_right ⟨fun same => ⟨same ▸ filled, same⟩, And.right⟩

theorem nodup_collect (h : known.Nodup) (y : String) : (collect known y).Nodup := by
  unfold collect
  split
  · exact h
  next new =>
    have apart : y ∉ known := fun there => new (by simp [there])
    exact h.append (List.nodup_singleton y) (List.disjoint_singleton.2 apart)

theorem mem_foldl_collect : x ∈ extensions.foldl collect known ↔ x ∈ known ∨ x ≠ "" ∧ x ∈ extensions := by
  induction extensions generalizing known with
  | nil => simp
  | cons y rest ih => rw [List.foldl_cons, ih, mem_collect, List.mem_cons, and_or_left, or_assoc]

theorem nodup_foldl_collect (h : known.Nodup) : (extensions.foldl collect known).Nodup := by
  induction extensions generalizing known with
  | nil => exact h
  | cons y rest ih => exact ih (nodup_collect h y)

end

/-! ### All extensions -/

theorem nodup_distinct (e : StageExtensions) : e.distinct.Nodup := nodup_foldl_collect List.nodup_nil

theorem mem_distinct : x ∈ e.distinct ↔ x ≠ "" ∧ ∃ stage, x ∈ e.of stage := by
  simp [distinct, mem_foldl_collect, Stage.mem_all]

theorem fits_iff {path : List Char} : fits path x = true ↔ x ≠ "" ∧ x.toList <:+ path := by
  simp [fits]

theorem isSome_stageOf {path : List Char} :
    (e.stageOf path).isSome ↔ ∃ x ∈ e.distinct, x.toList <:+ path := by
  simp only [stageOf, List.find?_isSome, List.any_eq_true, fits_iff, mem_distinct, Stage.mem_all, true_and]
  constructor
  · rintro ⟨stage, x, hx, filled, ends⟩
    exact ⟨x, ⟨filled, stage, hx⟩, ends⟩
  · rintro ⟨x, ⟨filled, stage, hx⟩, ends⟩
    exact ⟨stage, x, hx, filled, ends⟩

/-- A path has a stage exactly if its text ends with an extension of some stage. -/
theorem isSome_stageOfPath (text : String) :
    (e.stageOfPath (Path.ofString text)).isSome ↔ ∃ x ∈ e.distinct, x.toList <:+ text.toList := by
  rw [stageOfPath, Path.decodeLossy_ofString, isSome_stageOf]

end ShaderDiagnostics.StageExtensions
