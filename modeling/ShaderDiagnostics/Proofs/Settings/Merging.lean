import ShaderDiagnostics.Proofs.Json.Records
import ShaderDiagnostics.Settings

/-!
# Settings of which some are missing

The user need not set everything. Settings are read from any part of their JSON form: what is there is taken from it,
and everything else has its default, whether a whole group is missing or something in it
(`Settings.part_decoded`). For a group this holds of each field by itself, since reading a field sets it and
nothing else (`Json.RecordForm.Writes`); the groups are the fields of the settings as a whole.
-/

namespace ShaderDiagnostics

open Json (Part Ascending Decoder RecordForm mark get?_insert get?_nil part_zero_iff)
open Json.RecordForm (known_defaulted written_defaulted)

/-! ### Groups -/

namespace DiagnosticSettings

/-- The settings under the given keys, and the defaults of all others. -/
def keep (s : DiagnosticSettings) (there : String → Bool) : DiagnosticSettings where
  enable := if there "enable" then s.enable else true
  wholeLine := if there "markTheWholeLine" then s.wholeLine else false
  workspace := if there "workspace" then s.workspace else false
  delay := if there "delay" then s.delay else 300

theorem writes {s : DiagnosticSettings} (fits : s.delay < UInt64.size) : form.Writes s.keep s.toJson where
  defaulted := by simp [form, Json.RecordField.defaulted]
  written := by
    simp only [form, List.forall_mem_cons]
    refine ⟨written_defaulted (w := .bool s.enable) ?_ rfl ?_, written_defaulted (w := .bool s.wholeLine) ?_ rfl ?_,
      written_defaulted (w := .bool s.workspace) ?_ rfl ?_, written_defaulted ?_ (Decoder.u64_nat fits) ?_, nofun⟩
    all_goals simp [toJson, Json.object, get?_insert, keep, mark]
  unknown key other there := by
    simp only [form, List.forall_mem_cons, Json.RecordField.defaulted] at other
    simp [keep, mark, other]

end DiagnosticSettings

namespace CompilerSettings

/-- The settings under the given keys, and the defaults of all others. -/
def keep (s : CompilerSettings) (there : String → Bool) : CompilerSettings where
  targetEnvironment := if there "targetEnvironment" then s.targetEnvironment else ""
  version := if there "glslVersion" then s.version else ""
  path := if there "path" then s.path else none
  defines := if there "defines" then s.defines else []

theorem writes {s : CompilerSettings} (ordered : Ascending s.defines) : form.Writes s.keep s.toJson where
  defaulted := by simp [form, Json.RecordField.defaulted]
  written := by
    simp only [form, List.forall_mem_cons]
    refine ⟨written_defaulted (w := .str s.targetEnvironment) ?_ rfl ?_,
      written_defaulted (w := .str s.version) ?_ rfl ?_, written_defaulted ?_ (Decoder.optional_orNull s.path) ?_,
      written_defaulted ?_ (Decoder.map_object ordered) ?_, nofun⟩
    all_goals simp [toJson, Json.object, get?_insert, keep, mark]
  unknown key other there := by
    simp only [form, List.forall_mem_cons, Json.RecordField.defaulted] at other
    simp [keep, mark, other]

end CompilerSettings

namespace StageExtensions

/-- The extensions under the given keys, and the defaults of all others. -/
def keep (e : StageExtensions) (there : String → Bool) : StageExtensions where
  vertex := if there "vertexShader" then e.vertex else [".vert"]
  tessellationControl := if there "tessellationControlShader" then e.tessellationControl else [".tesc"]
  tessellationEvaluation := if there "tessellationEvaluationShader" then e.tessellationEvaluation else [".tese"]
  geometry := if there "geometryShader" then e.geometry else [".geom"]
  fragment := if there "fragmentShader" then e.fragment else [".frag"]
  compute := if there "computeShader" then e.compute else [".comp"]

theorem writes (e : StageExtensions) : form.Writes e.keep e.toJson where
  defaulted := by simp [form, Json.RecordField.defaulted]
  written := by
    simp only [form, List.forall_mem_map]
    intro stage _
    refine written_defaulted ?_ (Decoder.list_map_str (e.of stage)) ?_
    all_goals cases stage <;> simp [toJson, Stage.all, of, set, key, Json.object, get?_insert, keep, mark]
  unknown name other there := by
    simp [form, Stage.all, key, Json.RecordField.defaulted] at other
    simp [keep, mark, other]

end StageExtensions

/-! ### All settings -/

namespace Settings

/-- Settings that there can be: the delay has 64 bits, and each macro has one value. -/
structure Proper (s : Settings) : Prop where
  delay : s.diagnostics.delay < UInt64.size
  defines : Ascending s.compiler.defines

/-- The settings under the given keys of the given groups, and the defaults of all others. -/
def keep (s : Settings) (there : String → String → Bool) : Settings where
  diagnostics := s.diagnostics.keep (there "diagnostics")
  compiler := s.compiler.keep (there "compiler")
  extensions := s.extensions.keep (there "fileExtensions")

/-- The groups that are there, and the defaults of all others. -/
def groups (s : Settings) (there : String → Bool) : Settings where
  diagnostics := if there "diagnostics" then s.diagnostics else .standard
  compiler := if there "compiler" then s.compiler else .standard
  extensions := if there "fileExtensions" then s.extensions else .standard

/-- Whether there is something under a key of a group. -/
def holds (j : Json) (group key : String) : Bool := (j.path? [group, key]).isSome

theorem holds_of_get? {j v : Json} {group : String} (found : j.get? group = some v) :
    holds j group = fun key => (v.get? key).isSome := by
  funext key
  simp [holds, Json.path?, found]

/-- Nothing is there in a group that is missing. -/
theorem holds_of_missing {j : Json} {group : String} (missing : j.get? group = none) :
    holds j group = fun _ => false := by
  funext key
  simp [holds, Json.path?, missing]

/-- Of a group that is missing, everything is missing. -/
theorem groups_keep (s : Settings) (j : Json) :
    (s.keep (holds j)).groups (fun key => (j.get? key).isSome) = s.keep (holds j) := by
  have whole : ∀ {α : Type} (group : String) (kept : (String → Bool) → α),
      (if (j.get? group).isSome then kept (holds j group) else kept fun _ => false) = kept (holds j group) := by
    intro α group kept
    cases found : j.get? group with
    | none => rw [holds_of_missing found, ite_self]
    | some v => rfl
  have diagnostics := whole "diagnostics" s.diagnostics.keep
  have compiler := whole "compiler" s.compiler.keep
  have extensions := whole "fileExtensions" s.extensions.keep
  exact congr (congr (congrArg Settings.mk diagnostics) compiler) extensions

theorem decode_part {s : Settings} (proper : s.Proper) {j : Json} (part : Part 2 s.toJson j) :
    decode j = .ok (s.keep (holds j)) := by
  obtain ⟨members, rfl, distinct, parts⟩ := part.exists_members
  -- each group is read from its part, and that is what the whole holds of it
  have group : ∀ {σ : Type} {form : RecordForm σ} {kept : (String → Bool) → σ} {key : String} {w : Json},
      form.Writes kept w → s.toJson.get? key = some w → ∀ v, (key, v) ∈ members →
        form.decode (kept fun _ => false) v = .ok (kept (holds (.obj members) key)) := by
    intro σ form kept key w writes found v mem
    rw [writes.decode_part (parts (key, v) mem w found), holds_of_get? (Json.get?_of_mem distinct mem)]
  have keeps : form.Keeps (s.keep (holds (.obj members))).groups members := by
    refine ⟨?_, ?_, ?_⟩
    · simp [form, Json.RecordField.defaulted]
    · simp only [form, List.forall_mem_cons]
      refine ⟨known_defaulted (group (DiagnosticSettings.writes proper.delay) ?_) ?_,
        known_defaulted (group (CompilerSettings.writes proper.defines) ?_) ?_,
        known_defaulted (group (StageExtensions.writes s.extensions) ?_) ?_, nofun⟩
      all_goals simp [toJson, Json.object, get?_insert, groups, keep, mark]
    · intro key other there
      simp only [form, List.forall_mem_cons, Json.RecordField.defaulted] at other
      simp [groups, mark, other]
  rw [← groups_keep]
  exact RecordForm.decode_members keeps

/-- All of the JSON form is a part of it. -/
theorem part_self (s : Settings) : Part 2 s.toJson s.toJson := by
  refine Json.part_object ?_
  simp only [List.forall_mem_cons]
  exact ⟨Json.part_object fun m _ => .whole m.2, Json.part_object fun m _ => .whole m.2,
    Json.part_object fun m _ => .whole m.2, nofun⟩

/-- Nothing is missing in the JSON form. -/
theorem keep_all (s : Settings) : s.keep (holds s.toJson) = s := by
  have diagnostics : s.toJson.get? "diagnostics" = some s.diagnostics.toJson := by
    simp [toJson, Json.object, get?_insert]
  have compiler : s.toJson.get? "compiler" = some s.compiler.toJson := by
    simp [toJson, Json.object, get?_insert]
  have extensions : s.toJson.get? "fileExtensions" = some s.extensions.toJson := by
    simp [toJson, Json.object, get?_insert]
  rw [keep, holds_of_get? diagnostics, holds_of_get? compiler, holds_of_get? extensions]
  simp [DiagnosticSettings.keep, DiagnosticSettings.toJson, CompilerSettings.keep, CompilerSettings.toJson,
    StageExtensions.keep, StageExtensions.toJson, StageExtensions.key, StageExtensions.of, Stage.all, Json.object,
    get?_insert]

theorem validator_keep (s : Settings) {there : String → String → Bool} (missing : there "compiler" "path" = false) :
    (s.keep there).validator = "glslangValidator" := by
  simp [validator, keep, CompilerSettings.keep, missing, defaultValidator]

/-- **Settings merge with the defaults.** From any part of the JSON form of settings, whichever groups and fields of
it are missing, in whatever order its keys come and with whatever other keys among them, one reads the settings that
have what is there, and the defaults of all that is missing; without a path the default validator is run. From the
whole form one reads the settings themselves. -/
theorem part_decoded {s : Settings} (proper : s.Proper) :
    (∀ j, Part 2 s.toJson j → decode j = .ok (s.keep (holds j)) ∧
      (holds j "compiler" "path" = false → (s.keep (holds j)).validator = "glslangValidator")) ∧
      decode s.toJson = .ok s := by
  refine ⟨fun j part => ⟨decode_part proper part, validator_keep s⟩, ?_⟩
  rw [decode_part proper s.part_self, keep_all]

/-- Settings of which none is a default. -/
def tuned : Settings :=
  ⟨⟨false, true, true, 50⟩, ⟨"vulkan1.3", "460", some "/opt/glslang", [("DEBUG", ""), ("QUALITY", "2")]⟩,
    ⟨[".vs"], [".tcs"], [".tes"], [".gs"], [".fs", ".frag.glsl"], [".cs"]⟩⟩

/-- A part of their JSON form: without the validator and most of the rest, in another order, and with keys that nobody
knows. -/
def tunedPart : Json :=
  .obj [("unknown", .null), ("fileExtensions", .obj [("fragmentShader", .arr [.str ".fs", .str ".frag.glsl"])]),
    ("diagnostics", .obj [("delay", .int 50), ("path", .bool true), ("enable", .bool false)])]

theorem tuned_decoded :
    tuned.Proper ∧ Part 2 tuned.toJson tunedPart ∧
      decode tunedPart = .ok ⟨⟨false, false, false, 50⟩, ⟨"", "", none, []⟩,
        ⟨[".vert"], [".tesc"], [".tese"], [".geom"], [".fs", ".frag.glsl"], [".comp"]⟩⟩ ∧
      decode tuned.toJson = .ok tuned := by
  have proper : tuned.Proper := ⟨by decide, List.pairwise_pair.2 (by decide)⟩
  have extensions : Part 1 tuned.extensions.toJson
      (.obj [("fragmentShader", .arr [.str ".fs", .str ".frag.glsl"])]) := by
    refine .members (by decide) ?_
    simp [tuned, StageExtensions.key, StageExtensions.of, Stage.all, get?_insert, part_zero_iff]
  have diagnostics : Part 1 tuned.diagnostics.toJson
      (.obj [("delay", .int 50), ("path", .bool true), ("enable", .bool false)]) := by
    refine .members (by decide) ?_
    simp [tuned, Json.nat, get?_insert, get?_nil, part_zero_iff]
  have part : Part 2 tuned.toJson tunedPart := by
    refine .members (by decide) ?_
    simp [get?_insert, get?_nil, extensions, diagnostics]
  obtain ⟨parts, whole⟩ := part_decoded proper
  exact ⟨proper, part, (parts _ part).1.trans (congrArg Except.ok (by decide +kernel)), whole⟩

end Settings

end ShaderDiagnostics
