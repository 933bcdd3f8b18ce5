import ShaderDiagnostics.Service.State

/-!
# Settings that agree

Results stay good when the settings change only in whether documents that are not open are validated, or
in the delay. Settings that differ in nothing else agree (`Settings.Agree`), and a change of the settings
counts as one that outdates results exactly if they do not (`bumps_between`). Under snapshots that agree a
document has the same stage and validator, the validator gets the same arguments, and its report is read
in the same way.
-/

namespace ShaderDiagnostics

/-- The settings lead to the same results. -/
structure Settings.Agree (a b : Settings) : Prop where
  enable : a.diagnostics.enable = b.diagnostics.enable
  wholeLine : a.diagnostics.wholeLine = b.diagnostics.wholeLine
  targetEnvironment : a.compiler.targetEnvironment = b.compiler.targetEnvironment
  version : a.compiler.version = b.compiler.version
  defines : a.compiler.defines = b.compiler.defines
  extensions : a.extensions = b.extensions
  validator : a.validator = b.validator

namespace Settings.Agree

variable {a b c : Settings}

theorem refl (a : Settings) : a.Agree a := ⟨rfl, rfl, rfl, rfl, rfl, rfl, rfl⟩

theorem symm (h : a.Agree b) : b.Agree a where
  enable := h.enable.symm
  wholeLine := h.wholeLine.symm
  targetEnvironment := h.targetEnvironment.symm
  version := h.version.symm
  defines := h.defines.symm
  extensions := h.extensions.symm
  validator := h.validator.symm

theorem trans (hab : a.Agree b) (hbc : b.Agree c) : a.Agree c where
  enable := hab.enable.trans hbc.enable
  wholeLine := hab.wholeLine.trans hbc.wholeLine
  targetEnvironment := hab.targetEnvironment.trans hbc.targetEnvironment
  version := hab.version.trans hbc.version
  defines := hab.defines.trans hbc.defines
  extensions := hab.extensions.trans hbc.extensions
  validator := hab.validator.trans hbc.validator

theorem arguments (h : a.Agree b) (stage : Stage) : a.arguments stage = b.arguments stage := by
  simp only [Settings.arguments, h.targetEnvironment, h.version, h.defines]

theorem marking (h : a.Agree b) : a.marking = b.marking := by
  simp only [Settings.marking, h.wholeLine]

end Settings.Agree

/-- A change of the settings outdates results exactly if the settings do not agree. -/
theorem SettingsChange.bumps_between {a b : Settings} :
    (SettingsChange.between a b).bumps = false ↔ a.Agree b := by
  simp only [SettingsChange.between, SettingsChange.bumps, Bool.or_eq_false_iff, bne_eq_false_iff_eq]
  constructor
  · rintro ⟨⟨⟨⟨⟨⟨enable, extensions⟩, wholeLine⟩, targetEnvironment⟩, version⟩, defines⟩, validator⟩
    exact ⟨enable, wholeLine, targetEnvironment, version, defines, extensions, validator⟩
  · intro h
    exact ⟨⟨⟨⟨⟨⟨h.enable, h.extensions⟩, h.wholeLine⟩, h.targetEnvironment⟩, h.version⟩, h.defines⟩,
      h.validator⟩

/-! ### Snapshots -/

/-- The stage of a path and the validator for it. -/
def Snapshot.means? (sn : Snapshot) (p : Path) : Option (Stage × Path) :=
  sn.validator.bind fun program =>
    (sn.settings.extensions.stageOfPath p).map fun stage => (stage, program)

/-- The snapshots lead to the same results. -/
structure Snapshot.Agree (a b : Snapshot) : Prop where
  settings : a.settings.Agree b.settings
  validator : a.validator = b.validator

theorem Snapshot.Agree.refl (sn : Snapshot) : sn.Agree sn := ⟨.refl _, rfl⟩

theorem Snapshot.Agree.symm {a b : Snapshot} (h : a.Agree b) : b.Agree a :=
  ⟨h.settings.symm, h.validator.symm⟩

theorem Snapshot.Agree.trans {a b c : Snapshot} (hab : a.Agree b) (hbc : b.Agree c) : a.Agree c :=
  ⟨hab.settings.trans hbc.settings, hab.validator.trans hbc.validator⟩

theorem Snapshot.Agree.means? {a b : Snapshot} (h : a.Agree b) (p : Path) :
    a.means? p = b.means? p := by
  simp only [Snapshot.means?, h.validator, h.settings.extensions]

end ShaderDiagnostics
