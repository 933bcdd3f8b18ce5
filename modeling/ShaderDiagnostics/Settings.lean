import ShaderDiagnostics.Json.Decoder
import ShaderDiagnostics.Report.Entry
import ShaderDiagnostics.Stage

/-!
# Settings

What the user may set, with a default for every setting, how settings are read from JSON and written to
it, and what a change of settings means for results that are already known.
-/

namespace ShaderDiagnostics

open Json (RecordField RecordForm Decoder Fault)

/-- Settings of diagnostics. -/
structure DiagnosticSettings where
  /-- Whether the validator runs at all. -/
  enable : Bool
  /-- Whether whole lines are marked. -/
  wholeLine : Bool
  /-- Whether documents that are not open are validated too. -/
  workspace : Bool
  /-- How long to wait after a change before validating, in milliseconds. -/
  delay : Nat
  deriving DecidableEq, Repr

/-- Settings of the validator. -/
structure CompilerSettings where
  /-- The target environment, or empty. -/
  targetEnvironment : String
  /-- The language version, or empty. -/
  version : String
  /-- The validator, unless it is the default one. -/
  path : Option String
  /-- Macros by name, in ascending order. -/
  defines : List (String × String)
  deriving DecidableEq, Repr

/-- All settings. -/
structure Settings where
  /-- Settings of diagnostics. -/
  diagnostics : DiagnosticSettings
  /-- Settings of the validator. -/
  compiler : CompilerSettings
  /-- Which files belong to which stage. -/
  extensions : StageExtensions
  deriving DecidableEq, Repr

namespace DiagnosticSettings

/-- The defaults. -/
def standard : DiagnosticSettings := ⟨true, false, false, 300⟩

/-- The form of these settings. -/
def form : RecordForm DiagnosticSettings :=
  ⟨"DiagnosticsConfiguration",
    [.defaulted "enable" Decoder.bool fun b s => { s with enable := b },
      .defaulted "markTheWholeLine" Decoder.bool fun b s => { s with wholeLine := b },
      .defaulted "workspace" Decoder.bool fun b s => { s with workspace := b },
      .defaulted "delay" Decoder.u64 fun n s => { s with delay := n }],
    true⟩

/-- Reads these settings. -/
def decode : Decoder DiagnosticSettings := form.decode standard

/-- The settings as JSON. -/
def toJson (s : DiagnosticSettings) : Json :=
  Json.object [("enable", .bool s.enable), ("markTheWholeLine", .bool s.wholeLine),
    ("workspace", .bool s.workspace), ("delay", .nat s.delay)]

end DiagnosticSettings

namespace CompilerSettings

/-- The defaults. -/
def standard : CompilerSettings := ⟨"", "", none, []⟩

/-- The form of these settings. -/
def form : RecordForm CompilerSettings :=
  ⟨"CompilerConfiguration",
    [.defaulted "targetEnvironment" Decoder.string fun t s => { s with targetEnvironment := t },
      .defaulted "glslVersion" Decoder.string fun t s => { s with version := t },
      .defaulted "path" Decoder.string.optional fun t s => { s with path := t },
      .defaulted "defines" Decoder.string.map fun ds s => { s with defines := ds }],
    true⟩

/-- Reads these settings. -/
def decode : Decoder CompilerSettings := form.decode standard

/-- The settings as JSON. -/
def toJson (s : CompilerSettings) : Json :=
  Json.object [("targetEnvironment", .str s.targetEnvironment), ("glslVersion", .str s.version),
    ("path", .orNull (s.path.map Json.str)),
    ("defines", Json.object (s.defines.map fun d => (d.1, .str d.2)))]

end CompilerSettings

namespace StageExtensions

/-- The key of the extensions of a stage. -/
def key : Stage → String
  | .vertex => "vertexShader"
  | .tessellationControl => "tessellationControlShader"
  | .tessellationEvaluation => "tessellationEvaluationShader"
  | .geometry => "geometryShader"
  | .fragment => "fragmentShader"
  | .compute => "computeShader"

/-- Sets the extensions of a stage. -/
def set (stage : Stage) (list : List String) (e : StageExtensions) : StageExtensions :=
  match stage with
  | .vertex => { e with vertex := list }
  | .tessellationControl => { e with tessellationControl := list }
  | .tessellationEvaluation => { e with tessellationEvaluation := list }
  | .geometry => { e with geometry := list }
  | .fragment => { e with fragment := list }
  | .compute => { e with compute := list }

/-- The form of these settings. -/
def form : RecordForm StageExtensions :=
  ⟨"StageExtensions",
    Stage.all.map fun stage => .defaulted (key stage) Decoder.string.list (set stage), true⟩

/-- Reads these settings. -/
def decode : Decoder StageExtensions := form.decode standard

/-- The settings as JSON. -/
def toJson (e : StageExtensions) : Json :=
  Json.object (Stage.all.map fun stage => (key stage, .arr ((e.of stage).map Json.str)))

end StageExtensions

namespace Settings

/-- The defaults. -/
def standard : Settings :=
  ⟨DiagnosticSettings.standard, CompilerSettings.standard, StageExtensions.standard⟩

/-- The section of the editor's settings that holds ours. -/
def sectionName : String := "glslLanguageServer"

/-- The validator that runs unless another one is set. -/
def defaultValidator : String := "glslangValidator"

/-- The form of all settings. -/
def form : RecordForm Settings :=
  ⟨"Configuration",
    [.defaulted "diagnostics" DiagnosticSettings.decode fun d s => { s with diagnostics := d },
      .defaulted "compiler" CompilerSettings.decode fun c s => { s with compiler := c },
      .defaulted "fileExtensions" StageExtensions.decode fun e s => { s with extensions := e }],
    true⟩

/-- Reads settings; `null` stands for the defaults. -/
def decode : Decoder Settings
  | .null => .ok standard
  | j => form.decode standard j

/-- Reads our section of the editor's settings. -/
def decodeSection (settings : Json) : Except Fault Settings := decode (settings.get sectionName)

/-- The settings as JSON. -/
def toJson (s : Settings) : Json :=
  Json.object [("diagnostics", s.diagnostics.toJson), ("compiler", s.compiler.toJson),
    ("fileExtensions", s.extensions.toJson)]

/-- The name or path of the validator. -/
def validator (s : Settings) : String :=
  match s.compiler.path with
  | some p => if p == "" then defaultValidator else p
  | none => defaultValidator

/-- How diagnostics are marked. -/
def marking (s : Settings) : Report.Marking := ⟨s.diagnostics.wholeLine⟩

/-- The arguments of the validator for a stage. -/
def arguments (s : Settings) (stage : Stage) : List String :=
  validatorArguments stage s.compiler.targetEnvironment s.compiler.version s.compiler.defines

end Settings

/-- What differs between two settings. -/
structure SettingsChange where
  /-- Validation was switched on or off. -/
  enable : Bool
  /-- Results may differ. -/
  validation : Bool
  /-- Files may belong to other stages. -/
  extensions : Bool
  /-- The scope changed. -/
  workspace : Bool
  deriving DecidableEq, Repr

/-- Compares two settings. -/
def SettingsChange.between (old new : Settings) : SettingsChange :=
  let enable := old.diagnostics.enable != new.diagnostics.enable
  let extensions := old.extensions != new.extensions
  { enable
    extensions
    validation := enable || extensions ||
      old.diagnostics.wholeLine != new.diagnostics.wholeLine ||
      old.compiler.targetEnvironment != new.compiler.targetEnvironment ||
      old.compiler.version != new.compiler.version ||
      old.compiler.defines != new.compiler.defines ||
      old.validator != new.validator
    workspace := old.diagnostics.workspace != new.diagnostics.workspace }

/-- Whether known results become outdated. -/
def SettingsChange.bumps (c : SettingsChange) : Bool := c.validation

end ShaderDiagnostics
