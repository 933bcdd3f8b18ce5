import ShaderDiagnostics.Path

/-!
# Shader stages

The stages of the graphics pipeline, the file extensions that tell which stage a document belongs to, and
the arguments by which the validator learns what to do. An extension is any text that a path may end with;
of several stages the first one with a fitting extension wins.
-/

namespace ShaderDiagnostics

/-- Stages of the pipeline. -/
inductive Stage where
  /-- Vertex shaders. -/
  | vertex
  /-- Tessellation control shaders. -/
  | tessellationControl
  /-- Tessellation evaluation shaders. -/
  | tessellationEvaluation
  /-- Geometry shaders. -/
  | geometry
  /-- Fragment shaders. -/
  | fragment
  /-- Compute shaders. -/
  | compute
  deriving DecidableEq, Repr

namespace Stage

/-- All stages, in the order in which they are tried. -/
def all : List Stage :=
  [vertex, tessellationControl, tessellationEvaluation, geometry, fragment, compute]

/-- The name by which the validator knows a stage. -/
def name : Stage → String
  | vertex => "vert"
  | tessellationControl => "tesc"
  | tessellationEvaluation => "tese"
  | geometry => "geom"
  | fragment => "frag"
  | compute => "comp"

/-- The stage of a name. -/
def ofName? (s : String) : Option Stage := all.find? fun stage => stage.name == s

theorem mem_all (stage : Stage) : stage ∈ all := by cases stage <;> decide

end Stage

/-- The extensions of each stage. -/
structure StageExtensions where
  /-- Extensions of vertex shaders. -/
  vertex : List String
  /-- Extensions of tessellation control shaders. -/
  tessellationControl : List String
  /-- Extensions of tessellation evaluation shaders. -/
  tessellationEvaluation : List String
  /-- Extensions of geometry shaders. -/
  geometry : List String
  /-- Extensions of fragment shaders. -/
  fragment : List String
  /-- Extensions of compute shaders. -/
  compute : List String
  deriving DecidableEq, Repr

namespace StageExtensions

/-- The default: each stage has its name as its only extension. -/
def standard : StageExtensions :=
  ⟨[".vert"], [".tesc"], [".tese"], [".geom"], [".frag"], [".comp"]⟩

/-- The extensions of a stage. -/
def of (e : StageExtensions) : Stage → List String
  | .vertex => e.vertex
  | .tessellationControl => e.tessellationControl
  | .tessellationEvaluation => e.tessellationEvaluation
  | .geometry => e.geometry
  | .fragment => e.fragment
  | .compute => e.compute

/-- Whether a path text ends with an extension; the empty extension fits nothing. -/
def fits (path : List Char) (extension : String) : Bool :=
  extension != "" && extension.toList.isSuffixOf path

/-- The stage of a path text. -/
def stageOf (e : StageExtensions) (path : List Char) : Option Stage :=
  Stage.all.find? fun stage => (e.of stage).any (fits path)

/-- The stage of a path. -/
def stageOfPath (e : StageExtensions) (p : Path) : Option Stage :=
  e.stageOf (Text.decodeLossy p.bytes)

/-- Adds an extension to a list, unless it is empty or already there. -/
def collect (known : List String) (extension : String) : List String :=
  if extension == "" || known.contains extension then known else known ++ [extension]

/-- All extensions in the order of stages, each once. -/
def distinct (e : StageExtensions) : List String :=
  (Stage.all.flatMap e.of).foldl collect []

end StageExtensions

/-- A macro passed to the validator. -/
def defineArgument (name value : String) : String :=
  if value == "" then "-D" ++ name else "-D" ++ name ++ "=" ++ value

/-- A flag with its value, unless the value is empty. -/
def flagArguments (flag value : String) : List String :=
  if value == "" then [] else [flag, value]

/-- The arguments of the validator; it reads the source from its input. -/
def validatorArguments (stage : Stage) (targetEnvironment version : String)
    (defines : List (String × String)) : List String :=
  ["--stdin", "-C", "-S", stage.name] ++ flagArguments "--target-env" targetEnvironment ++
    flagArguments "--glsl-version" version ++ defines.map fun d => defineArgument d.1 d.2

end ShaderDiagnostics
