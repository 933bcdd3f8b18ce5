import ShaderDiagnostics.Host.Desktop

/-!
# The command line

What the server is started with: it tells its version or how it is used, or it serves an editor.
-/

namespace ShaderDiagnostics

/-- What is asked for on the command line. -/
inductive Command where
  /-- The version. -/
  | version
  /-- How the server is used. -/
  | help
  /-- To serve an editor, perhaps without a host to run anything. -/
  | serve (embedded : Bool)
  deriving DecidableEq, Repr

namespace Command

/-- What is asked for by some arguments; those that mean nothing do not matter. -/
def ofArguments (arguments : List String) : Command :=
  if arguments.any fun a => a == "--version" || a == "-V" then .version
  else if arguments.any fun a => a == "--help" || a == "-h" then .help
  else .serve (arguments.contains "--embedded")

/-- The lines about how the server is used. -/
def helpLines : List String :=
  ["GLSL Language Server", "", "Usage: glsl-lsp [OPTIONS]", "", "Options:",
    "      --embedded  Never read files or run glslangValidator", "  -h, --help      Print help",
    "  -V, --version   Print version", "",
    "The server communicates via stdio using the Language Server Protocol.", "",
    "Environment variables:", "  RUST_LOG        Set log level (e.g., RUST_LOG=glsl_lsp=debug)"]

/-- The host that an editor is served with. -/
def host : Command → Host
  | .serve true => Host.none
  | _ => Desktop.host

/-- What is printed, unless an editor is served. -/
def text? : Command → Option String
  | .version => some "glsl-lsp 0.1.0\n"
  | .help => some (String.join (helpLines.map fun line => line ++ "\n"))
  | .serve _ => none

end Command

end ShaderDiagnostics
