import ShaderDiagnostics.Host.Basic
import ShaderDiagnostics.Host.Shell
import ShaderDiagnostics.Host.Streams

/-!
# A desktop machine

A small picture of an ordinary machine: which programs it has, what those print that may stand in for a
validator, and what the system says when a program does not start or a document cannot be read. It is the
host that the program serves an editor with, as it starts no other programs itself.
-/

namespace ShaderDiagnostics.Desktop

/-- What the system says about a file that is not there. -/
def noSuchFile : String := "No such file or directory (os error 2)"

/-- What the system says about a file that may not be used like this. -/
def permissionDenied : String := "Permission denied (os error 13)"

/-- What the system says about a file that is no directory but should be one. -/
def notADirectory : String := "Not a directory (os error 20)"

/-- What the system says about bytes that are no text. -/
def notText : String := "stream did not contain valid UTF-8"

/-- What the system says about texts that it could not pass on. -/
def hasNul : String := "nul byte found in provided data"

/-- The programs of the machine. -/
def programs : List String :=
  ["sh", "bash", "dash", "cat", "echo", "printf", "ls", "env", "true", "false", "test", "wc", "head",
    "tail", "sort", "cp", "mv", "rm", "mkdir", "touch", "sleep", "kill", "grep", "sed", "awk", "tr",
    "cut", "uniq", "date", "id", "ps", "tee", "yes", "find", "xargs", "pwd", "uname", "chmod"]

/-- The directories of its programs. -/
def programFolders : List String := ["/bin/", "/usr/bin/"]

/-- The directories that are sure to be there. -/
def folders : List String :=
  ["/", "/bin", "/dev", "/etc", "/home", "/lib", "/opt", "/proc", "/root", "/run", "/sbin", "/srv",
    "/sys", "/tmp", "/usr", "/usr/bin", "/usr/lib", "/usr/local", "/usr/share", "/var", ".", "..", "./",
    "../"]

/-- Files that are sure to be there and are no programs. -/
def files : List String :=
  ["/etc/passwd", "/etc/hosts", "/etc/hostname", "/etc/group", "/etc/resolv.conf", "/dev/null"]

/-- The name of a program without its directory. -/
def baseName? (name : String) : Option String :=
  programFolders.findSome? fun folder =>
    if folder.isPrefixOf name then some (String.ofList (name.toList.drop folder.length)) else none

/-- The program that a name or path stands for, if the machine has it. -/
def program? (name : String) : Option String :=
  if programs.contains name then some name
  else (baseName? name).filter programs.contains

/-- Whether a validator of that name or path is found. -/
def finds (name : String) : Bool := (program? name).isSome

/-- Why a program does not start that the machine does not have. -/
def startFault (name : String) : String :=
  if name.toList.contains '\x00' then hasNul
  else if folders.contains name || files.contains name then permissionDenied
  else if files.any fun file => (file ++ "/").isPrefixOf name then notADirectory
  else noSuchFile

/-- What a program prints on its two streams, for some input. -/
def printed (program : String) (arguments : List String) (input : List UInt8) :
    List UInt8 × List UInt8 :=
  if program == "sh" || program == "bash" || program == "dash" then
    match arguments with
    | "-c" :: script :: _ => Shell.printed script.toList input
    | [] => Shell.printed (Text.decodeLossy input) []
    | _ => ([], [])
  else
    let s := Shell.Streams.command ⟨input, [], [], false, false⟩ .first .second
      (program.toList :: arguments.map String.toList)
    (s.out, s.err)

/-- Runs a program as a validator. -/
def run (i : Invocation) : Except ServiceError (List Char) :=
  match program? i.program.text with
  | none => .error (.spawnValidator i.program (startFault i.program.text))
  | some program =>
    if i.arguments.any fun a => a.toList.contains '\x00' then .error (.spawnValidator i.program hasNul)
    else
      let (out, err) := printed program i.arguments (Text.encode i.input)
      .ok (Host.report out err)

/-- Reads a document whose bytes are these, if it is there. -/
def read (p : Path) (bytes : Option (List UInt8)) : Except ServiceError (List Char) :=
  match bytes with
  | none => .error (.readDocument p noSuchFile)
  | some bytes =>
    match Text.decode? bytes with
    | some text => .ok text
    | none => .error (.readDocument p notText)

/-- The machine as a host, with no documents on its disk. -/
def host : Host where
  embedded := false
  resolve name := if finds name then some (Path.ofString name) else none
  read p := Desktop.read p none
  run := Desktop.run
  holdsReads := false
  holdsRuns := false

end ShaderDiagnostics.Desktop
