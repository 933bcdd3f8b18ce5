import ShaderDiagnostics.CommandLine
import ShaderDiagnostics.Connection
import ShaderDiagnostics.Json.Reader
import ShaderDiagnostics.Message.Frame

/-!
# The program

Prints what is asked for on the command line or serves an editor on the standard streams. The program
itself starts no other programs and opens no files: it serves the editor on the machine of `Desktop`, with
what the programs there print in place of a validator.
-/

namespace ShaderDiagnostics.Program

/-- Reads the lines of a header; without a header left, the input has ended. -/
partial def readHeader (input : IO.FS.Stream) : IO (Option (List Frame.HeaderLine)) := do
  let line ← input.getLine
  if line.isEmpty then return none
  match Frame.HeaderLine.ofText? line.toList with
  | none => throw (IO.userError "malformed header")
  | some .blank => return some []
  | some h => return (← readHeader input).map (h :: ·)

/-- Reads so many bytes, or fewer if the input ends. -/
partial def readBytes (input : IO.FS.Stream) (count : Nat) : IO (List UInt8) := do
  if count = 0 then return []
  let bytes ← input.read (USize.ofNat count)
  if bytes.isEmpty then return []
  return bytes.toList ++ (← readBytes input (count - bytes.size))

/-- Reads a message; without a message left, the input has ended. -/
def readMessage (input : IO.FS.Stream) : IO (Option Json) := do
  match ← readHeader input with
  | none => return none
  | some header =>
    match Frame.lengthOf? header with
    | none => throw (IO.userError "no length")
    | some length =>
      match (Text.decode? (← readBytes input length)).bind fun s => Json.read (String.ofList s) with
      | some j => return some j
      | none => throw (IO.userError "malformed message")

/-- Sends the messages that wait. -/
def flush (output : IO.FS.Stream) (c : Connection) : IO Connection := do
  let (c, messages) := c.takeAll
  for m in messages do
    output.putStr (Frame.render m.toJson)
  output.flush
  return c

/-- Handles messages until the connection ends; `last` is the time of the last one in milliseconds. -/
partial def serve (input output : IO.FS.Stream) (last : Nat) (c : Connection) : IO Connection := do
  if c.isOver then return c
  match ← readMessage input with
  | none => flush output c.hangUp
  | some j =>
    let now ← IO.monoMsNow
    serve input output now (← flush output ((c.elapse (now - last)).receiveJson j))

/-- Does what is asked for. -/
def perform (command : Command) : IO UInt32 := do
  match command.text?, command with
  | some text, _ =>
    (← IO.getStdout).putStr text
    return 0
  | none, command =>
    let c := Connection.start command.host
    match (← serve (← IO.getStdin) (← IO.getStdout) (← IO.monoMsNow) c).fault? with
    | none => return 0
    | some fault =>
      (← IO.getStderr).putStrLn fault.message
      return 1

end ShaderDiagnostics.Program

/-- The program. -/
def main (arguments : List String) : IO UInt32 :=
  ShaderDiagnostics.Program.perform (ShaderDiagnostics.Command.ofArguments arguments)
