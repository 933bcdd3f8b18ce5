import ShaderDiagnostics.Text.Decimal
import ShaderDiagnostics.Text.Utf8

/-!
# Scripts in place of validators

What small shell scripts print when they are run in place of a validator, to see how the output of a
process becomes a report. A script is a list of commands between semicolons or line breaks, which may be
joined by `&&`, `||` and pipes. The commands are those that pass input on, all of it or one end, print
texts, count, or end the script. Words may be quoted, and output may be redirected to either stream or to
nowhere.
-/

namespace ShaderDiagnostics.Shell

/-! ### Words -/

/-- Parts of a script. -/
inductive Token where
  /-- A word. -/
  | word (s : List Char)
  /-- What stands between words: separators and redirections. -/
  | operator (s : String)
  deriving DecidableEq, Repr

/-- The operators, longer ones first. -/
def operators : List String :=
  ["2>&1", "1>&2", "2>>", "1>>", "2>", "1>", ">&2", ">&1", ">>", ">", "&&", "||", ";", "|", "<", "\n"]

/-- The number of the process, which no output depends on. -/
def processNumber : List Char := ['1']

/-- Ends the word read so far, latest character first, if there is one. -/
def close (word : Option (List Char)) (tokens : List Token) : List Token :=
  match word with
  | some s => .word s.reverse :: tokens
  | none => tokens

/-- Adds characters to the word read so far. -/
def grow (word : Option (List Char)) (s : List Char) : Option (List Char) :=
  some (s.reverse ++ word.getD [])

/-- The operator at the start of a text; one that starts with a digit is none inside of a word. -/
def operatorAt? (inWord : Bool) (s : List Char) : Option String :=
  operators.find? fun o =>
    o.toList.isPrefixOf s && !(inWord && (o.toList.head?.any Char.isDigit))

/-- Where a reader of words is: outside of quotes or inside of single or double ones. -/
inductive Quoting where
  /-- Outside. -/
  | plain
  /-- Inside of single quotes. -/
  | single
  /-- Inside of double quotes. -/
  | double

/-- The parts of a script, with those read so far, latest first. -/
def tokens (fuel : Nat) (q : Quoting) (word : Option (List Char)) (done : List Token)
    (s : List Char) : List Token :=
  match fuel, q, s with
  | 0, _, _ => (close word done).reverse
  | _ + 1, _, [] => (close word done).reverse
  | n + 1, .single, c :: rest =>
    if c == '\'' then tokens n .plain word done rest else tokens n .single (grow word [c]) done rest
  | n + 1, .double, '$' :: '$' :: rest => tokens n .double (grow word processNumber) done rest
  | n + 1, .double, '\\' :: c :: rest =>
    if c == '"' || c == '\\' || c == '$' then tokens n .double (grow word [c]) done rest
    else tokens n .double (grow word ['\\', c]) done rest
  | n + 1, .double, c :: rest =>
    if c == '"' then tokens n .plain word done rest else tokens n .double (grow word [c]) done rest
  | n + 1, .plain, '$' :: '$' :: rest => tokens n .plain (grow word processNumber) done rest
  | n + 1, .plain, '\\' :: c :: rest => tokens n .plain (grow word [c]) done rest
  | n + 1, .plain, c :: rest =>
    if c == '\'' then tokens n .single (grow word []) done rest
    else if c == '"' then tokens n .double (grow word []) done rest
    else if c == ' ' || c == '\t' then tokens n .plain none (close word done) rest
    else
      match operatorAt? word.isSome (c :: rest) with
      | some o =>
        tokens n .plain none (.operator o :: close word done) ((c :: rest).drop o.length)
      | none => tokens n .plain (grow word [c]) done rest

/-! ### Commands -/

/-- Where output goes. -/
inductive Sink where
  /-- To the first stream. -/
  | first
  /-- To the second stream. -/
  | second
  /-- Nowhere. -/
  | nowhere

/-- What a command works on. -/
structure Streams where
  /-- The input that has not been read. -/
  input : List UInt8
  /-- What has been printed on the first stream. -/
  out : List UInt8
  /-- What has been printed on the second stream. -/
  err : List UInt8
  /-- Whether the last command failed. -/
  failed : Bool
  /-- Whether the script has ended. -/
  finished : Bool

/-- Prints some bytes. -/
def Streams.print (s : Streams) (sink : Sink) (bytes : List UInt8) : Streams :=
  match sink with
  | .first => { s with out := s.out ++ bytes }
  | .second => { s with err := s.err ++ bytes }
  | .nowhere => s

/-- An octal digit. -/
def isOctal (c : Char) : Bool := '0' ≤ c && c ≤ '7'

/-- The character that a letter after a backslash stands for. -/
def escaped? : Char → Option Char
  | 'n' => some '\n'
  | 't' => some '\t'
  | 'r' => some '\r'
  | 'a' => some '\x07'
  | 'b' => some '\x08'
  | 'f' => some '\x0c'
  | 'v' => some '\x0b'
  | '\\' => some '\\'
  | _ => none

/-- The byte of up to three octal digits, and what follows them. -/
def octal (s : List Char) : UInt8 × List Char :=
  let digits := (s.take 3).takeWhile isOctal
  (UInt8.ofNat (digits.foldl (fun k (d : Char) => 8 * k + (d.toNat - 48)) 0), s.drop digits.length)

/-- The bytes of a format with its arguments, and the arguments it did not use. -/
def formatted : Nat → List Char → List (List Char) → List UInt8 × List (List Char)
  | 0, _, arguments => ([], arguments)
  | _ + 1, [], arguments => ([], arguments)
  | n + 1, '\\' :: c :: rest, arguments =>
    let (bytes, rest) :=
      if isOctal c then
        let (byte, rest) := octal (c :: rest)
        ([byte], rest)
      else
        match escaped? c with
        | some e => (Text.encodeChar e, rest)
        | none => (Text.encode ['\\', c], rest)
    let (more, arguments) := formatted n rest arguments
    (bytes ++ more, arguments)
  | n + 1, '%' :: c :: rest, arguments =>
    let (bytes, arguments) :=
      if c == '%' then ([37], arguments)
      else if c == 's' || c == 'd' then (Text.encode (arguments.headD []), arguments.drop 1)
      else (Text.encode ['%', c], arguments)
    let (more, arguments) := formatted n rest arguments
    (bytes ++ more, arguments)
  | n + 1, c :: rest, arguments =>
    let (more, arguments) := formatted n rest arguments
    (Text.encodeChar c ++ more, arguments)

/-- The bytes of a format, which is used again as long as it uses up arguments. -/
def formattedAll (format : List Char) : Nat → List (List Char) → List UInt8
  | 0, _ => []
  | n + 1, arguments =>
    let (bytes, left) := formatted (format.length + 1) format arguments
    if left.isEmpty || left.length == arguments.length then bytes
    else bytes ++ formattedAll format n left

/-- The bytes of a text to be echoed, in which a backslash may stand before a letter. -/
def echoed : List Char → List UInt8
  | [] => []
  | '\\' :: c :: rest =>
    match escaped? c with
    | some e => Text.encodeChar e ++ echoed rest
    | none => Text.encode ['\\', c] ++ echoed rest
  | c :: rest => Text.encodeChar c ++ echoed rest

/-- Words between spaces. -/
def spaced : List (List Char) → List Char
  | [] => []
  | [w] => w
  | w :: rest => w ++ ' ' :: spaced rest

/-- Counts what a word asks for in some bytes. -/
def count (what : String) (bytes : List UInt8) : Nat :=
  if what == "-l" then bytes.count 10 else bytes.length

/-- Lines, each with the line break that ends it. -/
def byteLines : List UInt8 → List UInt8 → List (List UInt8)
  | [], [] => []
  | line, [] => [line.reverse]
  | line, b :: rest =>
    if b == 10 then (b :: line).reverse :: byteLines [] rest else byteLines (b :: line) rest

/-- How much of its input a command passes on. -/
inductive Amount where
  /-- So many bytes. -/
  | bytes (n : Nat)
  /-- So many lines. -/
  | lines (n : Nat)

/-- The number that digits stand for; no digits stand for zero. -/
def number (s : List Char) : Nat :=
  (s.takeWhile Char.isDigit).foldl (fun n (d : Char) => 10 * n + (d.toNat - 48)) 0

/-- How much the options of a command ask for: ten lines if they do not say. -/
def Amount.ofArguments : List (List Char) → Amount
  | ['-', 'c'] :: n :: _ => .bytes (number n)
  | ['-', 'n'] :: n :: _ => .lines (number n)
  | ('-' :: 'c' :: n) :: _ => .bytes (number n)
  | ('-' :: 'n' :: n) :: _ => .lines (number n)
  | ('-' :: n) :: _ => .lines (number n)
  | _ => .lines 10

/-- The first bytes or lines. -/
def Amount.first (a : Amount) (bytes : List UInt8) : List UInt8 :=
  match a with
  | .bytes n => bytes.take n
  | .lines n => ((byteLines [] bytes).take n).flatten

/-- The last bytes or lines. -/
def Amount.last (a : Amount) (bytes : List UInt8) : List UInt8 :=
  match a with
  | .bytes n => bytes.drop (bytes.length - n)
  | .lines n =>
    let lines := byteLines [] bytes
    (lines.drop (lines.length - n)).flatten

/-- Prints that a command failed. -/
def Streams.complain (s : Streams) (err : Sink) (message : List Char) : Streams :=
  { s with failed := true }.print err (Text.encode (message ++ ['\n']))

/-- Passes the input on, or files in its place, of which only the empty one is there. -/
def Streams.copy (s : Streams) (out err : Sink) (files : List (List Char)) : Streams :=
  files.foldl (fun s file =>
    match String.ofList file with
    | "-" => { s.print out s.input with input := [] }
    | "/dev/stdin" => { s.print out s.input with input := [] }
    | "/dev/null" => s
    | _ => s.complain err ("cat: ".toList ++ file ++ ": No such file or directory".toList)) s

/-- Runs one command with its output going to the given places. -/
def Streams.command (s : Streams) (out err : Sink) : List (List Char) → Streams
  | [] => { s with failed := false }
  | name :: arguments =>
    let s := { s with failed := false }
    match String.ofList name with
    | "cat" => s.copy out err (if arguments.isEmpty then [['-']] else arguments)
    | "head" =>
      let amount := Amount.ofArguments arguments
      let left :=
        match amount with
        | .bytes n => s.input.drop n
        | .lines _ => []
      { s.print out (amount.first s.input) with input := left }
    | "tail" => { s.print out ((Amount.ofArguments arguments).last s.input) with input := [] }
    | "true" => s
    | ":" => s
    | "sleep" => s
    | "false" => { s with failed := true }
    | "echo" =>
      match arguments with
      | ['-', 'n'] :: arguments => s.print out (echoed (spaced arguments))
      | arguments => s.print out (echoed (spaced arguments) ++ [10])
    | "printf" =>
      match arguments with
      | format :: arguments => s.print out (formattedAll format (arguments.length + 1) arguments)
      | [] => { s with failed := true }
    | "wc" =>
      let what := String.ofList (arguments.headD [])
      { s.print out (Text.encode (Text.natText (count what s.input) ++ ['\n'])) with input := [] }
    | "exec" =>
      if arguments.isEmpty then s else { s.command out err arguments with finished := true }
    | "exit" => { s with finished := true }
    | "kill" => { s with finished := true }
    | _ => s.complain err ("sh: 1: ".toList ++ name ++ ": not found".toList)

/-- A command with its redirections, read from the parts of a script. -/
structure Command where
  /-- The words. -/
  words : List (List Char)
  /-- Where its first stream goes. -/
  out : Sink
  /-- Where its second stream goes. -/
  err : Sink

/-- Takes a command apart into words and redirections. -/
def Command.ofTokens (c : Command) : List Token → Command
  | [] => c
  | .word w :: rest => Command.ofTokens { c with words := c.words ++ [w] } rest
  | .operator o :: rest =>
    match o with
    | ">&2" => Command.ofTokens { c with out := c.err } rest
    | "1>&2" => Command.ofTokens { c with out := c.err } rest
    | "2>&1" => Command.ofTokens { c with err := c.out } rest
    | ">&1" => Command.ofTokens c rest
    | o =>
      let target :=
        match rest with
        | .word w :: _ => String.ofList w
        | _ => ""
      let sink : Sink :=
        if target == "/dev/stdout" then .first else if target == "/dev/stderr" then .second else .nowhere
      let c :=
        if o.startsWith "2" then { c with err := sink }
        else if o == "<" then c
        else { c with out := sink }
      match rest with
      | .word _ :: rest => Command.ofTokens c rest
      | rest => Command.ofTokens c rest

/-- Splits parts at the operators that satisfy a test, each part with the operator before it. -/
def splitBefore (isSplit : String → Bool) (first : String) : List Token → List (String × List Token)
  | [] => [(first, [])]
  | .operator o :: rest =>
    if isSplit o then (first, []) :: splitBefore isSplit o rest
    else
      match splitBefore isSplit first rest with
      | [] => [(first, [.operator o])]
      | (f, part) :: parts => (f, .operator o :: part) :: parts
  | .word w :: rest =>
    match splitBefore isSplit first rest with
    | [] => [(first, [.word w])]
    | (f, part) :: parts => (f, .word w :: part) :: parts

/-- Runs commands of which each but the first reads what the one before it prints. -/
def Streams.pipeline (s : Streams) : List (List Token) → Streams
  | [] => s
  | [part] =>
    let c := Command.ofTokens ⟨[], .first, .second⟩ part
    s.command c.out c.err c.words
  | part :: rest =>
    let c := Command.ofTokens ⟨[], .first, .second⟩ part
    let first := { s with out := [] }.command c.out c.err c.words
    let after := Streams.pipeline { first with input := first.out, out := s.out, finished := false } rest
    { after with input := first.input, finished := false }

/-- Runs the parts of a script one after another. -/
def Streams.run (s : Streams) : List (String × List Token) → Streams
  | [] => s
  | (joint, part) :: rest =>
    let skipped := s.finished || (joint == "&&" && s.failed) || (joint == "||" && !s.failed)
    let s := if skipped then s else s.pipeline ((splitBefore (· == "|") "" part).map (·.2))
    s.run rest

/-- What a script prints on its two streams, for an input. -/
def printed (script : List Char) (input : List UInt8) : List UInt8 × List UInt8 :=
  let parts := tokens (script.length + 1) .plain none [] script
  let isJoint (o : String) : Bool := o == ";" || o == "&&" || o == "||" || o == "\n"
  let s := Streams.run ⟨input, [], [], false, false⟩ (splitBefore isJoint ";" parts)
  (s.out, s.err)

end ShaderDiagnostics.Shell
