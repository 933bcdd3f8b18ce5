import ShaderDiagnostics.ServiceError

/-!
# Hosts

The host is what the server lives in: it finds the validator, reads documents from disk and runs the
validator on a text. Reads and runs are calls: what a call will answer is settled when it starts, but the
answer may be held back until its gate opens. A run that fails because of what it found in the text is no
failure of the call; its output says so.
-/

namespace ShaderDiagnostics

/-- A run of the validator. -/
structure Invocation where
  /-- The validator. -/
  program : Path
  /-- Its arguments. -/
  arguments : List String
  /-- The text that it reads. -/
  input : List Char
  deriving DecidableEq, Repr

/-- A host, as it is at some moment. -/
structure Host where
  /-- Whether there is no way to run anything. -/
  embedded : Bool
  /-- Finds a validator by its name or path. -/
  resolve : String → Option Path
  /-- What a read that starts now will answer. -/
  read : Path → Except ServiceError (List Char)
  /-- What a run that starts now will answer. -/
  run : Invocation → Except ServiceError (List Char)
  /-- Whether reads that start now are held back. -/
  holdsReads : Bool
  /-- Whether runs that start now are held back. -/
  holdsRuns : Bool

namespace Host

/-- The host that can do nothing: every document on disk is empty, and there is no validator. -/
def none : Host where
  embedded := true
  resolve _ := .none
  read _ := .ok []
  run _ := .ok []
  holdsReads := false
  holdsRuns := false

end Host

/-- What a call will answer, and the gate that holds the answer back. -/
structure Pending (α : Type) where
  /-- The answer. -/
  outcome : Except ServiceError α
  /-- The gate, if there is one. -/
  gate : Option Nat

/-- Whether nothing holds the answer back, when the given gates are closed. -/
def Pending.isReady {α : Type} (p : Pending α) (closed : List Nat) : Bool :=
  !p.gate.any closed.contains

end ShaderDiagnostics
