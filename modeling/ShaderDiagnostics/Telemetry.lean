import ShaderDiagnostics.Message.Outgoing
import ShaderDiagnostics.Redaction
import ShaderDiagnostics.ServiceError

/-!
# Telemetry

How long the validator takes, and errors told to the editor without the paths in them.
-/

namespace ShaderDiagnostics

/-- How often the validator has run and how long it took altogether, in microseconds. -/
structure Measurements where
  /-- The number of runs. -/
  count : UInt64
  /-- The microseconds. -/
  micros : UInt64
  deriving DecidableEq, Repr

namespace Measurements

/-- Nothing measured yet. -/
def none : Measurements := ⟨0, 0⟩

/-- Counts a run that took so many nanoseconds. -/
def add (m : Measurements) (nanos : Nat) : Measurements :=
  ⟨m.count + 1, m.micros + UInt64.ofNat (nanos / 1000)⟩

/-- The mean time of a run in whole microseconds, zero before the first one. -/
def average (m : Measurements) : UInt64 := if m.count == 0 then 0 else m.micros / m.count

end Measurements

/-- The notice of an error: where it surfaced, and its causes without the paths in them. -/
def ServiceError.notice (e : ServiceError) (name : String) : Notice :=
  .trouble name (Redaction.redactString e.chain)

end ShaderDiagnostics
