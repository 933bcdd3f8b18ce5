import ShaderDiagnostics.Service.State

/-!
# Usage

A summary of how the service is used, for telemetry.
-/

namespace ShaderDiagnostics.Service

open Number (Binary64)

/-- The mean of some numbers, zero if there are none. -/
def mean (ns : List Nat) : Binary64 :=
  if ns.isEmpty then .ofFloat 0 else .ofFloat (Float.ofNat (ns.foldl (· + ·) 0) / Float.ofNat ns.length)

/-- The lengths of the documents whose text is known. -/
def lengths (s : Service) : List Nat :=
  s.registry.all.filterMap fun id => (s.registry.record? id).bind fun r => r.length? s.editor

/-- How the service is used. -/
def usage (s : Service) : Usage where
  documents := s.registry.known.size
  averageLength := mean s.lengths
  enabled := s.settings.diagnostics.enable
  workspace := s.settings.diagnostics.workspace
  wholeLine := s.settings.diagnostics.wholeLine
  targetEnvironment := s.settings.compiler.targetEnvironment
  version := s.settings.compiler.version
  validatorAvailable := s.validator.isSome
  validations := s.measurements.count.toNat
  averageTime := .ofFloat (Float.ofNat s.measurements.average.toNat / 1000)

end ShaderDiagnostics.Service
