import ShaderDiagnostics.Text.Utf8

/-!
# Output of the validator

The validator prints on two streams. Its report is what stands on the first one followed by what stands
on the second one, which starts on a line of its own.
-/

namespace ShaderDiagnostics.Host

/-- The report printed on two streams. -/
def report (out err : List UInt8) : List Char :=
  let first := Text.decodeLossy out
  if err.isEmpty then first
  else if first.isEmpty || first.getLast? == some '\n' then first ++ Text.decodeLossy err
  else first ++ '\n' :: Text.decodeLossy err

end ShaderDiagnostics.Host
