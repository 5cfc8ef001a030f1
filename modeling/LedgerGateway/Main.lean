import LedgerGateway.Program
import LedgerGateway.Service.Line

/-! The command line. The environment, the files and the standard streams are touched here only. -/

namespace LedgerGateway

/-- Answers every line of the input by a response. -/
partial def serveLines (config : GatewayConfig) (input output : IO.FS.Stream) (m : Metrics) :
    IO Unit := do
  let line ← input.getLine
  if line.isEmpty then return
  let (response, m) := Gateway.serveLine config line.trimAsciiEnd.toString m
  output.putStrLn response.text
  output.flush
  serveLines config input output m

def readFile? (path : String) : IO (Option Bytes) :=
  try return some (← IO.FS.readBinFile path).toList catch _ => return none

def Program.perform : Program → IO UInt32
  | .finish exitCode output complaint => do
    IO.print output
    unless complaint.isEmpty do IO.eprintln complaint
    return .ofNat exitCode
  | .load path next => do perform (next (← readFile? path))
  | .serve config => do
    serveLines config (← IO.getStdin) (← IO.getStdout) {}
    return 0

/-- The variables of the environment that may stand for arguments. -/
def environment : IO (String → Option String) := do
  let named ← CommandLine.Setting.all.mapM fun s => do
    return (s.environmentName, ← IO.getEnv s.environmentName)
  return fun name => ((named.find? fun v => v.1 == name).map Prod.snd).join

end LedgerGateway

def main (args : List String) : IO UInt32 := do
  (LedgerGateway.Program.start args (← LedgerGateway.environment)).perform
