import LedgerGateway.CommandLine
import LedgerGateway.Config.Format

/-! What the program does with its command line, up to the files that it reads. -/

namespace LedgerGateway

/-- The program ends, or needs the content of a file to go on, or serves with a configuration. -/
inductive Program where
  | finish (exitCode : Nat) (output complaint : String)
  | load (path : String) (next : Option Bytes → Program)
  | serve (config : GatewayConfig)

namespace Program

def fail (complaint : String) : Program := .finish 1 "" complaint

def versionText : String :=
  Release.name ++ " " ++ Release.version ++ "\nrosetta               " ++ Release.interface ++ "\n"

def checkConfig (content : Option Bytes) : Program :=
  match GatewayConfig.load content >>= GatewayConfig.toToml with
  | .ok text => .finish 0 text ""
  | .error e => fail e.message

/-- The port of the command line replaces that of the configuration, which is then checked again. -/
def run (port : Option UInt16) (config : Except ConfigError GatewayConfig) : Program :=
  let ready := do
    let c ← config
    let server := { c.server with port := port.getD c.server.port }
    ({ c with server } : GatewayConfig).validate
  match ready with
  | .ok c => .serve c
  | .error e => fail e.message

/-- Begins with the arguments after the name of the program. -/
def start (args : List String) (environment : String → Option String) : Program :=
  match CommandLine.read args environment with
  | .error stop => .finish stop.exitCode stop.output ""
  | .ok .version => .finish 0 versionText ""
  | .ok (.checkConfig path) => .load path checkConfig
  | .ok (.run none port _) => run port (.ok {})
  | .ok (.run (some path) port _) => .load path fun content => run port (GatewayConfig.load content)

end Program

end LedgerGateway
