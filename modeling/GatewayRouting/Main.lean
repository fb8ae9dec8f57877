import GatewayRouting.Cli.Run

/-!
# The program

Binds runs to the file system, the environment and the standard streams.
-/

namespace GatewayRouting

open Cli

/-- The reason behind a failed access to a file. -/
def fileError : IO.Error → FileError
  | .noFileOrDirectory .. => .notFound
  | .inappropriateType _ code _ => if code = 21 then .isDirectory else .notDirectory
  | .resourceExhausted .. => .noSpace
  | .invalidArgument _ _ "name too long" => .nameTooLong
  | e => .other (toString e)

/-- Reads a file. -/
def readText (path : String) : IO (Except FileError String) := do
  match ← (IO.FS.readFile path).toBaseIO with
  | .ok text => return .ok text
  | .error e => return .error (fileError e)

/-- Writes a file. -/
def writeText (path text : String) : IO (Except FileError Printed) := do
  let write := IO.FS.withFile path .write fun file => do
    file.putStr text
    file.flush
  match ← write.toBaseIO with
  | .ok () => return .ok {}
  | .error e => return .error (fileError e)

/-- Does what is left of a run. -/
def complete : Progress → IO Report
  | .done report => return report
  | .write path text report => return report (← writeText path text)

/-- How the program is used. -/
def usageText : String :=
  "Usage: faas-gateway [--config <path>] [--log-level <level>] <compile|check|routes>\n"

end GatewayRouting

open GatewayRouting Cli in
/-- Runs the program and gives its exit code. -/
def main (args : List String) : IO UInt32 := do
  match Invocation.parse args with
  | .error .help =>
    IO.print usageText
    return 0
  | .error .usage =>
    IO.eprint usageText
    return 2
  | .ok i =>
    let report ← complete (i.start (← readText i.config))
    for line in report.stderrLines (← IO.getEnv "RUST_LOG") do
      IO.eprintln line
    IO.print report.stdout
    return UInt32.ofNat report.exitCode
