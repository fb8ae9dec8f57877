import GatewayRouting.Cli.Arguments
import GatewayRouting.Cli.Table
import GatewayRouting.Config.Parse
import GatewayRouting.Log.Activity
import GatewayRouting.Log.Filter

/-!
# Runs of the program

A run reads the configuration, does what the command asks, and may write one file. It is split where
it meets the file system: `Invocation.start` takes what reading the configuration gave and ends with
a report, or with a file to write and the report for either outcome. Nothing is written, and nothing
is printed to standard output, unless everything before it succeeded.

* `Invocation.start` is a run up to its end or to the file it writes.
* `Report.stderrLines` are the lines for standard error: log events that pass the filter, and the
  failure.
-/

namespace GatewayRouting.Cli

open Log (Event)

/-! ## Files -/

/-- Why a file cannot be read or written. -/
inductive FileError where
  | notFound
  | noDevice
  | notDirectory
  | isDirectory
  | noSpace
  | nameTooLong
  | other (text : String)
deriving DecidableEq, Repr

/-- The wording of an error. -/
def FileError.message : FileError → String
  | .notFound => "No such file or directory (os error 2)"
  | .noDevice => "No such device or address (os error 6)"
  | .notDirectory => "Not a directory (os error 20)"
  | .isDirectory => "Is a directory (os error 21)"
  | .noSpace => "No space left on device (os error 28)"
  | .nameTooLong => "File name too long (os error 36)"
  | .other text => text

/-! ## Failures -/

/-- Why a run fails. -/
inductive RunError where
  | unreadable (fault : FileError)
  | config (fault : ConfigError)
  | gateway (fault : GatewayError)
  | unwritable (fault : FileError)
deriving DecidableEq, Repr

/-- The wording of a failure. -/
def RunError.message : RunError → String
  | .unreadable fault => "IO error: " ++ fault.message
  | .config fault => fault.message
  | .gateway fault => fault.message
  | .unwritable fault => fault.message

/-! ## Reports -/

/-- What a run says on standard error while it works: an event, or a text that was to be written to a
file that is standard error itself. -/
inductive Utterance where
  | event (e : Event)
  | text (t : String)
deriving DecidableEq, Repr

/-- The lines of a text; a line feed at its end starts no further line. -/
def textLines (t : String) : List String :=
  let lines := (t.toList.splitOn '\n').map String.ofList
  if lines.getLast? = some "" then lines.dropLast else lines

/-- The lines that show an utterance; an event has to pass the filter. -/
def Utterance.lines (filter : Log.Filter) : Utterance → List String
  | .event e => if filter.passes e then [e.line] else []
  | .text t => textLines t

/-- What a run leaves behind, files apart: the level of logging, which is not known before the
configuration has been read, what it says while it works, the text for standard output, and the
failure if there is one. -/
structure Report where
  logLevel : Option String
  utterances : List Utterance
  stdout : String
  failure : Option RunError
deriving DecidableEq, Repr

namespace Report

/-- The exit code of a run. -/
def exitCode (r : Report) : Nat :=
  if r.failure.isSome then 1 else 0

/-- The events of a run. -/
def events (r : Report) : List Event :=
  r.utterances.filterMap fun
    | .event e => some e
    | .text _ => none

/-- The lines of the log, given the filter of the environment: warnings about the filter, and what
the run says. There are none before the level of logging is known. -/
def logLines (r : Report) (environment : Option String) : List String :=
  match r.logLevel with
  | none => []
  | some level =>
    let (filter, warnings) := Log.Filter.choose environment level
    warnings ++ r.utterances.flatMap (·.lines filter)

/-- The lines for standard error. -/
def stderrLines (r : Report) (environment : Option String) : List String :=
  r.logLines environment ++ (r.failure.map fun e => "Error: " ++ e.message).toList

end Report

/-! ## Runs -/

/-- What appears on the standard streams in place of a file. -/
structure Printed where
  stdout : String := ""
  stderr : String := ""
deriving DecidableEq, Repr

/-- A run up to its end, or up to the file that it writes. -/
inductive Progress where
  | done (report : Report)
  | write (path text : String) (report : Except FileError Printed → Report)

/-- The line that sums up a compiled gateway. -/
def summary (g : Gateway) : String :=
  s!"OK: {g.routes.length} routes, {g.proxy.locationCount} locations, " ++
    s!"{g.proxy.maps.length} method maps\n"

/-- The command that compiles, behind the events of reading the configuration. -/
def runCompile (level : String) (before : List Event) (c : Config) (format : Format)
    (output : Option String) : Progress :=
  let said := (before ++ Log.compileEvents c).map Utterance.event
  match c.compile with
  | .error fault => .done ⟨some level, said, "", some (.gateway fault)⟩
  | .ok g =>
    let said := said ++ (Log.renderEvents g.proxy format c.server).map .event
    let text := g.proxy.render format c.server
    match output with
    | none => .done ⟨some level, said, text, none⟩
    | some path =>
      .write path text fun
        | .error fault => ⟨some level, said, "", some (.unwritable fault)⟩
        | .ok printed =>
          ⟨some level, said ++ [.text printed.stderr, .event (Log.writtenEvent path)],
            printed.stdout, none⟩

/-- The command that checks, behind the events of reading the configuration. -/
def runCheck (level : String) (before : List Event) (c : Config) : Report :=
  let said := (before ++ Log.compileEvents c).map Utterance.event
  match c.compile with
  | .error fault => ⟨some level, said, "", some (.gateway fault)⟩
  | .ok g => ⟨some level, said, summary g, none⟩

/-- The command of a run on the configuration that was read. -/
def Invocation.perform (i : Invocation) (c : Config) : Progress :=
  let level := i.logLevel.getD c.logLevel
  let before := [Log.loadedEvent i.config c]
  match i.command with
  | .compile format output => runCompile level before c format output
  | .check => .done (runCheck level before c)
  | .routes => .done ⟨some level, before.map .event, routesTable c, none⟩

/-- A run, given the text of the configuration file or the reason why it cannot be read. -/
def Invocation.start (i : Invocation) (content : Except FileError String) : Progress :=
  match content with
  | .error fault => .done ⟨none, [], "", some (.unreadable fault)⟩
  | .ok text =>
    match Config.parse text with
    | .error fault => .done ⟨none, [], "", some (.config fault)⟩
    | .ok c => i.perform c

end GatewayRouting.Cli
