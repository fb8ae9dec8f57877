import GatewayRouting.Cli.Run
import GatewayRouting.Entries

/-!
# Runs in a directory

A directory of folders, text files and devices by name, and runs of the program inside it. A path is
followed step by step, from the directory or from the root of the file system, and every step but the
last has to lead to a folder.

* `WorkingDirectory.place` is what a path leads to.
* `WorkingDirectory.run` is the run of a command line, with the directory afterwards.
-/

namespace GatewayRouting.Cli

/-! ## Directories -/

/-- What stands behind the name of a device. -/
inductive Device where
  /-- Takes any text and gives none. -/
  | null
  /-- Takes no text, for it has no room. -/
  | full
  /-- Is not there, although its name is. -/
  | absent
  /-- The standard output of the run. -/
  | standardOutput
  /-- The standard error of the run. -/
  | standardError
deriving DecidableEq, Repr

/-- What a name stands for. -/
inductive Entry where
  | folder
  | file (text : String)
  | device (d : Device)
deriving DecidableEq, Repr

/-- A directory with what is around it. A name is a path from the directory, with single slashes between
folders; what is outside is named by its way up, or by its absolute path. The folders on the way to an
entry are there as well. -/
structure WorkingDirectory where
  names : NameTable Entry
deriving DecidableEq, Repr

/-- What a path leads to. -/
inductive Place where
  | folder
  | file (name text : String)
  | device (d : Device)
  /-- There is no such file, but there may be one. -/
  | free (name : String)
  /-- The last step is longer than any name of a file. -/
  | overlong
  /-- Some step leads nowhere. -/
  | unreachable (fault : FileError)
deriving DecidableEq, Repr

/-! ## Paths -/

/-- The longest name of a file, in bytes. -/
def maxNameSize : Nat := 255

/-- The longest path, in bytes. -/
def maxPathSize : Nat := 4095

/-- The name of what is reached by the given steps. An absolute path starts with an empty step. -/
def nameOf (steps : List String) : String :=
  "/".intercalate steps

/-- The steps to the folder above. The root is above itself. -/
def stepUp (steps : List String) : List String :=
  match steps.getLast? with
  | none => [".."]
  | some ".." => steps ++ [".."]
  | some "" => steps
  | some _ => steps.dropLast

/-- The steps of a path: slashes part them, and several count as one. -/
def stepsOf (path : String) : List String :=
  ((path.toList.splitOn '/').filter (!·.isEmpty)).map String.ofList

/-- A path that starts with a slash leads from the root. -/
def isAbsolute (path : String) : Bool :=
  path.toList.head? = some '/'

/-- A path that ends in a slash can only lead to a folder. -/
def endsInSlash (path : String) : Bool :=
  path.toList.getLast? = some '/'

namespace WorkingDirectory

/-- The directory with the given files, of which the last one for a name counts. -/
def ofList (files : List (String × String)) : WorkingDirectory :=
  ⟨.ofList (files.map fun f => (f.1, .file f.2))⟩

/-- The directory with the text of a file set. -/
def insertFile (d : WorkingDirectory) (name text : String) : WorkingDirectory :=
  ⟨d.names.insert name (.file text)⟩

/-- There is a folder of that name: the directory itself, one above it, the root, one that is an entry,
or one with an entry in it. -/
def hasFolder (d : WorkingDirectory) (steps : List String) : Bool :=
  steps.all (· == "..") || steps == [""] || d.names.get? (nameOf steps) == some .folder ||
    d.names.entries.any fun e => (nameOf steps ++ "/").toList.isPrefixOf e.1.toList

/-- What the last step of a path leads to. -/
def lastPlace (d : WorkingDirectory) (steps : List String) : Place :=
  match d.names.get? (nameOf steps) with
  | none => .free (nameOf steps)
  | some .folder => .folder
  | some (.file text) => .file (nameOf steps) text
  | some (.device device) => .device device

/-- What is reached from a folder by following the steps of a path. -/
def follow (d : WorkingDirectory) (folder : List String) : List String → Place
  | [] => .folder
  | step :: rest =>
    let next := folder ++ [step]
    if step = "." then d.follow folder rest
    else if step = ".." then d.follow (stepUp folder) rest
    else if maxNameSize < step.utf8ByteSize then
      if rest.isEmpty then .overlong else .unreachable .nameTooLong
    else if d.hasFolder next then d.follow next rest
    else if rest.isEmpty then d.lastPlace next
    else
      match d.lastPlace next with
      | .free _ => .unreachable .notFound
      | _ => .unreachable .notDirectory

/-- What a path leads to, whether or not it ends in a slash. -/
def place (d : WorkingDirectory) (path : String) : Place :=
  if path.isEmpty then .unreachable .notFound
  else if maxPathSize < path.utf8ByteSize then .unreachable .nameTooLong
  else d.follow (if isAbsolute path then [""] else []) (stepsOf path)

/-! ## Files -/

/-- Reads a file. -/
def read (d : WorkingDirectory) (path : String) : Except FileError String :=
  match d.place path with
  | .folder => .error .isDirectory
  | .file _ text => if endsInSlash path then .error .notDirectory else .ok text
  | .device device =>
    if endsInSlash path then .error .notDirectory
    else if device = .absent then .error .noDevice
    else .ok ""
  | .free _ => .error .notFound
  | .overlong => .error .nameTooLong
  | .unreachable fault => .error fault

/-- Writes a file: the directory with it and what is printed instead, or the reason why it cannot be
written. A path that ends in a slash names no file, whatever it leads to. -/
def write (d : WorkingDirectory) (path text : String) :
    Except FileError (WorkingDirectory × Printed) :=
  match d.place path with
  | .unreachable fault => .error fault
  | .folder => .error .isDirectory
  | place =>
    if endsInSlash path then .error .isDirectory
    else
      match place with
      | .file name _ => .ok (d.insertFile name text, {})
      | .free name => .ok (d.insertFile name text, {})
      | .device .null => .ok (d, {})
      | .device .full => .error .noSpace
      | .device .absent => .error .noDevice
      | .device .standardOutput => .ok (d, { stdout := text })
      | .device .standardError => .ok (d, { stderr := text })
      | _ => .error .nameTooLong

/-- The text of the file that a path leads to. -/
def fileText? (d : WorkingDirectory) (path : String) : Option String :=
  match d.place path with
  | .file _ text => some text
  | _ => none

/-! ## Runs -/

/-- Completes a run in a directory. -/
def complete (d : WorkingDirectory) : Progress → Report × WorkingDirectory
  | .done report => (report, d)
  | .write path text report =>
    match d.write path text with
    | .error fault => (report (.error fault), d)
    | .ok (d', printed) => (report (.ok printed), d')

/-- The run of an invocation in a directory. -/
def runInvocation (d : WorkingDirectory) (i : Invocation) : Report × WorkingDirectory :=
  d.complete (i.start (d.read i.config))

/-- The run of a command line in a directory, unless the arguments are refused. -/
def run (d : WorkingDirectory) (args : List String) :
    Except Refusal (Report × WorkingDirectory) :=
  match Invocation.parse args with
  | .error e => .error e
  | .ok i => .ok (d.runInvocation i)

end WorkingDirectory

end GatewayRouting.Cli
