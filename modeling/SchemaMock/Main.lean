/-
# The program

Reads the files that a command asks for, writes its output and says what went wrong.  What the files
are asked for, and what comes of their texts, is decided by the library.
-/
import SchemaMock.CommandLine.Run

namespace SchemaMock.CommandLine

/-- The real path of what is found under a path, if anything is.  Looking for it follows paths of
any length, which the system does not, so the path is looked at first. -/
def realPath? (path : String) : IO (Option String) := do
  if FileTree.isPath path then
    try return some (← IO.FS.realPath path).toString catch _ => return none
  else return none

/-- Whether a file is found under a path. -/
def isFile (path : String) : IO Bool := do
  if FileTree.isPath path then
    try return (← (← IO.FS.realPath path).metadata).type == .file catch _ => return false
  else return false

/-- What is found under a path. -/
def look (path : String) : IO FileState := do
  if ← isFile path then
    try return .text (← IO.FS.readFile path) catch _ => return .unreadable
  else return .absent

/-- The document of a file and all that its references lead to. -/
def loadFrom (input : String) : IO (Except LoadFailure Loading) := do
  match ← realPath? input with
  | none => return .error ⟨.missingInput input, []⟩
  | some path =>
    let way := (FileTree.names path).filter fun n => n != ""
    Loading.run look (Loading.start (DocumentKey.ofWay way))

/-- What a command comes to. -/
def reportOf (command : Command) : IO Report := do
  let config ← command.target.config.mapM fun path => return (path, (← look path).text?)
  match Options.load config with
  | .error e => return ⟨.error (.load e), []⟩
  | .ok options => return command.report options (← loadFrom command.target.input)

/-- Says what went wrong. -/
def explain (e : CommandFault) : IO UInt32 := do
  IO.eprintln ("Error: " ++ e.message)
  match e.cause? with
  | some cause => IO.eprintln ("\nCaused by:\n    " ++ cause)
  | none => pure ()
  return 1

/-- Writes the text of a report to its place. -/
def deliver (report : Report) (output : Option String) : IO UInt32 := do
  for warning in report.warnings do
    IO.eprintln ("WARN " ++ warning.message)
  match report.result, output with
  | .error e, _ => explain e
  | .ok text, none => do
    IO.print text
    return 0
  | .ok text, some path => do
    try
      IO.FS.writeFile path text
      return 0
    catch _ => explain (.output path)

end SchemaMock.CommandLine

open SchemaMock.CommandLine in
/-- Runs a command line. -/
def main (words : List String) : IO UInt32 := do
  match Command.ofArguments words with
  | .error .usage => do
    IO.eprintln "error: the arguments are no command"
    return 2
  | .error .version => do
    IO.print versionLine
    return 0
  | .error .help => do
    IO.print helpText
    return 0
  | .ok command => do deliver (← reportOf command) command.target.output
