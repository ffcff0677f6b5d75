/-
# Running a command

A command loads its options, then the documents, and then makes its mocks; the first of these that
fails is what the command comes to.  On the way there are warnings: one for every document that is
skipped, for every reference that leads to nothing and for every response that cannot be mocked.
They count also when the command fails after them.
-/
import SchemaMock.CommandLine.Arguments
import SchemaMock.Responses
import SchemaMock.Json.Printer
import SchemaMock.Loading
import SchemaMock.Pattern.Reader

namespace SchemaMock.CommandLine

/-! ## 1. What a command comes to -/

/-- Why a command fails. -/
inductive CommandFault where
  | load (fault : LoadFault)
  /-- The options or the root document are wrong. -/
  | settings (fault : MockFault)
  /-- The schema cannot be mocked. -/
  | resolution (fault : MockFault)
  /-- The file for the output cannot be written. -/
  | output (path : String)
  deriving DecidableEq, Repr

namespace CommandFault

/-- What is said about a fault. -/
def message : CommandFault → String
  | load fault => fault.message
  | settings _ => "Invalid mock options"
  | resolution _ => "Resolution failed"
  | output path => "Failed to create output file: " ++ path

/-- What is behind a fault of a resolution. -/
def cause? : CommandFault → Option String
  | resolution fault => some fault.message
  | _ => none

end CommandFault

/-- What the user should know, whether or not the command fails. -/
inductive Warning where
  /-- A document is on another machine, or its file is not there. -/
  | skippedDocument (documentKey : String)
  /-- A reference leads to nothing in the document of this key. -/
  | unresolvedReference (reference documentKey : String)
  /-- The body of a response cannot be mocked. -/
  | skippedResponse (failure : ResponseFailure)

namespace Warning

/-- What is said in a warning. -/
def message : Warning → String
  | skippedDocument documentKey => "skipping document " ++ documentKey
  | unresolvedReference reference documentKey =>
    "unresolved reference " ++ reference ++ " in " ++ documentKey
  | skippedResponse failure =>
    "skipping response " ++ failure.site.status ++ " of " ++ failure.site.operationId ++ ": "
      ++ failure.fault.message

/-- The warning that an event gives cause to. -/
def ofEvent? : Event → Option Warning
  | .unresolved reference documentKey => some (.unresolvedReference reference documentKey)
  | _ => none

end Warning

/-- The text that a command makes, or why it fails, and what the user should know. -/
structure Report where
  result : Except CommandFault String
  warnings : List Warning

/-! ## 2. Mocks as text -/

/-- A document in a format for documents. -/
def Rendering.document (format : Rendering) (value : Json) : String :=
  match format with
  | compact => value.compact
  | _ => value.pretty

/-- One mock in a format. -/
def Rendering.mock (format : Rendering) (m : CompleteMock) : String :=
  match format with
  | expression => m.mock.expression.render
  | format => format.document m.toJson

/-- The mock of a response on one line. -/
def expressionLine (m : ResponseMock) : String :=
  m.site.operationId ++ " " ++ m.site.status ++ " " ++ m.mock.expression.render

/-- The mocks of responses in a format. -/
def Rendering.mocks (format : Rendering) (ms : List ResponseMock) : String :=
  match format with
  | expression => String.intercalate "\n" (ms.map expressionLine)
  | format => format.document (.arr (ms.map ResponseMock.toJson))

/-! ## 3. Running -/

/-- What a command comes to in a workspace. -/
def Command.answer (w : Workspace) : Command → Report
  | .resolve target pointer name operationId tags =>
    let (result, events) := w.mockAt mockResolver operationId pointer name tags
    ⟨(result.map fun m => target.format.mock m ++ "\n").mapError .resolution,
      events.filterMap Warning.ofEvent?⟩
  | .operations target =>
    let walk := w.walk mockResolver
    ⟨.ok (target.format.mocks walk.mocks ++ "\n"),
      walk.events.filterMap Warning.ofEvent? ++ walk.failures.map .skippedResponse⟩

/-- What a command comes to, once its options are there and the documents have been loaded or not.
-/
def Command.report (command : Command) (options : Options)
    (loaded : Except LoadFailure Loading) : Report :=
  match loaded with
  | .error failure => ⟨.error (.load failure.fault), failure.skipped.map .skippedDocument⟩
  | .ok l =>
    let skipped := l.skipped.map Warning.skippedDocument
    match Workspace.ofOptions Pattern.engine l.store l.root options with
    | .error fault => ⟨.error (.settings fault), skipped⟩
    | .ok w =>
      let report := command.answer w
      { report with warnings := skipped ++ report.warnings }

/-- What a command comes to in a tree of files. -/
def Command.run (tree : FileTree) (command : Command) : Report :=
  let target := command.target
  match Options.load (target.config.map fun path => (path, tree.read? path)) with
  | .error e => ⟨.error (.load e), []⟩
  | .ok options => command.report options (tree.load target.input)

/-! ## 4. Running a command line -/

/-- What is left behind by a command line. -/
structure Outcome where
  code : Nat
  stdout : String
  /-- The warnings.  A command line that is no command gives none, not even an empty list. -/
  warnings : Option (List Warning)
  fault : Option CommandFault
  tree : FileTree

/-- The name of the program and its version. -/
def versionLine : String := "openapi-mock 0.1.0\n"

/-- How the program is called. -/
def helpText : String :=
  String.intercalate "\n"
    ["Usage: openapi-mock [-v] <command> <input> [options]", "",
      "Commands:",
      "  resolve     the mock of the schema at a pointer",
      "  operations  the mocks of the bodies of all responses", "",
      "Options:",
      "  -p, --pointer <pointer>    the schema, such as #/components/schemas/Pet (resolve)",
      "      --name <name>          the name of the mock (resolve)",
      "      --operation-id <id>    use the rules of an operation (resolve)",
      "      --tag <tag>            use the rules of a tag (resolve)",
      "  -c, --config <file>        the options of the mocks",
      "  -o, --output <file>        where the output goes",
      "      --format <format>      pretty, compact or expression",
      "  -V, --version              the version of the program", ""]

/-- What is left behind when the words are no command, or ask for no mock. -/
def Stop.outcome (tree : FileTree) : Stop → Outcome
  | .usage => ⟨2, "", none, none, tree⟩
  | .version => ⟨0, versionLine, some [], none, tree⟩
  | .help => ⟨0, helpText, some [], none, tree⟩

/-- What is left behind when a report has been written to its place. -/
def Report.deliver (report : Report) (output : Option String) (tree : FileTree) : Outcome :=
  match report.result, output with
  | .error e, _ => ⟨1, "", some report.warnings, some e, tree⟩
  | .ok text, none => ⟨0, text, some report.warnings, none, tree⟩
  | .ok text, some path =>
    match tree.write? path text with
    | some tree => ⟨0, "", some report.warnings, none, tree⟩
    | none => ⟨1, "", some report.warnings, some (.output path), tree⟩

/-- What a command line leaves behind in a tree of files. -/
def run (tree : FileTree) (words : List String) : Outcome :=
  match Command.ofArguments words with
  | .error stop => stop.outcome tree
  | .ok command => (command.run tree).deliver command.target.output tree

end SchemaMock.CommandLine
