import HtmlTemplate.Charset.Unicode
import HtmlTemplate.Command.Arguments
import HtmlTemplate.Engine
import HtmlTemplate.Json.Reader
import HtmlTemplate.Json.Writer

/-!
# Running commands

A command sees the files and leaves an outcome: an exit code, what it prints, and the files after it. The command
`list` prints the names of the templates; `render` prints a page, or writes it to a file. Both tell their results and
their errors as lines of text or as JSON. An error that is not of the template language breaks a command off. What is
printed is written in UTF-8, and so is the file.
-/

namespace HtmlTemplate

/-- What a command makes: what it prints, the files after it, and the path of the file that it has
written. -/
structure Product where
  printed : Text
  files : FileSystem
  written : Option Path

/-- Why a command fails. -/
inductive CommandError where
  | config (e : ConfigError)
  | engine (e : EngineError)
  | unreadableData (path : Path) (e : FileError)
  | undecodableData (misreading : Misreading)
  | malformedData (path : Path) (source : Text) (fault : Json.Fault)
  | unwritable (path : Path) (e : FileError)
  /-- A text cannot be written, after something has been made all the same. -/
  | unencodable (e : Unwritable) (made : Product)

namespace CommandError

/-- The report of an error of the data file at a path. -/
def dataReport (path : Path) (message : Text) : Report :=
  .about "StencilError" message [("path", .string path.text)]

/-- The report of an error. -/
def report : CommandError → Report
  | .config e => e.report
  | .engine e => e.report
  | .unreadableData path (.unnameable why) => FileError.report path (.unnameable why)
  | .unreadableData path e =>
    dataReport path ("Cannot read data file ".text ++ path.text ++ ": ".text ++ e.messageAt path)
  | .undecodableData misreading => .below .undecodable misreading.message
  | .malformedData path source (.malformed cause position) =>
    dataReport path ("Invalid JSON in ".text ++ path.text ++ ": ".text ++ cause.messageAt source position)
  | .malformedData _ _ (.numeralTooLong digits) => .below .badValue (ExpressionError.numeralTooLong digits).message
  | .unwritable path e => e.report path
  | .unencodable e _ => .below .unencodable e.message

/-- What has been made when an error occurs, in a file system in which nothing else has been. -/
def made (fs : FileSystem) : CommandError → Product
  | .unencodable _ product => product
  | _ => ⟨[], fs, none⟩

end CommandError

/-- A command at work. -/
abbrev CommandStep (α : Type) := Traced LogLine CommandError α

/-- What a command leaves: an exit code, what it tells of its work and its errors, and what it makes. -/
structure Outcome extends Product where
  code : Nat
  complaints : Text

/-- How the command line ends: its words ask for nothing that can be run, it names no command, a command ends with an
outcome, or it is broken off. -/
inductive Ending where
  | stopped (why : Stop)
  | noCommand
  | ended (outcome : Outcome)
  | broken (defect : Defect) (message : Text) (made : Product)

namespace Command

/-- A line of text. -/
def line (s : Text) : Text := s ++ (['\n'] : Text)

/-- A mapping as lines of JSON. -/
def jsonLines (fields : List (String × Value)) : Text :=
  line (Json.write (.mapping (fields.map fun (key, v) => (key.text, v))))

/-- The configuration that the options ask for. Directories among the options stand in place of those of the file. -/
def configOf (libraries : Libraries) (fs : FileSystem) (options : Options) : CommandStep Config :=
  let directories := options.directories.map Path.ofText
  let config : Traced LogLine ConfigError Config :=
    if options.config.isEmpty then
      if directories.isEmpty then .fail .noSource else .ofResult (Config.ofDirectories directories)
    else
      (Config.load libraries fs (Path.ofText options.config)).andThen fun config =>
        .done (if directories.isEmpty then config else { config with directories := directories })
  config.mapError CommandError.config

/-- The engine that the options ask for, with its templates loaded. -/
def engineOf (libraries : Libraries) (fs : FileSystem) (options : Options) : CommandStep Engine :=
  (configOf libraries fs options).andThen fun config =>
    ((Engine.ofConfig config).reload fs).mapError CommandError.engine

/-- The data in the file at a path. -/
def dataAt (fs : FileSystem) (path : Path) : Except CommandError Value := do
  let content ← (fs.read path).mapError (CommandError.unreadableData path)
  let source ← (Charset.decodeUtf8 content).mapError CommandError.undecodableData
  let source := source.unifyLineEnds
  (Json.read source).mapError (CommandError.malformedData path source)

/-- The data that the options ask for. -/
def dataOf (fs : FileSystem) (options : Options) : Except CommandError Value :=
  if options.data.isEmpty then .ok (.mapping []) else dataAt fs (Path.ofText options.data)

/-- Prints some texts after what has been printed. One that cannot be written breaks the printing off. -/
def print (fs : FileSystem) (printed : Text) : List Text → Except CommandError Product
  | [] => .ok ⟨printed, fs, none⟩
  | s :: rest =>
    match s.unencodable? with
    | some e => .error (.unencodable e ⟨printed, fs, none⟩)
    | none => print fs (printed ++ s) rest

/-- What `list` prints about the names of the templates. -/
def listed (json : Bool) (names : List Text) : List Text :=
  if json then [jsonLines [("templates", .list (names.map .string)), ("count", .ofInt names.length)]]
  else if names.isEmpty then [line "No templates found.".text]
  else names.map line

/-- The page that `render` makes. -/
def page (libraries : Libraries) (fs : FileSystem) (name : Text) (options : Options) : CommandStep Text :=
  (engineOf libraries fs options).andThen fun engine =>
    (Traced.ofResult (dataOf fs options)).andThen fun data =>
      let html :=
        if options.layout.isEmpty then engine.render name data
        else engine.renderInLayout options.layout name data options.contentName
      html.mapError CommandError.engine

/-- Prints a page, or writes it to the file that the options name. The file is opened first: it is empty after a page
that cannot be written. -/
def delivered (fs : FileSystem) (name : Text) (options : Options) (html : Text) :
    Except CommandError Product :=
  if options.output.isEmpty then
    print fs [] [if options.json then jsonLines [("template", .string name), ("html", .string html)] else html]
  else
    let path := Path.ofText options.output
    let content := Charset.encodeUtf8 html
    match fs.write path (content.toOption.getD []), content with
    | .error e, _ => .error (.unwritable path e)
    | .ok fs, .error e => .error (.unencodable e ⟨[], fs, some path⟩)
    | .ok fs, .ok _ =>
      let about := jsonLines
        [("template", .string name), ("output", .string options.output), ("length", .ofInt html.length)]
      .ok ⟨if options.json then about else [], fs, some path⟩

/-- Executes a command. -/
def execute (libraries : Libraries) (fs : FileSystem) : Request → CommandStep Product
  | .list options =>
    (engineOf libraries fs options).andThen fun engine =>
      .ofResult (print fs [] (listed options.json engine.names))
  | .render name options =>
    (page libraries fs name options).andThen fun html => .ofResult (delivered fs name options html)

/-- What a command tells of an error, with the code of the command. -/
def complaint (request : Request) (message code : Text) (context : Entries Value) : Text :=
  let (kind, json) :=
    match request with
    | .list options => ("list_error", options.json)
    | .render _ options => ("render_error", options.json)
  if json then
    jsonLines [("error", .string kind.text), ("message", .string message), ("code", .string code),
      ("context", .mapping context)]
  else line ("Error: ".text ++ message)

/-- The lines of the log that are shown. -/
def shownLog (verbose : Bool) (lines : List LogLine) : Text :=
  (lines.filter fun l => verbose || l.level = .warning).flatMap fun l => line l.text

/-- Runs a command. -/
def run (libraries : Libraries) (fs : FileSystem) (request : Request) (verbose : Bool) : Ending :=
  let step := execute libraries fs request
  let log := shownLog verbose step.trace
  match step.result with
  | .ok product => .ended ⟨product, 0, log⟩
  | .error e =>
    match e.report with
    | .language code message context =>
      .ended ⟨⟨[], fs, none⟩, 1, log ++ complaint request message code context⟩
    | .below defect message => .broken defect message (e.made fs)

/-- Runs the command that the words of a command line ask for. -/
def runWords (libraries : Libraries) (fs : FileSystem) (words : List Text) : Ending :=
  match Arguments.read words with
  | .error why => .stopped why
  | .ok (none, _) => .noCommand
  | .ok (some request, verbose) => run libraries fs request verbose

/-- What is printed when the version is asked for. -/
def version : Text := line "stencil 1.0.0".text

end Command

end HtmlTemplate
