import HtmlTemplate.Config.Schema
import HtmlTemplate.Files.Tree
import HtmlTemplate.Report
import HtmlTemplate.Template.NamePattern

/-!
# Configurations

What an engine is set up with: where its templates are, which files hold one, how their names are found and compared,
and how deep they may be nested.
-/

namespace HtmlTemplate

/-- The settings of an engine. -/
structure Config where
  directories : List Path
  extensions : List Text
  namePattern : NamePattern
  /-- Whether the case of template names does not matter. -/
  ignoreCase : Bool
  maxDepth : Nat
  /-- The name under which a layout finds the page that it frames. -/
  contentName : Text
  encoding : Text

/-- Why there is no configuration. -/
inductive ConfigError where
  /-- The settings break rules. -/
  | invalid (violations : List Text)
  | noDirectories
  | noSource
  | badPattern (source : Text) (fault : Pattern.Fault)
  | negativeDepth (depth : Int)
  | fileNotFound (path : Text)
  | notYaml (path : Text)
  | notMapping (path : Text)
  /-- A single thing is where several should be. -/
  | notIterable (kind : Text)
  /-- A thing that is no text is where a path should be. -/
  | notPath (kind : Text)
  /-- A directory is below a home directory that is not known. -/
  | noHome
  | unreadable (path : Path) (e : FileError)
  | undecodable (misreading : Misreading)
  /-- The reader of a file of settings breaks off. -/
  | badYaml (defect : Defect) (message : Text)
  /-- A datum cannot be written in a message. -/
  | unwritable (e : DisplayError)

namespace ConfigError

/-- The summary of settings that break rules. Rules about directories count more than others. -/
def summary (violations : List Text) : Text :=
  if violations.any fun v => "directories".text.isPrefixOf v || Text.hasMark "'directories'".text v then
    "TemplateEngine requires at least one directory to scan.".text
  else "Invalid engine configuration".text

/-- The report of an error. -/
def report (e : ConfigError) : Report :=
  let configuration (message : Text) (context : List (String × Value)) : Report :=
    .about "ConfigurationError" message context
  match e with
  | .invalid violations =>
    configuration (summary violations ++ " (".text ++ Text.join "; ".text violations ++ ")".text)
      [("errors", .list (violations.map .string))]
  | .noDirectories => configuration "TemplateEngine requires at least one directory to scan.".text []
  | .noSource => configuration "No template directories: pass --dir or --config".text []
  | .badPattern source fault =>
    match fault.cause with
    | .boundTooLarge => .below .tooLarge (fault.message source)
    | .boundTooLong _ => .below .badValue (fault.message source)
    | .opposedScopes => .below .badValue (fault.message source)
    | _ =>
      configuration ("Invalid name directive pattern: ".text ++ fault.message source) [("pattern", .string source)]
  | .negativeDepth depth => configuration "maxDepth must not be negative".text [("max_depth", .ofInt depth)]
  | .fileNotFound path => configuration ("Config file not found: ".text ++ path) [("path", .string path)]
  | .notYaml path => configuration ("Invalid YAML in ".text ++ path) [("path", .string path)]
  | .notMapping path => configuration ("Config file must contain a mapping: ".text ++ path) [("path", .string path)]
  | .notIterable kind => .below .badKind (Text.quoted kind ++ " object is not iterable".text)
  | .notPath kind => .below .badKind ("expected str, bytes or os.PathLike object, not ".text ++ kind)
  | .noHome => .below .noHome "Could not determine home directory.".text
  | .unreadable path e => e.report path
  | .undecodable misreading => .below .undecodable misreading.message
  | .badYaml defect message => .below defect message
  | .unwritable e => .below .badValue e.message

end ConfigError

namespace Config

/-- The extensions of template files, if no others are set. -/
def defaultExtensions : List Text := [".html", ".htm", ".tpl", ".tpl.html"].map String.text

/-- The pattern that finds the name of a template, if no other is set: a comment with the mark `@template`, and the
name in quotes or after a colon or a blank. -/
def defaultPattern : Text :=
  "<!--\\s*@template(?:\\s+name\\s*=\\s*\x22([^\x22]+)\x22|[:\\s]+([^\\-\\->]+))\\s*-->".text

/-- How deep templates may be nested, if nothing else is set. -/
def defaultMaxDepth : Nat := 50

/-- The name of the framed page, if no other is set. -/
def defaultContentName : Text := "content".text

/-- The encoding of template files, if no other is set. -/
def defaultEncoding : Text := "utf-8".text

/-- The configuration of some settings. There must be a directory, the pattern must be one, and the depth must not be
negative. -/
def make (directories : List Path) (extensions : List Text) (namePattern : Text ⊕ NamePattern) (ignoreCase : Bool)
    (maxDepth : Int) (contentName encoding : Text) : Except ConfigError Config :=
  if directories.isEmpty then .error .noDirectories
  else
    let pattern : Except ConfigError NamePattern :=
      match namePattern with
      | .inr p => .ok p
      | .inl source => (NamePattern.ofSource true source).mapError (ConfigError.badPattern source)
    match pattern with
    | .error e => .error e
    | .ok p =>
      if maxDepth < 0 then .error (.negativeDepth maxDepth)
      else .ok ⟨directories, extensions, p, ignoreCase, maxDepth.toNat, contentName, encoding⟩

/-- The configuration of some directories and nothing else. -/
def ofDirectories (directories : List Path) : Except ConfigError Config :=
  make directories defaultExtensions (.inl defaultPattern) true defaultMaxDepth defaultContentName defaultEncoding

end Config

end HtmlTemplate
