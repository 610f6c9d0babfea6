import HtmlTemplate.Charset.Name
import HtmlTemplate.Config.Basic
import HtmlTemplate.Log
import HtmlTemplate.Render.Source
import HtmlTemplate.Template.Naming
import HtmlTemplate.Trace

/-!
# The registry

The templates of an engine. Reloading replaces them all by those in the configured directories, or leaves them as they
are if a file cannot be read. Registering adds a single one.
-/

namespace HtmlTemplate

/-- Why the templates cannot be changed, or one of them cannot be had. -/
inductive RegistryError where
  | notFound (name : Text)
  | emptyName
  | undecodable (path : Path) (encoding : Text) (misreading : Misreading)
  /-- The bytes of a file are no text as a whole. -/
  | unfit (encoding : Text) (why : Charset.Unfit)
  | unknownEncoding (name : Text)
  /-- An encoding is one of bytes by bytes. -/
  | otherCodec (name : Text)
  /-- The name of an encoding has a null character, which no name can hold. -/
  | nullInEncoding
  /-- The name of an encoding cannot be written. -/
  | unwritableEncoding (e : Unwritable)

namespace RegistryError

/-- The report of an error. -/
def report : RegistryError → Report
  | .notFound name =>
    .about "TemplateNotFoundError" ("Template not found: ".text ++ name) [("name", .string name)]
  | .emptyName => .below .badValue "Template name must not be empty".text
  | .undecodable path encoding misreading =>
    .about "StencilError"
      ("Cannot decode template ".text ++ path.text ++ " as ".text ++ encoding ++ ": ".text ++ misreading.message)
      [("path", .string path.text), ("encoding", .string encoding)]
  | .unfit encoding why => .below .noText (why.message encoding)
  | .unknownEncoding name => .below .unknownName ("unknown encoding: ".text ++ name)
  | .otherCodec name =>
    .below .unknownName ("\x27".text ++ name ++
      "' is not a text encoding; use codecs.decode() to handle arbitrary codecs".text)
  | .nullInEncoding => .below .badValue "embedded null character".text
  | .unwritableEncoding e => .below .unencodable e.message

end RegistryError

/-- A step of the work on the registry. -/
abbrev RegistryStep (α : Type) := Traced LogLine RegistryError α

namespace Config

/-- Whether a file of that name holds a template. -/
def holdsTemplate (config : Config) (fileName : Text) : Bool := config.extensions.any fileName.hasExtension

/-- The normal form of a template name. -/
def normalName (config : Config) (name : Text) : Text := Template.normalName config.ignoreCase name

/-- The source in a file. No bytes are no characters, whatever the encoding. -/
def decode (config : Config) (file : FoundFile) : Except RegistryError Text :=
  match config.encoding.unencodable? with
  | some e => .error (.unwritableEncoding e)
  | none =>
    if config.encoding.contains '\x00' then .error .nullInEncoding
    else if file.content.isEmpty then .ok []
    else
      match Encoding.ofName? config.encoding with
      | none =>
        .error (if Encoding.isOtherCodec config.encoding then .otherCodec config.encoding
          else .unknownEncoding config.encoding)
      | some encoding =>
        match encoding.decode file.content with
        | .ok s => .ok (withoutMark s)
        | .error (.misreading misreading) => .error (.undecodable file.path config.encoding misreading)
        | .error (.unfit why) => .error (.unfit config.encoding why)

/-- The name of the template in a file: the one that its source declares, else that of the file. -/
def nameOf (config : Config) (file : FoundFile) (source : Text) : Text :=
  config.normalName
    ((config.namePattern.declaredName? source).getD (Template.nameOfFile config.extensions file.name))

/-- The template in a file. -/
def templateOf (config : Config) (file : FoundFile) : Except RegistryError Template :=
  match config.decode file with
  | .ok source => .ok ⟨config.nameOf file source, source, some file.path.text⟩
  | .error e => .error e

end Config

namespace Templates

/-- A line of the registry. -/
def line (level : Level) (message : Text) : LogLine := ⟨level, .registry, message⟩

/-- What is told of a template that takes the place of another one. -/
def overrideLines (templates : Templates) (t : Template) : List LogLine :=
  match templates.find? t.name with
  | none => []
  | some previous =>
    [line .warning ("Template '".text ++ t.name ++ "' from ".text ++ t.path.getD [] ++ " overrides ".text ++
      previous.path.getD [])]

/-- Adds the template in a file. -/
def addFile (config : Config) (templates : Templates) (file : FoundFile) : RegistryStep Templates :=
  match config.templateOf file with
  | .error e => .fail e
  | .ok t =>
    { result := .ok (insert t templates)
      trace := overrideLines templates t ++
        [line .debug ("Registered template '".text ++ t.name ++ "' from ".text ++ t.path.getD [])] }

/-- Adds the templates in some files, one after the other. -/
def addFiles (config : Config) : List FoundFile → Templates → RegistryStep Templates
  | [], templates => .done templates
  | file :: rest, templates => (addFile config templates file).andThen (addFiles config rest)

/-- What is told of a directory that does not exist. -/
def missingLine (root : Path) : LogLine :=
  ⟨.warning, .discovery, "Template directory does not exist: ".text ++ root.text⟩

/-- Adds the templates of some directories, one after the other. -/
def addDirectories (config : Config) (fs : FileSystem) : List Path → Templates → RegistryStep Templates
  | [], templates => .done templates
  | root :: rest, templates =>
    (match fs.walk? config.holdsTemplate root with
      | some files => addFiles config files templates
      | none =>
        (Traced.tell (missingLine root)).andThen fun _ => .done templates).andThen
      (addDirectories config fs rest)

/-- What is told of a number of loaded templates. -/
def loadedLine (config : Config) (templates : Templates) : LogLine :=
  line .info ("Loaded ".text ++ Text.ofNat templates.length ++ " template(s) from ".text ++
    Text.ofNat config.directories.length ++ " director".text ++
    (if config.directories.length = 1 then "y" else "ies").text)

/-- The templates in the configured directories. -/
def load (config : Config) (fs : FileSystem) : RegistryStep Templates :=
  (addDirectories config fs config.directories []).andThen fun templates =>
    (Traced.tell (loadedLine config templates)).andThen fun _ => .done templates

/-- The template that is registered for a name and a source, with the path it is said to be from. The name must not be
blank. -/
def registered? (config : Config) (name source : Text) (path : Option Text) : Option Template :=
  let normal := config.normalName name
  if normal.isEmpty then none else some ⟨normal, withoutMark source, path⟩

/-- The templates with one more, and that template. -/
def register (config : Config) (name source : Text) (path : Option Text) (templates : Templates) :
    RegistryStep (Templates × Template) :=
  match registered? config name source path with
  | none => .fail .emptyName
  | some t =>
    (Traced.tell (line .debug ("Registered template '".text ++ t.name ++ "' programmatically".text))).andThen
      fun _ => .done (insert t templates, t)

/-- The template that a name refers to. -/
def get (config : Config) (name : Text) (templates : Templates) : Except RegistryError Template :=
  match templates.find? (config.normalName name) with
  | some t => .ok t
  | none => .error (.notFound name)

/-- Whether a name refers to a template. -/
def contains (config : Config) (name : Text) (templates : Templates) : Bool :=
  (templates.find? (config.normalName name)).isSome

end Templates

end HtmlTemplate
