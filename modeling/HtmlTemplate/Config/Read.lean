import HtmlTemplate.Charset.Unicode
import HtmlTemplate.Config.Basic
import HtmlTemplate.Config.Libraries
import HtmlTemplate.Datum.Literal
import HtmlTemplate.Log
import HtmlTemplate.Trace

/-!
# Reading configurations

Settings are given by their names, in either of two spellings, and laid over the default settings. They must obey the
rules before a configuration is made of them. They may stand in a file, and directories in them are then seen from the
directory of the file.
-/

namespace HtmlTemplate

/-- What a setting is given as: a datum, or a pattern that has been read already. -/
inductive Setting where
  | datum (d : Datum)
  | pattern (p : NamePattern)

namespace Setting

/-- The setting as a datum. A pattern counts as its source. -/
def asDatum : Setting → Datum
  | .datum d => d
  | .pattern p => .text p.source

end Setting

namespace Datum

/-- The parts of a datum that has several: items, keys, characters, or bytes. -/
def parts : Datum → Except ConfigError (List Datum)
  | .list identity items => .ok (itemsOf identity items)
  | .tuple _ items => .ok items
  | .set items => .ok items
  | .mapping _ entries => .ok (entries.map Prod.fst)
  | .text s => .ok (s.map fun c => .text [c])
  | .bytes content => .ok (content.map fun b => .ofInt b.toNat)
  | d => .error (.notIterable d.className)

/-- The path that a datum writes. -/
def toPath : Datum → Except ConfigError Path
  | .text s => .ok (Path.ofText s)
  | d => .error (.notPath d.className)

end Datum

namespace Config

/-- The other spellings of the settings. -/
def otherSpellings : List (String × String) :=
  [("name_directive_pattern", "nameDirectivePattern"), ("case_insensitive_names", "caseInsensitiveNames"),
   ("max_depth", "maxDepth"), ("content_var_name", "contentVarName")]

/-- The name of a setting in the spelling of the rules. A name that is no other spelling stays. -/
def settingName (name : Text) : Text :=
  match otherSpellings.find? fun entry => entry.1.text = name with
  | some entry => entry.2.text
  | none => name

/-- The default settings. -/
def defaults : Settings Datum :=
  [("directories", .list none []), ("extensions", .list none (defaultExtensions.map .text)),
   ("nameDirectivePattern", .text defaultPattern), ("caseInsensitiveNames", .bool true),
   ("maxDepth", .ofInt defaultMaxDepth), ("contentVarName", .text defaultContentName),
   ("encoding", .text defaultEncoding)].map fun (name, d) => (.text name.text, d)

/-- The text of a datum among the directories. -/
def directoryText (d : Datum) : Except ConfigError Text := d.asText.mapError ConfigError.unwritable

/-- The directories of the settings, as a list of texts. A single text is one directory, and null stays. -/
def listDirectories (settings : Settings Datum) : Except ConfigError (Settings Datum) :=
  let name := "directories".text
  match settings.find? name with
  | none => .ok settings
  | some .null => .ok settings
  | some (.text s) => .ok (settings.put name (.list none [.text s]))
  | some d => do
    let texts ← (← d.parts).mapM directoryText
    return settings.put name (.list none (texts.map .text))

/-- The pattern among the settings that has been read already. -/
def readPattern? (settings : Settings Setting) : Option NamePattern :=
  match settings.find? "nameDirectivePattern".text with
  | some (.pattern p) => some p
  | _ => none

/-- The settings by the spelling of the rules. -/
def respelled (settings : Settings Setting) : Settings Setting :=
  Settings.overlaid [] (settings.map fun (key, s) =>
    match key with
    | .text name => (.text (settingName name), s)
    | key => (key, s))

/-- The settings laid over the default ones. Lists are made anew. A pattern that has been read already is left out. -/
def merged (settings : Settings Setting) : Except ConfigError (Settings Datum) := do
  let plain := settings.filterMap fun (key, s) =>
    match key, s with
    | .text name, .pattern _ => if name = "nameDirectivePattern".text then none else some (.text name, s.asDatum)
    | key, s => some (key, s.asDatum)
  return defaults.overlaid ((← listDirectories plain).map fun (key, d) => (key, d.renewed))

/-- Checks that settings obey the rules. -/
def validate (wording : Wording) (settings : Settings Datum) : Except ConfigError Unit :=
  match (Schema.violations settings).mapM (Violation.message wording) with
  | .ok [] => .ok ()
  | .ok messages => .error (.invalid messages)
  | .error e => .error (.unwritable e)

/-- The text of a setting. -/
def textSetting (settings : Settings Datum) (name : String) : Text :=
  match settings.find? name.text with
  | some (.text s) => s
  | _ => []

/-- The texts of a setting. -/
def textsSetting (settings : Settings Datum) (name : String) : List Text :=
  match settings.find? name.text with
  | some (.list _ items) =>
    items.filterMap fun item =>
      match item with
      | .text s => some s
      | _ => none
  | _ => []

/-- The whole number of a setting. -/
def intSetting (settings : Settings Datum) (name : String) : Int :=
  match settings.find? name.text with
  | some (.number (.int n)) => n
  | some (.number (.float x)) => x.toInt?.getD 0
  | _ => 0

/-- The boolean of a setting. -/
def boolSetting (settings : Settings Datum) (name : String) : Bool :=
  match settings.find? name.text with
  | some (.bool b) => b
  | _ => false

/-- The directory that a text writes, as seen from `base`. -/
def directoryOf (homes : Homes) (base : Option Path) (s : Text) : Except ConfigError Path :=
  match (Path.ofText s).expanded? homes, base with
  | none, _ => .error .noHome
  | some p, some b => .ok (b.join p)
  | some p, none => .ok p

/-- The configuration of some settings. Directories are seen from `base`. -/
def ofSettings (wording : Wording) (homes : Homes) (given : Settings Setting) (base : Option Path) :
    Except ConfigError Config := do
  let given := respelled given
  let settings ← merged given
  validate wording settings
  let directories ← (textsSetting settings "directories").mapM (directoryOf homes base)
  make directories (textsSetting settings "extensions")
    (match readPattern? given with
      | some p => .inr p
      | none => .inl (textSetting settings "nameDirectivePattern"))
    (boolSetting settings "caseInsensitiveNames") (intSetting settings "maxDepth")
    (textSetting settings "contentVarName") (textSetting settings "encoding")

/-- The configuration of a directory, or of several. -/
def ofDirectoryList (d : Datum) : Except ConfigError Config :=
  match d with
  | .text s => ofDirectories [Path.ofText s]
  | d => do
    let items ← d.parts
    ofDirectories (← items.mapM Datum.toPath)

/-- The configuration in a file. -/
def load (libraries : Libraries) (fs : FileSystem) (p : Path) : Traced LogLine ConfigError Config :=
  if !fs.contains p then .fail (.fileNotFound p.text)
  else
    match fs.read p with
    | .error e => .fail (.unreadable p e)
    | .ok content =>
      match Charset.decodeUtf8 content with
      | .error misreading => .fail (.undecodable misreading)
      | .ok source =>
        match libraries.yaml source with
        | .error .malformed => .fail (.notYaml p.text)
        | .error (.broken defect message) => .fail (.badYaml defect message)
        | .ok .null => found []
        | .ok (.mapping identity entries) => found (Datum.entriesOf identity entries)
        | .ok _ => .fail (.notMapping p.text)
where
  /-- The configuration of the settings in the file. -/
  found (entries : Settings Datum) : Traced LogLine ConfigError Config :=
    (Traced.tell ⟨.debug, .configuration, "Loaded engine config from ".text ++ p.text⟩).andThen fun _ =>
      let base := fs.directory.resolve p.parent
      .ofResult (ofSettings libraries.wording fs.homes (entries.map fun (key, d) => (key, .datum d)) (some base))

end Config

end HtmlTemplate
