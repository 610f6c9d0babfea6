import HtmlTemplate.Command.Run
import HtmlTemplate.Proofs.Config.Outcome
import HtmlTemplate.Proofs.Render.Failure
import HtmlTemplate.Proofs.Text.Encodable
import HtmlTemplate.Proofs.Template.NameDirective
import HtmlTemplate.Proofs.Template.Run

/-!
# Where the stages of a command break off

A command reads its configuration, the templates, and the data, renders a page, and delivers it. For each stage it is
said with which files and settings it breaks off below the language: `DefectiveConfigFile`, `DefectiveTemplateFile`,
`DefectiveDataFile`, `DefectivePage`.
-/

namespace HtmlTemplate

/-! ## The files -/

namespace FileTree

theorem find_ne_unnameable {above : List FileTree} {t : FileTree} {names : List Text} {why : Unnameable} :
    find above t names ≠ .error (.unnameable why) := by
  fun_induction find above t names <;> simp_all

end FileTree

namespace FileSystem

variable {fs : FileSystem} {p : Path} {why : Unnameable}

theorem find_eq_unnameable_iff : fs.find p = .error (.unnameable why) ↔ p.text.unnameable? = some why := by
  rw [find]
  split
  · rename_i h
    rw [h]
    simp
  · simp_all
  · simp_all [FileTree.find_ne_unnameable]

/-- Reading fails for the path alone if nothing can have the path. -/
theorem read_eq_unnameable_iff : fs.read p = .error (.unnameable why) ↔ p.text.unnameable? = some why := by
  rw [read, ← find_eq_unnameable_iff]
  cases h : fs.find p with
  | ok t => cases t <;> simp
  | error e => simp

end FileSystem

variable {libraries : Libraries} {fs : FileSystem} {p : Path}

/-! ## The configuration -/

/-- The settings that the datum in a file gives. -/
def Datum.settings? : Datum → Option (Settings Datum)
  | .null => some []
  | .mapping identity entries => some (entriesOf identity entries)
  | _ => none

namespace Config

/-- The files with settings on which reading a configuration breaks off. -/
inductive DefectiveConfigFile (libraries : Libraries) (fs : FileSystem) (p : Path) : Prop
  /-- There is something at the path, but no file. -/
  | unreadable {e : FileError} (hcontains : fs.contains p = true) (hread : fs.read p = .error e)
  /-- The bytes are no text in UTF-8. -/
  | undecodable {content : Bytes} {misreading : Misreading} (hread : fs.read p = .ok content)
    (hdecode : Charset.decodeUtf8 content = .error misreading)
  /-- The text keeps the form of YAML, but the reader of YAML breaks off on what it writes. -/
  | yaml {content : Bytes} {source : Text} {defect : Defect} {message : Text} (hread : fs.read p = .ok content)
    (hdecode : Charset.decodeUtf8 content = .ok source)
    (hyaml : libraries.yaml source = .error (.broken defect message))
  /-- The settings make no configuration. -/
  | settings {content : Bytes} {source : Text} {d : Datum} {entries : Settings Datum} (hread : fs.read p = .ok content)
    (hdecode : Charset.decodeUtf8 content = .ok source) (hyaml : libraries.yaml source = .ok d)
    (hd : d.settings? = some entries) (hentries : DefectiveSettings fs.homes entries)

/-- The settings that a text in YAML gives. -/
def settingsOf (libraries : Libraries) (p : Path) (source : Text) : Except ConfigError (Settings Datum) :=
  match libraries.yaml source with
  | .error .malformed => .error (.notYaml p.text)
  | .error (.broken defect message) => .error (.badYaml defect message)
  | .ok d =>
    match d.settings? with
    | some entries => .ok entries
    | none => .error (.notMapping p.text)

theorem contains_of_read {content : Bytes} (h : fs.read p = .ok content) : fs.contains p = true := by
  rw [FileSystem.read] at h
  rw [FileSystem.contains]
  split at h <;> simp_all

theorem load_result (h : fs.contains p = true) :
    (load libraries fs p).result =
      ((fs.read p).mapError (ConfigError.unreadable p)).bind fun content =>
        ((Charset.decodeUtf8 content).mapError ConfigError.undecodable).bind fun source =>
          (settingsOf libraries p source).bind fun entries =>
            ofSettings libraries.wording fs.homes (asGiven entries) (some (fs.directory.resolve p.parent)) := by
  have hfound (entries : Settings Datum) : (load.found libraries fs p entries).result =
      ofSettings libraries.wording fs.homes (asGiven entries) (some (fs.directory.resolve p.parent)) := by
    rw [load.found, Traced.result_andThen, asGiven]
    exact Traced.result_ofResult _
  rw [load, h]
  cases fs.read p with
  | error e => rfl
  | ok content =>
    dsimp only [Except.mapError, Except.bind]
    cases Charset.decodeUtf8 content with
    | error misreading => rfl
    | ok source =>
      dsimp only [settingsOf]
      cases libraries.yaml source with
      | error failure => cases failure <;> rfl
      | ok d =>
        cases d with
        | null => exact hfound _
        | mapping identity entries => exact hfound _
        | _ => rfl

theorem breaksOff_settingsOf_iff {source : Text} :
    BreaksOff ConfigError.report (settingsOf libraries p source) ↔
      ∃ defect message, libraries.yaml source = .error (.broken defect message) := by
  rw [settingsOf]
  cases libraries.yaml source with
  | error failure =>
    cases failure with
    | malformed => simpa [breaksOff_error_iff] using ConfigError.IsConfiguration.not_isBelow ⟨_, _, rfl⟩
    | broken defect message =>
      exact iff_of_true (breaksOff_error_iff.mpr (Report.isBelow_below _ _)) ⟨defect, message, rfl⟩
  | ok d =>
    refine iff_of_false ?_ nofun
    dsimp only
    split
    · exact not_breaksOff_ok _
    · exact breaksOff_error_iff.not.mpr (ConfigError.IsConfiguration.not_isBelow ⟨_, _, rfl⟩)

theorem settingsOf_eq_ok_iff {source : Text} {entries : Settings Datum} :
    settingsOf libraries p source = .ok entries ↔ ∃ d, libraries.yaml source = .ok d ∧ d.settings? = some entries := by
  rw [settingsOf]
  cases libraries.yaml source with
  | error failure => cases failure <;> exact iff_of_false nofun nofun
  | ok d =>
    cases hd : d.settings? <;> simp [hd]

theorem breaksOff_load_iff (hwording : libraries.wording.Quotes) :
    BreaksOff ConfigError.report (load libraries fs p).result ↔ DefectiveConfigFile libraries fs p := by
  cases hcontains : fs.contains p with
  | false =>
    rw [load, hcontains]
    refine iff_of_false (breaksOff_error_iff.not.mpr (Report.not_isBelow_about _ _ _)) ?_
    rintro (⟨h, -⟩ | ⟨hread, -⟩ | ⟨hread, -⟩ | ⟨hread, -⟩)
    · rw [hcontains] at h
      cases h
    all_goals
      rw [contains_of_read hread] at hcontains
      cases hcontains
  | true =>
    have hread : BreaksOff ConfigError.report ((fs.read p).mapError (ConfigError.unreadable p)) ↔
        ∃ e, fs.read p = .error e := breaksOff_mapError_iff_of_isBelow fun _ => Report.isBelow_below _ _
    have hdecode (content : Bytes) :
        BreaksOff ConfigError.report ((Charset.decodeUtf8 content).mapError ConfigError.undecodable) ↔
          ∃ misreading, Charset.decodeUtf8 content = .error misreading :=
      breaksOff_mapError_iff_of_isBelow fun _ => Report.isBelow_below _ _
    rw [load_result hcontains]
    simp only [breaksOff_bind_iff, hread, hdecode, mapError_eq_ok_iff, breaksOff_settingsOf_iff, settingsOf_eq_ok_iff,
      breaksOff_ofSettings_iff hwording]
    constructor
    · rintro (⟨e, hread⟩ | ⟨content, hread, ⟨e, hdecode⟩ | ⟨source, hdecode, ⟨defect, message, hyaml⟩ |
        ⟨entries, ⟨d, hyaml, hd⟩, hentries⟩⟩⟩)
      · exact .unreadable hcontains hread
      · exact .undecodable hread hdecode
      · exact .yaml hread hdecode hyaml
      · exact .settings hread hdecode hyaml hd hentries
    · intro h
      cases h with
      | unreadable _ hread => exact .inl ⟨_, hread⟩
      | undecodable hread hdecode => exact .inr ⟨_, hread, .inl ⟨_, hdecode⟩⟩
      | yaml hread hdecode hyaml => exact .inr ⟨_, hread, .inr ⟨_, hdecode, .inl ⟨_, _, hyaml⟩⟩⟩
      | settings hread hdecode hyaml hd hentries =>
        exact .inr ⟨_, hread, .inr ⟨_, hdecode, .inr ⟨_, ⟨_, hyaml, hd⟩, hentries⟩⟩⟩

/-- A configuration of directories alone never breaks off. -/
theorem not_breaksOff_ofDirectories (directories : List Path) :
    ¬ BreaksOff ConfigError.report (ofDirectories directories) := by
  by_cases h : directories = []
  · subst h
    exact breaksOff_error_iff.not.mpr (Report.not_isBelow_about _ _ _)
  · rw [ofDirectories, make_eq h, NamePattern.ofSource_defaultPattern]
    exact not_breaksOff_ok _

/-! ## The templates -/

/-- The files on which reading the templates breaks off. -/
inductive DefectiveTemplateFile (config : Config) (file : FoundFile) : Prop
  /-- The name of the encoding has a surrogate. -/
  | unwritable (hencoding : ¬ config.encoding.Encodable)
  /-- It has a null character. -/
  | null (hencoding : ('\x00' : CodePoint) ∈ config.encoding)
  /-- There is no encoding of the name. -/
  | unknown (hcontent : file.content ≠ []) (hencoding : Encoding.ofName? config.encoding = none)
  /-- The bytes are no text as a whole. -/
  | unfit {encoding : Encoding} {why : Charset.Unfit} (hcontent : file.content ≠ [])
    (hencoding : Encoding.ofName? config.encoding = some encoding)
    (hdecode : encoding.decode file.content = .error (.unfit why))

theorem breaksOff_templateOf_iff {config : Config} {file : FoundFile} :
    BreaksOff RegistryError.report (config.templateOf file) ↔ DefectiveTemplateFile config file := by
  have hsame : BreaksOff RegistryError.report (config.templateOf file) ↔
      BreaksOff RegistryError.report (config.decode file) :=
    exists_congr fun e => and_congr_left fun _ => templateOf_eq_error_iff
  rw [hsame, decode]
  by_cases hencodable : config.encoding.Encodable
  swap
  · obtain ⟨e, he⟩ := Text.exists_unencodable?_iff.mpr hencodable
    rw [he]
    exact iff_of_true (breaksOff_error_iff.mpr (Report.isBelow_below _ _)) (.unwritable hencodable)
  rw [Text.unencodable?_eq_none_iff.mpr hencodable]
  dsimp only
  split
  · rename_i h
    exact iff_of_true (breaksOff_error_iff.mpr (Report.isBelow_below _ _)) (.null (by simpa using h))
  · rename_i hnull
    split
    · rename_i h
      refine iff_of_false (not_breaksOff_ok _) ?_
      rintro (hencoding | hencoding | ⟨hcontent, -⟩ | ⟨hcontent, -, -⟩)
      · exact hencoding hencodable
      · exact hnull (by simpa using hencoding)
      · exact hcontent (by simpa using h)
      · exact hcontent (by simpa using h)
    · rename_i hcontent
      have hcontent : file.content ≠ [] := by simpa using hcontent
      cases hencoding : Encoding.ofName? config.encoding with
      | none =>
        refine iff_of_true (breaksOff_error_iff.mpr ?_) (.unknown hcontent hencoding)
        split <;> exact Report.isBelow_below _ _
      | some encoding =>
        have hdefective : DefectiveTemplateFile config file ↔
            ∃ why, encoding.decode file.content = .error (.unfit why) := by
          refine ⟨fun h => ?_, fun ⟨why, h⟩ => .unfit hcontent hencoding h⟩
          rcases h with hencoding | hmem | ⟨-, hnone⟩ | ⟨-, hsome, hdecode⟩
          · exact absurd hencodable hencoding
          · exact absurd (by simpa using hmem) hnull
          · rw [hencoding] at hnone
            cases hnone
          · rw [hencoding] at hsome
            cases hsome
            exact ⟨_, hdecode⟩
        rw [hdefective]
        dsimp only
        cases encoding.decode file.content with
        | ok s => exact iff_of_false (not_breaksOff_ok _) nofun
        | error fault =>
          cases fault with
          | misreading misreading =>
            exact iff_of_false (breaksOff_error_iff.not.mpr (Report.not_isBelow_about _ _ _)) nofun
          | unfit why => exact iff_of_true (breaksOff_error_iff.mpr (Report.isBelow_below _ _)) ⟨why, rfl⟩

theorem exists_templateOf_iff {config : Config} {file : FoundFile} :
    (∃ t, config.templateOf file = .ok t) ↔ ∃ source, config.decode file = .ok source := by
  simp [templateOf_eq_ok_iff]

/-- Reading the templates breaks off exactly if the first file that cannot be read is such a file. -/
theorem breaksOff_loadTemplates_iff {config : Config} :
    BreaksOff RegistryError.report (Templates.load config fs).result ↔
      ∃ front file back, config.files fs = front ++ file :: back ∧
        (∀ f ∈ front, ∃ source, config.decode f = .ok source) ∧ DefectiveTemplateFile config file := by
  simp only [Templates.load_result, breaksOff_map_iff, breaksOff_mapM_iff, exists_templateOf_iff,
    breaksOff_templateOf_iff]

end Config

/-! ## The data -/

/-- The files with data on which reading them breaks off. -/
inductive DefectiveDataFile (fs : FileSystem) (p : Path) : Prop
  /-- No file can have the path. -/
  | unnameable {why : Unnameable} (hpath : p.text.unnameable? = some why)
  /-- The bytes are no text in UTF-8. -/
  | undecodable {content : Bytes} {misreading : Misreading} (hread : fs.read p = .ok content)
    (hdecode : Charset.decodeUtf8 content = .error misreading)
  /-- An integer has too many digits. -/
  | numeral {content : Bytes} {source : Text} {digits : ℕ} (hread : fs.read p = .ok content)
    (hdecode : Charset.decodeUtf8 content = .ok source)
    (hjson : Json.read source.unifyLineEnds = .error (.numeralTooLong digits))

theorem Command.dataAt_eq :
    dataAt fs p = ((fs.read p).mapError (CommandError.unreadableData p)).bind fun content =>
      ((Charset.decodeUtf8 content).mapError CommandError.undecodableData).bind fun source =>
        (Json.read source.unifyLineEnds).mapError (CommandError.malformedData p source.unifyLineEnds) := rfl

theorem breaksOff_dataAt_iff : BreaksOff CommandError.report (Command.dataAt fs p) ↔ DefectiveDataFile fs p := by
  have hread : BreaksOff CommandError.report ((fs.read p).mapError (CommandError.unreadableData p)) ↔
      ∃ why, p.text.unnameable? = some why := by
    rw [breaksOff_mapError_iff fun _ => rfl]
    constructor
    · rintro ⟨e, he, hbelow⟩
      cases e with
      | unnameable why => exact ⟨why, FileSystem.read_eq_unnameable_iff.mp he⟩
      | _ => exact absurd hbelow (Report.not_isBelow_about _ _ _)
    · rintro ⟨why, h⟩
      exact ⟨_, FileSystem.read_eq_unnameable_iff.mpr h, Report.isBelow_below _ _⟩
  have hdecode (content : Bytes) :
      BreaksOff CommandError.report ((Charset.decodeUtf8 content).mapError CommandError.undecodableData) ↔
        ∃ misreading, Charset.decodeUtf8 content = .error misreading :=
    breaksOff_mapError_iff_of_isBelow fun _ => Report.isBelow_below _ _
  have hjson (source : Text) :
      BreaksOff CommandError.report ((Json.read source).mapError (CommandError.malformedData p source)) ↔
        ∃ digits, Json.read source = .error (.numeralTooLong digits) := by
    cases Json.read source with
    | ok v => exact iff_of_false (not_breaksOff_ok _) nofun
    | error fault =>
      cases fault with
      | malformed cause position =>
        exact iff_of_false (breaksOff_error_iff.not.mpr (Report.not_isBelow_about _ _ _)) nofun
      | numeralTooLong digits =>
        exact iff_of_true (breaksOff_error_iff.mpr (Report.isBelow_below _ _)) ⟨digits, rfl⟩
  rw [Command.dataAt_eq]
  simp only [breaksOff_bind_iff, hread, mapError_eq_ok_iff, hdecode, hjson]
  constructor
  · rintro (⟨why, hpath⟩ | ⟨content, hread, ⟨misreading, hdecode⟩ | ⟨source, hdecode, digits, hjson⟩⟩)
    · exact .unnameable hpath
    · exact .undecodable hread hdecode
    · exact .numeral hread hdecode hjson
  · intro h
    cases h with
    | unnameable hpath => exact .inl ⟨_, hpath⟩
    | undecodable hread hdecode => exact .inr ⟨_, hread, .inl ⟨_, hdecode⟩⟩
    | numeral hread hdecode hjson => exact .inr ⟨_, hread, .inr ⟨_, hdecode, _, hjson⟩⟩

/-! ## The page -/

theorem RenderError.isBelow_iff {e : RenderError} : e.report.IsBelow ↔ e.Escapes := by
  refine ⟨fun h => ?_, fun ⟨message, h⟩ => ⟨_, message, h⟩⟩
  cases e with
  | expression e =>
    cases e with
    | numeralTooLong digits => exact ⟨_, rfl⟩
    | _ => exact absurd h (Report.not_isBelow_about _ _ _)
  | display e => exact ⟨_, rfl⟩
  | cyclicInclude path => exact absurd h (Report.not_isBelow_about _ _ _)
  | tooDeep ceiling template => exact absurd h (Report.not_isBelow_about _ _ _)

namespace Engine

variable {engine : Engine} {name : Text} {data : Value}

/-- Rendering the template of a name with some data comes to an expression in which an integer is too long, or to one
whose value it cannot show because of such an integer. -/
def DefectivePage (engine : Engine) (name : Text) (data : Value) : Prop :=
  ∃ t, engine.templates.get engine.config name = .ok t ∧
    (HtmlTemplate.render t.source (engine.context t.name data)).FailsOnLongInteger

theorem render_result :
    (engine.render name data).result =
      ((engine.templates.get engine.config name).mapError EngineError.registry).bind fun t =>
        (HtmlTemplate.render t.source (engine.context t.name data)).result.mapError EngineError.render := by
  have htemplate (t : Template) : (engine.renderTemplate t data).result =
      (HtmlTemplate.render t.source (engine.context t.name data)).result.mapError EngineError.render := by
    rw [renderTemplate, Traced.result_andThen]
    dsimp only [Traced.mapError, Traced.filterMapTrace]
    cases (HtmlTemplate.render t.source (engine.context t.name data)).result <;> rfl
  simp only [Engine.render, Engine.get, Traced.result_andThen, Traced.result_ofResult, htemplate]

theorem breaksOff_render_iff :
    BreaksOff EngineError.report (engine.render name data).result ↔ engine.DefectivePage name data := by
  have hget : ¬ BreaksOff EngineError.report
      ((engine.templates.get engine.config name).mapError EngineError.registry) := by
    rw [Templates.get]
    split
    · exact not_breaksOff_ok _
    · exact breaksOff_error_iff.not.mpr (Report.not_isBelow_about _ _ _)
  have hrender (t : Template) : BreaksOff EngineError.report
      ((HtmlTemplate.render t.source (engine.context t.name data)).result.mapError EngineError.render) ↔
        ∃ e, (HtmlTemplate.render t.source (engine.context t.name data)).result = .error e ∧ e.Escapes := by
    rw [breaksOff_mapError_iff fun _ => rfl]
    exact exists_congr fun e => and_congr_right fun _ => RenderError.isBelow_iff
  simp only [render_result, breaksOff_bind_iff, hget, false_or, mapError_eq_ok_iff, hrender, exists_escapes_iff,
    DefectivePage]

end Engine

end HtmlTemplate
