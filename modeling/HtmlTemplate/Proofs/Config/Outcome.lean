import HtmlTemplate.Proofs.Config.Wording
import HtmlTemplate.Proofs.Config.Written
import HtmlTemplate.Proofs.Report

/-!
# What becomes of settings that are given

- Data that are given as settings become a configuration exactly if they obey the rules, every home directory is known,
  and the pattern is one (`ofSettings_eq_ok_iff`); the configuration is `Sound`.
- `DefectiveSettings`: the data on which making a configuration breaks off below the language. All others are refused
  with an error of the configuration (`ofSettings_outcomes`).
- It does not matter in which spelling a setting is named (`spelled_eq_of_respelling`).
-/

namespace HtmlTemplate

/-- The causes for which reading a pattern breaks off below the language. -/
def Pattern.Cause.IsBelow : Pattern.Cause → Prop
  | .boundTooLarge => True
  | .boundTooLong _ => True
  | .opposedScopes => True
  | _ => False

namespace ConfigError

/-- The error is told as one of the configuration. -/
def IsConfiguration (e : ConfigError) : Prop :=
  ∃ message context, e.report = .language "ConfigurationError".text message context

theorem isBelow_badPattern {source : Text} {fault : Pattern.Fault} (h : fault.cause.IsBelow) :
    (badPattern source fault).report.IsBelow := by
  obtain ⟨cause, position⟩ := fault
  cases cause with
  | boundTooLarge => exact ⟨_, _, rfl⟩
  | boundTooLong digits => exact ⟨_, _, rfl⟩
  | opposedScopes => exact ⟨_, _, rfl⟩
  | _ => exact h.elim

theorem isConfiguration_badPattern {source : Text} {fault : Pattern.Fault} (h : ¬ fault.cause.IsBelow) :
    (badPattern source fault).IsConfiguration := by
  obtain ⟨cause, position⟩ := fault
  cases cause with
  | boundTooLarge => exact absurd trivial h
  | boundTooLong digits => exact absurd trivial h
  | opposedScopes => exact absurd trivial h
  | _ => exact ⟨_, _, rfl⟩

theorem isBelow_or_isConfiguration (e : ConfigError) : e.report.IsBelow ∨ e.IsConfiguration := by
  cases e with
  | badPattern source fault =>
    by_cases hcause : fault.cause.IsBelow
    · exact .inl (isBelow_badPattern hcause)
    · exact .inr (isConfiguration_badPattern hcause)
  | notIterable kind => exact .inl ⟨_, _, rfl⟩
  | notPath kind => exact .inl ⟨_, _, rfl⟩
  | noHome => exact .inl ⟨_, _, rfl⟩
  | unreadable path e => exact .inl ⟨_, _, rfl⟩
  | undecodable misreading => exact .inl ⟨_, _, rfl⟩
  | badYaml defect message => exact .inl ⟨_, _, rfl⟩
  | unwritable e => exact .inl ⟨_, _, rfl⟩
  | _ => exact .inr ⟨_, _, rfl⟩

theorem IsConfiguration.not_isBelow {e : ConfigError} (h : e.IsConfiguration) : ¬ e.report.IsBelow := by
  obtain ⟨message, context, hreport⟩ := h
  rw [hreport]
  exact Report.not_isBelow_language _ _ _

end ConfigError

namespace Config

variable {wording : Wording} {homes : Homes} {base : Option Path} {given other settings : Settings Datum} {w : Written}
  {config : Config}

/-- What every configuration has to be. -/
structure Sound (config : Config) : Prop where
  directories : config.directories ≠ []
  extensions : config.extensions ≠ []
  extension_point : ∀ s ∈ config.extensions, s.head? = some ('.' : CodePoint)
  contentName : config.contentName ≠ []
  encoding : config.encoding ≠ []

/-- The configuration that written settings make: the directories are looked up, and the pattern is read. -/
structure Written.Makes (homes : Homes) (base : Option Path) (w : Written) (config : Config) : Prop where
  directories : w.directories.mapM (directoryOf homes base) = .ok config.directories
  extensions : config.extensions = w.extensions
  namePattern : NamePattern.ofSource true w.pattern = .ok config.namePattern
  ignoreCase : config.ignoreCase = w.ignoreCase
  maxDepth : config.maxDepth = w.maxDepth
  contentName : config.contentName = w.contentName
  encoding : config.encoding = w.encoding

/-- The data with which making a configuration breaks off below the language. -/
inductive DefectiveSettings (homes : Homes) (given : Settings Datum) : Prop
  /-- A single thing is where the directories should be. -/
  | single {d : Datum} {e : ConfigError} (hd : setting? given "directories" = some d) (hnull : d ≠ .null)
    (hparts : d.parts = .error e)
  /-- Among the directories, or inside one of them, is an integer of too many digits. -/
  | directory {d part : Datum} {parts : List Datum} {e : DisplayError} (hd : setting? given "directories" = some d)
    (hparts : d.parts = .ok parts) (hpart : part ∈ parts) (htext : part.asText = .error e)
  /-- An integer that breaks a rule has too many digits for the message. -/
  | message {settings : Settings Datum} {v : Violation} (hsettings : checked given = .ok settings)
    (hv : v ∈ Schema.violations settings) (hbreach : v.breach.Unwritable)
  /-- The home directory of a user is not known. -/
  | home {w : Written} {s : Text} (hw : w.OfGiven given) (hs : s ∈ w.directories)
    (hhome : (Path.ofText s).expanded? homes = none)
  /-- The pattern has a fault of another kind. -/
  | pattern {w : Written} {fault : Pattern.Fault} (hw : w.OfGiven given)
    (hhomes : ∀ s ∈ w.directories, (Path.ofText s).expanded? homes ≠ none)
    (hpattern : NamePattern.ofSource true w.pattern = .error fault) (hcause : fault.cause.IsBelow)

/-! ## Stages -/

theorem ofSettings_asGiven (wording : Wording) (homes : Homes) (given : Settings Datum) (base : Option Path) :
    ofSettings wording homes (asGiven given) base =
      (checked given).bind fun settings => (validate wording settings).bind fun _ =>
        ((textsSetting settings "directories").mapM (directoryOf homes base)).bind fun directories =>
          make directories (textsSetting settings "extensions") (.inl (textSetting settings "nameDirectivePattern"))
            (boolSetting settings "caseInsensitiveNames") (intSetting settings "maxDepth")
            (textSetting settings "contentVarName") (textSetting settings "encoding") := by
  have hpattern : readPattern? (respelled (asGiven given)) = none := by
    rw [respelled_asGiven, readPattern?, asGiven, Settings.find?_map]
    cases Settings.find? "nameDirectivePattern".text (spelled given) <;> rfl
  rw [ofSettings, hpattern]
  rfl

theorem validate_eq_ok_iff : validate wording settings = .ok () ↔ Schema.violations settings = [] := by
  rw [validate]
  cases Schema.violations settings with
  | nil => exact iff_of_true rfl rfl
  | cons v rest =>
    refine iff_of_false ?_ (List.cons_ne_nil v rest)
    rw [mapM_cons_except]
    cases v.message wording with
    | error e => exact nofun
    | ok message => cases rest.mapM (Violation.message wording) <;> exact nofun

/-- Applying the rules breaks off exactly if the message about a rule that is broken cannot be written. -/
theorem breaksOff_validate_iff (hwording : wording.Quotes) :
    BreaksOff ConfigError.report (validate wording settings) ↔
      ∃ v ∈ Schema.violations settings, v.breach.Unwritable := by
  have hmessage (v : Violation) : v.breach.Unwritable ↔ ∃ e, v.message wording = .error e := by
    simp only [Violation.message, map_eq_error_iff, hwording v.breach]
  simp only [hmessage]
  rw [← exists_mapM_eq_error_iff, validate]
  split
  · rename_i h
    simp [h, not_breaksOff_ok]
  · rename_i h
    simpa [h, breaksOff_error_iff] using ConfigError.IsConfiguration.not_isBelow ⟨_, _, rfl⟩
  · rename_i e h
    exact iff_of_true (breaksOff_error_iff.mpr (Report.isBelow_below _ _)) ⟨e, h⟩

theorem directoryOf_eq_error_iff {s : Text} {e : ConfigError} :
    directoryOf homes base s = .error e ↔ (Path.ofText s).expanded? homes = none ∧ e = .noHome := by
  cases h : (Path.ofText s).expanded? homes <;> cases base <;> simp [directoryOf, h, eq_comm]

theorem breaksOff_directories_iff {texts : List Text} :
    BreaksOff ConfigError.report (texts.mapM (directoryOf homes base)) ↔
      ∃ s ∈ texts, (Path.ofText s).expanded? homes = none := by
  have hbelow (s : Text) (e : ConfigError) (h : directoryOf homes base s = .error e) : e.report.IsBelow := by
    rw [(directoryOf_eq_error_iff.mp h).2]
    exact Report.isBelow_below _ _
  simp [breaksOff_mapM_iff_of_isBelow hbelow, directoryOf_eq_error_iff]

theorem breaksOff_pattern_iff {source : Text} :
    BreaksOff ConfigError.report ((NamePattern.ofSource true source).mapError (ConfigError.badPattern source)) ↔
      ∃ fault, NamePattern.ofSource true source = .error fault ∧ fault.cause.IsBelow := by
  cases NamePattern.ofSource true source with
  | ok p => exact iff_of_false (not_breaksOff_ok p) nofun
  | error fault =>
    simp only [Except.mapError, breaksOff_error_iff, Except.error.injEq, exists_eq_left']
    refine ⟨fun h => ?_, ConfigError.isBelow_badPattern⟩
    by_contra hcause
    exact (ConfigError.isConfiguration_badPattern hcause).not_isBelow h

theorem make_eq {directories : List Path} (h : directories ≠ []) (extensions : List Text) (source : Text)
    (ignoreCase : Bool) (maxDepth : ℕ) (contentName encoding : Text) :
    make directories extensions (.inl source) ignoreCase maxDepth contentName encoding =
      ((NamePattern.ofSource true source).mapError (ConfigError.badPattern source)).map fun p =>
        ⟨directories, extensions, p, ignoreCase, maxDepth, contentName, encoding⟩ := by
  rw [make, if_neg (by simpa using h)]
  cases NamePattern.ofSource true source with
  | error fault => rfl
  | ok p => exact if_neg (by simp)

/-! ## Data that obey the rules -/

theorem textsSetting_of_find? {name : String} {identity : Identity} {texts : List Text}
    (h : settings.find? name.text = some (.list identity (texts.map .text))) :
    textsSetting settings name = texts := by
  rw [textsSetting, h]
  exact (List.filterMap_map ..).trans (List.filterMap_some ..)

theorem Written.OfGiven.exists_checked (hw : w.OfGiven given) :
    ∃ settings, checked given = .ok settings ∧ textsSetting settings "directories" = w.directories ∧
      textsSetting settings "extensions" = w.extensions ∧
      textSetting settings "nameDirectivePattern" = w.pattern ∧
      boolSetting settings "caseInsensitiveNames" = w.ignoreCase ∧ intSetting settings "maxDepth" = w.maxDepth ∧
      textSetting settings "contentVarName" = w.contentName ∧ textSetting settings "encoding" = w.encoding := by
  obtain ⟨d, hd, htexts⟩ := hw.directories
  obtain ⟨settings, hsettings⟩ : ∃ settings, checked given = .ok settings := by
    cases h : checked given with
    | ok settings => exact ⟨settings, rfl⟩
    | error e =>
      obtain ⟨d', hd', -, herror⟩ := checked_eq_error_iff.mp h
      rw [hd] at hd'
      cases hd'
      rw [htexts] at herror
      cases herror
  refine ⟨settings, hsettings, ?_, ?_, ?_, ?_, ?_, ?_, ?_⟩
  · obtain ⟨d', d'', hd', hfind, hlisted⟩ := find?_checked_directories hsettings
    rw [hd] at hd'
    cases hd'
    rcases hlisted with ⟨rfl, -⟩ | ⟨texts, htexts', rfl⟩
    · cases htexts
    · rw [htexts] at htexts'
      cases htexts'
      exact textsSetting_of_find? hfind
  · obtain ⟨identity, items, hexts, hitems⟩ := hw.extensions
    have hfind : settings.find? "extensions".text = some (.list none (w.extensions.map .text)) := by
      rw [find?_checked hsettings (by decide), hexts, Option.map_some, Datum.renewed, hitems]
    exact textsSetting_of_find? hfind
  · rw [textSetting, find?_checked hsettings (by decide), hw.pattern]
    rfl
  · rw [boolSetting, find?_checked hsettings (by decide), hw.ignoreCase]
    rfl
  · obtain ⟨n, hn, hdepth⟩ := hw.maxDepth
    rw [intSetting, find?_checked hsettings (by decide), hn]
    cases n with
    | int k => exact Option.some.inj hdepth
    | float x => exact (congrArg (Option.getD · 0) hdepth :)
  · rw [textSetting, find?_checked hsettings (by decide), hw.contentName]
    rfl
  · rw [textSetting, find?_checked hsettings (by decide), hw.encoding]
    rfl

/-- With settings that obey the rules the directories are looked up, and then the pattern is read. -/
theorem Written.OfGiven.ofSettings_eq (hw : w.OfGiven given) :
    ofSettings wording homes (asGiven given) base =
      (w.directories.mapM (directoryOf homes base)).bind fun directories =>
        ((NamePattern.ofSource true w.pattern).mapError (ConfigError.badPattern w.pattern)).map fun p =>
          ⟨directories, w.extensions, p, w.ignoreCase, w.maxDepth, w.contentName, w.encoding⟩ := by
  obtain ⟨settings, hsettings, hdirs, hexts, hpattern, hcase, hdepth, hcontent, hencoding⟩ := hw.exists_checked
  have hvalid : validate wording settings = .ok () :=
    validate_eq_ok_iff.mpr ((violations_checked_iff hsettings).mpr ⟨w, hw⟩)
  rw [ofSettings_asGiven, hsettings, Except.bind, hvalid, Except.bind, hdirs, hexts, hpattern, hcase, hdepth, hcontent,
    hencoding]
  cases hpaths : w.directories.mapM (directoryOf homes base) with
  | error e => rfl
  | ok directories =>
    refine make_eq ?_ _ _ _ _ _ _
    rintro rfl
    exact hw.directories_ne (List.forall₂_nil_right_iff.mp (mapM_eq_ok_iff.mp hpaths))

/-- Data become a configuration exactly if they obey the rules, each home directory is known, and the pattern is one. -/
theorem ofSettings_eq_ok_iff :
    ofSettings wording homes (asGiven given) base = .ok config ↔
      ∃ w : Written, w.OfGiven given ∧ w.Makes homes base config := by
  constructor
  · intro h
    obtain ⟨w, hw⟩ : ∃ w, Written.OfGiven given w := by
      rw [ofSettings_asGiven, bind_eq_ok_iff] at h
      obtain ⟨settings, hsettings, h⟩ := h
      obtain ⟨_, hvalid, -⟩ := bind_eq_ok_iff.mp h
      exact (violations_checked_iff hsettings).mp (validate_eq_ok_iff.mp hvalid)
    rw [hw.ofSettings_eq, bind_eq_ok_iff] at h
    obtain ⟨directories, hpaths, h⟩ := h
    obtain ⟨p, hp, rfl⟩ := map_eq_ok_iff.mp h
    exact ⟨w, hw, hpaths, rfl, mapError_eq_ok_iff.mp hp, rfl, rfl, rfl, rfl⟩
  · rintro ⟨w, hw, hmakes⟩
    obtain ⟨directories, extensions, p, ignoreCase, maxDepth, contentName, encoding⟩ := config
    obtain ⟨hpaths, rfl, hp, rfl, rfl, rfl, rfl⟩ := hmakes
    rw [hw.ofSettings_eq, hpaths, hp]
    rfl

theorem Written.Makes.sound (hw : w.OfGiven given) (h : w.Makes homes base config) : config.Sound where
  directories hnil := by
    exact hw.directories_ne (List.forall₂_nil_right_iff.mp (mapM_eq_ok_iff.mp (hnil ▸ h.directories)))
  extensions := h.extensions ▸ hw.extensions_ne
  extension_point := h.extensions ▸ hw.extension_point
  contentName := h.contentName ▸ hw.contentName_ne
  encoding := h.encoding ▸ hw.encoding_ne

/-! ## Data that make no configuration -/

theorem isBelow_of_parts {d : Datum} {e : ConfigError} (h : d.parts = .error e) : e.report.IsBelow := by
  cases d <;> cases h <;> exact Report.isBelow_below _ _

theorem isBelow_of_directoryText {part : Datum} {e : ConfigError} (h : directoryText part = .error e) :
    e.report.IsBelow := by
  rw [directoryText] at h
  cases htext : part.asText with
  | ok s => rw [htext] at h; cases h
  | error e' =>
    rw [htext] at h
    cases h
    exact Report.isBelow_below _ _

theorem directoryTexts_of_not_text {d : Datum} (h : ∀ s, d ≠ .text s) :
    directoryTexts d = d.parts.bind fun parts => parts.mapM directoryText := by
  cases d with
  | text s => exact absurd rfl (h s)
  | _ => rfl

theorem breaksOff_directoryTexts_iff {d : Datum} :
    BreaksOff ConfigError.report (directoryTexts d) ↔
      (∃ e, d.parts = .error e) ∨ ∃ parts, d.parts = .ok parts ∧ ∃ part ∈ parts, ∃ e, part.asText = .error e := by
  by_cases htext : ∃ s, d = .text s
  · obtain ⟨s, rfl⟩ := htext
    refine iff_of_false (not_breaksOff_ok _) ?_
    rintro (⟨e, hparts⟩ | ⟨parts, hparts, part, hpart, e, htext⟩)
    · cases hparts
    · cases hparts
      obtain ⟨c, -, rfl⟩ := List.mem_map.mp hpart
      cases htext
  · have hpart (part : Datum) : (∃ e, directoryText part = .error e) ↔ ∃ e, part.asText = .error e := by
      rw [directoryText]
      cases part.asText with
      | ok s => exact iff_of_false nofun nofun
      | error e => exact iff_of_true ⟨_, rfl⟩ ⟨_, rfl⟩
    rw [directoryTexts_of_not_text fun s hs => htext ⟨s, hs⟩, breaksOff_bind_iff,
      breaksOff_iff_of_isBelow fun e => isBelow_of_parts]
    simp only [breaksOff_mapM_iff_of_isBelow fun part e => isBelow_of_directoryText, hpart]

theorem breaksOff_checked_iff :
    BreaksOff ConfigError.report (checked given) ↔
      ∃ d, setting? given "directories" = some d ∧ d ≠ .null ∧ BreaksOff ConfigError.report (directoryTexts d) := by
  simp only [BreaksOff, checked_eq_error_iff]
  grind

/-- Making a configuration breaks off exactly for the data of `DefectiveSettings`. -/
theorem breaksOff_ofSettings_iff (hwording : wording.Quotes) :
    BreaksOff ConfigError.report (ofSettings wording homes (asGiven given) base) ↔ DefectiveSettings homes given := by
  constructor
  · intro h
    by_cases hw : ∃ w, Written.OfGiven given w
    · obtain ⟨w, hw⟩ := hw
      rw [hw.ofSettings_eq, breaksOff_bind_iff, breaksOff_directories_iff] at h
      rcases h with ⟨s, hs, hhome⟩ | ⟨directories, hpaths, h⟩
      · exact .home hw hs hhome
      · obtain ⟨fault, hpattern, hcause⟩ := breaksOff_pattern_iff.mp (breaksOff_map_iff.mp h)
        refine .pattern hw (fun s hs hnone => ?_) hpattern hcause
        exact not_breaksOff_ok _ (hpaths ▸ breaksOff_directories_iff.mpr ⟨s, hs, hnone⟩)
    -- data that break rules are refused for the rules, unless they break off before or with the messages
    · rw [ofSettings_asGiven, breaksOff_bind_iff, breaksOff_checked_iff] at h
      rcases h with ⟨d, hd, hnull, h⟩ | ⟨settings, hsettings, h⟩
      · rcases breaksOff_directoryTexts_iff.mp h with ⟨e, hparts⟩ | ⟨parts, hparts, part, hpart, e, htext⟩
        · exact .single hd hnull hparts
        · exact .directory hd hparts hpart htext
      · rcases breaksOff_bind_iff.mp h with h | ⟨_, hvalid, -⟩
        · obtain ⟨v, hv, hbreach⟩ := (breaksOff_validate_iff hwording).mp h
          exact .message hsettings hv hbreach
        · exact absurd ((violations_checked_iff hsettings).mp (validate_eq_ok_iff.mp hvalid)) hw
  · intro h
    cases h with
    | single hd hnull hparts =>
      rw [ofSettings_asGiven, breaksOff_bind_iff, breaksOff_checked_iff]
      exact .inl ⟨_, hd, hnull, breaksOff_directoryTexts_iff.mpr (.inl ⟨_, hparts⟩)⟩
    | directory hd hparts hpart htext =>
      rw [ofSettings_asGiven, breaksOff_bind_iff, breaksOff_checked_iff]
      refine .inl ⟨_, hd, ?_, breaksOff_directoryTexts_iff.mpr (.inr ⟨_, hparts, _, hpart, _, htext⟩)⟩
      rintro rfl
      cases hparts
    | message hsettings hv hbreach =>
      rw [ofSettings_asGiven, breaksOff_bind_iff]
      exact .inr ⟨_, hsettings, breaksOff_bind_iff.mpr (.inl ((breaksOff_validate_iff hwording).mpr ⟨_, hv, hbreach⟩))⟩
    | home hw hs hhome =>
      rw [hw.ofSettings_eq, breaksOff_bind_iff]
      exact .inl (breaksOff_directories_iff.mpr ⟨_, hs, hhome⟩)
    | @pattern w fault hw hhomes hpattern hcause =>
      obtain ⟨directories, hpaths⟩ : ∃ directories, w.directories.mapM (directoryOf homes base) = .ok directories := by
        refine exists_mapM_eq_ok fun s hs => ?_
        cases h : directoryOf homes base s with
        | ok p => exact ⟨p, rfl⟩
        | error e => exact absurd (directoryOf_eq_error_iff.mp h).1 (hhomes s hs)
      rw [hw.ofSettings_eq, breaksOff_bind_iff]
      exact .inr ⟨directories, hpaths, breaksOff_map_iff.mpr (breaksOff_pattern_iff.mpr ⟨fault, hpattern, hcause⟩)⟩

/-! ## Spellings -/

/-- Two ways to give the same setting: the same key, or the one spelling of a name for the other. -/
inductive Respelling : Datum × Datum → Datum × Datum → Prop
  | same (entry : Datum × Datum) : Respelling entry entry
  | joined {snake camel : String} (h : (snake, camel) ∈ otherSpellings) (d : Datum) :
    Respelling (.text snake.text, d) (.text camel.text, d)
  | parted {snake camel : String} (h : (snake, camel) ∈ otherSpellings) (d : Datum) :
    Respelling (.text camel.text, d) (.text snake.text, d)

theorem settingName_otherSpellings :
    ∀ names ∈ otherSpellings,
      settingName names.1.text = names.2.text ∧ settingName names.2.text = names.2.text := by
  decide +kernel

theorem spelled_eq_of_respelling (h : List.Forall₂ Respelling given other) : spelled given = spelled other := by
  have hone (entry entry' : Datum × Datum) (h : Respelling entry entry') :
      (spelledKey entry.1, entry.2) = (spelledKey entry'.1, entry'.2) := by
    cases h with
    | same => rfl
    | joined h d => rw [spelledKey, spelledKey, (settingName_otherSpellings _ h).1, (settingName_otherSpellings _ h).2]
    | parted h d => rw [spelledKey, spelledKey, (settingName_otherSpellings _ h).1, (settingName_otherSpellings _ h).2]
  refine congrArg (Settings.overlaid []) ?_
  induction h with
  | nil => rfl
  | cons hentry _ ih => exact congrArg₂ List.cons (hone _ _ hentry) ih

/-- **What becomes of settings that are given.** Unless they are of the kinds of `DefectiveSettings`, there is a sound
configuration with what is given, or the defaults where nothing is given; or there is no such configuration, and they
are refused with an error of the configuration. On data of those kinds making a configuration breaks off. It does not
matter in which spelling a setting is named. All this holds whatever words are found for breaches of the rules, as long
as they quote the data. -/
theorem ofSettings_outcomes (wording : Wording) (hwording : wording.Quotes) (homes : Homes) (given : Settings Datum)
    (base : Option Path) :
    (¬ DefectiveSettings homes given →
      (∃ config w, ofSettings wording homes (asGiven given) base = .ok config ∧ config.Sound ∧
          Written.OfGiven given w ∧ w.Makes homes base config) ∨
        ∃ e, ofSettings wording homes (asGiven given) base = .error e ∧ e.IsConfiguration ∧
          ∀ config w, Written.OfGiven given w → ¬ w.Makes homes base config) ∧
    (DefectiveSettings homes given → BreaksOff ConfigError.report (ofSettings wording homes (asGiven given) base)) ∧
    ∀ other, List.Forall₂ Respelling given other →
      ofSettings wording homes (asGiven other) base = ofSettings wording homes (asGiven given) base := by
  refine ⟨fun hsafe => ?_, (breaksOff_ofSettings_iff hwording).mpr, fun other h => ?_⟩
  · cases h : ofSettings wording homes (asGiven given) base with
    | ok config =>
      obtain ⟨w, hw, hmakes⟩ := ofSettings_eq_ok_iff.mp h
      exact .inl ⟨config, w, rfl, hmakes.sound hw, hw, hmakes⟩
    | error e =>
      refine .inr ⟨e, rfl, ?_, fun config w hw hmakes => ?_⟩
      · refine e.isBelow_or_isConfiguration.resolve_left fun hbelow => hsafe ?_
        exact (breaksOff_ofSettings_iff hwording).mp ⟨e, h, hbelow⟩
      · rw [ofSettings_eq_ok_iff.mpr ⟨w, hw, hmakes⟩] at h
        cases h
  · rw [ofSettings_asGiven, ofSettings_asGiven, checked_eq, checked_eq, spelled_eq_of_respelling h]

/-- A directory, a depth and a name, and the depth and the name by one spelling. -/
def snakeSettings : Settings Datum :=
  [(.text "directories".text, .text ['t']), (.text "max_depth".text, .ofInt 3),
    (.text "content_var_name".text, .text "main".text)]

/-- The same settings by the other spelling. -/
def camelSettings : Settings Datum :=
  [(.text "directories".text, .text ['t']), (.text "maxDepth".text, .ofInt 3),
    (.text "contentVarName".text, .text "main".text)]

/-- A number in the place of the directories. -/
def countedSettings : Settings Datum := [(.text "directories".text, .ofInt 5)]

theorem ofSettings_outcomes_samples :
    Wording.Quotes Breach.message ∧ ¬ DefectiveSettings ⟨none, []⟩ snakeSettings ∧
      List.Forall₂ Respelling snakeSettings camelSettings ∧ DefectiveSettings ⟨none, []⟩ countedSettings ∧
      (∃ config w, ofSettings Breach.message ⟨none, []⟩ (asGiven snakeSettings) none = .ok config ∧ config.Sound ∧
        Written.OfGiven snakeSettings w ∧ w.Makes ⟨none, []⟩ none config) ∧
      ofSettings Breach.message ⟨none, []⟩ (asGiven camelSettings) none =
        ofSettings Breach.message ⟨none, []⟩ (asGiven snakeSettings) none ∧
      BreaksOff ConfigError.report (ofSettings Breach.message ⟨none, []⟩ (asGiven countedSettings) none) := by
  have hok : (ofSettings Breach.message ⟨none, []⟩ (asGiven snakeSettings) none).isOk = true := by decide +kernel
  have hsafe : ¬ DefectiveSettings ⟨none, []⟩ snakeSettings := by
    intro h
    obtain ⟨e, he, -⟩ := (breaksOff_ofSettings_iff Breach.message_quotes).mpr h
    rw [he] at hok
    cases hok
  have hspelled : List.Forall₂ Respelling snakeSettings camelSettings :=
    .cons (.same _) (.cons (.joined (by decide) _) (.cons (.joined (by decide) _) .nil))
  have hcounted : DefectiveSettings ⟨none, []⟩ countedSettings := .single rfl nofun rfl
  refine ⟨Breach.message_quotes, hsafe, hspelled, hcounted, ?_,
    (ofSettings_outcomes _ Breach.message_quotes _ _ _).2.2 _ hspelled,
    (ofSettings_outcomes _ Breach.message_quotes _ _ _).2.1 hcounted⟩
  rcases (ofSettings_outcomes _ Breach.message_quotes ⟨none, []⟩ snakeSettings none).1 hsafe with h | ⟨e, he, -⟩
  · exact h
  · rw [he] at hok
    cases hok

/-- A number in the place of the directories is no breach of a rule, but breaks off before the rules are applied. -/
theorem number_of_directories_breaks_off :
    ∃ e, ofSettings Breach.message ⟨none, []⟩ (asGiven countedSettings) none = .error e ∧
      e.report = .below .badKind "'int' object is not iterable".text :=
  ⟨_, rfl, rfl⟩

end Config

end HtmlTemplate
