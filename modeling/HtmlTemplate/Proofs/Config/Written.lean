import HtmlTemplate.Config.Read
import HtmlTemplate.Proofs.Config.Overlay
import HtmlTemplate.Proofs.Config.Rules
import HtmlTemplate.Proofs.Except

/-!
# The settings that are given

- `setting?`: what a setting is, by what is given in either spelling and by the default settings.
- `Written.OfGiven`: the settings as they are written, if what is given obeys the rules.
- The settings that the rules are applied to (`checked`) have what is given (`find?_checked`), unless the directories
  cannot be listed (`checked_eq_error_iff`), and they break no rule exactly if what is given obeys the rules
  (`violations_checked_iff`).
-/

namespace HtmlTemplate.Config

/-- Data that are given as settings. -/
def asGiven (given : Settings Datum) : Settings Setting := given.map fun (key, d) => (key, .datum d)

/-- Whether a key names a setting, in either spelling. -/
def spells (name : Text) : Datum → Bool
  | .text s => settingName s = name
  | _ => false

/-- What is given for a setting, in either spelling. What is given last counts. -/
def given? (name : Text) (given : Settings Datum) : Option Datum :=
  ((given.filter fun entry => spells name entry.1).getLast?).map Prod.snd

/-- What a setting is: what is given for it, or else its default. -/
def setting? (given : Settings Datum) (name : String) : Option Datum :=
  (given? name.text given).or (defaults.find? name.text)

/-- The texts of the directories that a datum gives: a text is one directory, and in another datum each part is one. -/
def directoryTexts : Datum → Except ConfigError (List Text)
  | .text s => .ok [s]
  | d => d.parts.bind fun parts => parts.mapM directoryText

/-- The settings of an engine as they are written: no directory has been looked up, and no pattern has been read. -/
structure Written where
  directories : List Text
  extensions : List Text
  pattern : Text
  ignoreCase : Bool
  maxDepth : Nat
  contentName : Text
  encoding : Text

/-- What is given obeys the rules, and these are the settings that it writes. -/
structure Written.OfGiven (given : Settings Datum) (w : Written) : Prop where
  known : ∀ entry ∈ given, ∃ name ∈ Schema.settingNames, spells name entry.1 = true
  directories : ∃ d, setting? given "directories" = some d ∧ directoryTexts d = .ok w.directories
  directories_ne : w.directories ≠ []
  directory_ne : ∀ s ∈ w.directories, s ≠ []
  extensions : ∃ identity items, setting? given "extensions" = some (.list identity items) ∧
    Datum.itemsOf identity items = w.extensions.map .text
  extensions_ne : w.extensions ≠ []
  extension_point : ∀ s ∈ w.extensions, s.head? = some ('.' : CodePoint)
  pattern : setting? given "nameDirectivePattern" = some (.text w.pattern)
  pattern_ne : w.pattern ≠ []
  ignoreCase : setting? given "caseInsensitiveNames" = some (.bool w.ignoreCase)
  maxDepth : ∃ n, setting? given "maxDepth" = some (.number n) ∧ n.toInt? = some (w.maxDepth : ℤ)
  contentName : setting? given "contentVarName" = some (.text w.contentName)
  contentName_ne : w.contentName ≠ []
  encoding : setting? given "encoding" = some (.text w.encoding)
  encoding_ne : w.encoding ≠ []

variable {given settings : Settings Datum} {name : Text}

/-! ## Spellings -/

/-- A key in the spelling of the rules. -/
def spelledKey : Datum → Datum
  | .text name => .text (settingName name)
  | key => key

/-- What is given, by the spelling of the rules. -/
def spelled (given : Settings Datum) : Settings Datum :=
  Settings.overlaid [] (given.map fun (key, d) => (spelledKey key, d))

theorem respelled_asGiven (given : Settings Datum) : respelled (asGiven given) = asGiven (spelled given) := by
  refine Eq.trans (congrArg (Settings.overlaid []) ?_) (Settings.overlaid_map Setting.datum [] _)
  rw [asGiven, List.map_map, List.map_map]
  refine List.map_congr_left fun entry _ => ?_
  obtain ⟨key, d⟩ := entry
  cases key <;> rfl

theorem find?_spelled (name : Text) (given : Settings Datum) : (spelled given).find? name = given? name given := by
  have hfirst (given : Settings Datum) : Settings.find? name (given.map fun (key, d) => (spelledKey key, d)) =
      ((given.filter fun entry => spells name entry.1).head?).map Prod.snd := by
    induction given with
    | nil => rfl
    | cons entry rest ih =>
      obtain ⟨key, d⟩ := entry
      cases key with
      | text s => by_cases h : settingName s = name <;> simp_all [Settings.find?, spelledKey, spells]
      | _ => simpa [Settings.find?, spelledKey, spells] using ih
  rw [spelled, Settings.find?_overlaid, ← List.map_reverse, hfirst, List.filter_reverse, List.head?_reverse, given?]
  exact Option.or_none ..

theorem nodup_names_spelled (given : Settings Datum) : (spelled given).names.Nodup :=
  Settings.nodup_names_overlaid (by exact List.nodup_nil) _

theorem mem_keys_spelled {key : Datum} :
    key ∈ (spelled given).map Prod.fst ↔ ∃ entry ∈ given, spelledKey entry.1 = key := by
  simp [spelled, Settings.mem_keys_overlaid]

theorem isSettingName_spelledKey {key : Datum} :
    Schema.isSettingName (spelledKey key) = true ↔ ∃ name ∈ Schema.settingNames, spells name key = true := by
  cases key <;> simp [Schema.isSettingName, spelledKey, spells]

/-! ## The settings that the rules are applied to -/

/-- The settings that the rules are applied to. -/
def checked (given : Settings Datum) : Except ConfigError (Settings Datum) := merged (respelled (asGiven given))

/-- The default settings with others laid over them. -/
def overDefaults (listed : Settings Datum) : Settings Datum :=
  defaults.overlaid (listed.map fun (key, d) => (key, d.renewed))

theorem checked_eq (given : Settings Datum) :
    checked given = (listDirectories (spelled given)).map overDefaults := by
  -- no pattern that has been read already is among the data, so that none is left out
  have hplain {plain : Settings Datum} (h : plain = spelled given) :
      ((listDirectories plain).bind fun listed => .ok (overDefaults listed)) =
        (listDirectories (spelled given)).map overDefaults := by
    rw [h]
    cases listDirectories (spelled given) <;> rfl
  rw [checked, respelled_asGiven]
  refine hplain ?_
  rw [asGiven, List.filterMap_map]
  refine (List.filterMap_congr fun entry _ => ?_).trans (List.filterMap_some ..)
  obtain ⟨key, d⟩ := entry
  cases key <;> rfl

theorem listDirectories_eq (settings : Settings Datum) :
    listDirectories settings =
      match settings.find? "directories".text with
      | none => .ok settings
      | some .null => .ok settings
      | some d => (directoryTexts d).map fun texts =>
          settings.put "directories".text (.list none (texts.map .text)) := by
  have hseveral (parts : Except ConfigError (List Datum)) (f : List Text → Settings Datum) :
      (parts.bind fun parts => (parts.mapM directoryText).bind fun texts => .ok (f texts)) =
        (parts.bind fun parts => parts.mapM directoryText).map f := by
    cases parts with
    | error e => rfl
    | ok parts =>
      rw [Except.bind, Except.bind]
      cases parts.mapM directoryText <;> rfl
  rw [listDirectories]
  cases settings.find? "directories".text with
  | none => rfl
  | some d =>
    cases d with
    | null => rfl
    | text s => rfl
    | _ => exact hseveral _ _

/-- The rules cannot be applied exactly if there are directories that cannot be listed. -/
theorem checked_eq_error_iff {e : ConfigError} :
    checked given = .error e ↔
      ∃ d, setting? given "directories" = some d ∧ d ≠ .null ∧ directoryTexts d = .error e := by
  rw [checked_eq, map_eq_error_iff, listDirectories_eq, find?_spelled, setting?]
  cases given? "directories".text given with
  | none =>
    have hdefault : defaults.find? "directories".text = some (.list none []) := rfl
    rw [Option.none_or, hdefault]
    refine iff_of_false nofun ?_
    rintro ⟨d, hd, -, htexts⟩
    cases hd
    cases htexts
  | some d => cases d <;> simp [map_eq_error_iff]

theorem defaults_renewed : (defaults.map fun (key, d) => (key, d.renewed)) = defaults := rfl

theorem find?_overDefaults {listed : Settings Datum} (h : listed.names.Nodup) (name : Text) :
    (overDefaults listed).find? name = ((listed.find? name).or (defaults.find? name)).map Datum.renewed := by
  have hlisted : Settings.find? name (listed.map fun (key, d) => (key, d.renewed)).reverse =
      (listed.find? name).map Datum.renewed := by
    rw [← List.map_reverse, Settings.find?_map, Settings.find?_reverse h]
  have hdefaults : defaults.find? name = (defaults.find? name).map Datum.renewed := by
    rw [← Settings.find?_map, defaults_renewed]
  rw [overDefaults, Settings.find?_overlaid, hlisted, Option.map_or, ← hdefaults]

theorem find?_checked (h : checked given = .ok settings) {name : String} (hname : name.text ≠ "directories".text) :
    settings.find? name.text = (setting? given name).map Datum.renewed := by
  rw [checked_eq, listDirectories_eq] at h
  have hspelled := nodup_names_spelled given
  rw [setting?, ← find?_spelled]
  split at h
  · cases h
    exact find?_overDefaults hspelled _
  · cases h
    exact find?_overDefaults hspelled _
  · rename_i d _ _
    cases htexts : directoryTexts d with
    | error e => rw [htexts] at h; cases h
    | ok texts =>
      rw [htexts] at h
      cases h
      rw [find?_overDefaults (Settings.nodup_names_put _ _ hspelled), Settings.find?_put_of_ne _ _ hname]

/-- The directories that the rules are applied to are null, or the list of the texts of those that are given. -/
theorem find?_checked_directories (h : checked given = .ok settings) :
    ∃ d d', setting? given "directories" = some d ∧ settings.find? "directories".text = some d' ∧
      (d = .null ∧ d' = .null ∨ ∃ texts, directoryTexts d = .ok texts ∧ d' = .list none (texts.map .text)) := by
  rw [checked_eq, listDirectories_eq] at h
  have hspelled := nodup_names_spelled given
  have hdefault : defaults.find? "directories".text = some (.list none []) := rfl
  rw [setting?, ← find?_spelled]
  split at h
  · rename_i hfind
    cases h
    rw [find?_overDefaults hspelled, hfind, hdefault]
    exact ⟨_, _, rfl, rfl, .inr ⟨[], rfl, rfl⟩⟩
  · rename_i hfind
    cases h
    rw [find?_overDefaults hspelled, hfind]
    exact ⟨_, _, rfl, rfl, .inl ⟨rfl, rfl⟩⟩
  · rename_i d _ hfind
    cases htexts : directoryTexts d with
    | error e => rw [htexts] at h; cases h
    | ok texts =>
      rw [htexts] at h
      cases h
      rw [find?_overDefaults (Settings.nodup_names_put _ _ hspelled), Settings.find?_put_self, hfind]
      exact ⟨_, _, rfl, rfl, .inr ⟨texts, htexts, rfl⟩⟩

/-! ## What the rules allow -/

theorem settingName_default : ∀ key ∈ defaults.map Prod.fst, Schema.isSettingName key = true := by decide +kernel

theorem isSome_default : ∀ name ∈ Schema.settingNames, (defaults.find? name).isSome = true := by decide +kernel

theorem known_checked_iff (h : checked given = .ok settings) :
    (∀ key ∈ settings.map Prod.fst, Schema.isSettingName key = true) ↔
      ∀ entry ∈ given, ∃ name ∈ Schema.settingNames, spells name entry.1 = true := by
  have hlisted {listed : Settings Datum} (hlisted : listDirectories (spelled given) = .ok listed) :
      (∀ key ∈ listed.map Prod.fst, Schema.isSettingName key = true) ↔
        ∀ key ∈ (spelled given).map Prod.fst, Schema.isSettingName key = true := by
    have hname : Schema.isSettingName (.text "directories".text) = true := by decide +kernel
    rw [listDirectories_eq] at hlisted
    split at hlisted
    · cases hlisted; rfl
    · cases hlisted; rfl
    · obtain ⟨texts, -, rfl⟩ := map_eq_ok_iff.mp hlisted
      simp only [Settings.mem_keys_put, forall_eq_or_imp, hname, true_and]
  rw [checked_eq] at h
  obtain ⟨listed, hok, rfl⟩ := map_eq_ok_iff.mp h
  have hkeys : (listed.map fun (key, d) => (key, d.renewed)).map Prod.fst = listed.map Prod.fst := by
    rw [List.map_map]
    rfl
  calc (∀ key ∈ (overDefaults listed).map Prod.fst, Schema.isSettingName key = true)
      ↔ ∀ key ∈ listed.map Prod.fst, Schema.isSettingName key = true := by
        simp only [overDefaults, Settings.mem_keys_overlaid, hkeys, or_imp, forall_and,
          and_iff_left settingName_default]
    _ ↔ ∀ key ∈ (spelled given).map Prod.fst, Schema.isSettingName key = true := hlisted hok
    _ ↔ ∀ entry ∈ given, ∃ name ∈ Schema.settingNames, spells name entry.1 = true := by
        simp only [mem_keys_spelled, forall_exists_index, and_imp, forall_apply_eq_imp_iff₂, isSettingName_spelledKey]

section Allowed

variable {P : Datum → Prop} {name : String}

/-- A rule for a setting other than the directories is a rule for what is given for it, or for its default. -/
theorem given_checked_iff (h : checked given = .ok settings) (hname : name.text ≠ "directories".text)
    (hdefault : name.text ∈ Schema.settingNames) :
    Schema.Given settings name P ↔ ∃ d, setting? given name = some d ∧ P d.renewed := by
  obtain ⟨d, hd⟩ : ∃ d, setting? given name = some d := by
    rw [← Option.isSome_iff_exists, setting?, Option.isSome_or, isSome_default _ hdefault, Bool.or_true]
  simp [Schema.Given, find?_checked h hname, hd]

theorem given_text_iff (h : checked given = .ok settings) (hname : name.text ≠ "directories".text)
    (hdefault : name.text ∈ Schema.settingNames) :
    Schema.Given settings name (Schema.checkText · = []) ↔ ∃ s, setting? given name = some (.text s) ∧ s ≠ [] := by
  have hrenewed (d : Datum) (s : Text) : d.renewed = .text s ↔ d = .text s := by cases d <;> simp [Datum.renewed]
  rw [given_checked_iff h hname hdefault]
  simp only [Schema.checkText_eq_nil_iff, hrenewed]
  grind

theorem given_bool_iff (h : checked given = .ok settings) (hname : name.text ≠ "directories".text)
    (hdefault : name.text ∈ Schema.settingNames) :
    Schema.Given settings name (Schema.checkBool · = []) ↔ ∃ b, setting? given name = some (.bool b) := by
  have hrenewed (d : Datum) (b : Bool) : d.renewed = .bool b ↔ d = .bool b := by cases d <;> simp [Datum.renewed]
  rw [given_checked_iff h hname hdefault]
  simp only [Schema.checkBool_eq_nil_iff, hrenewed]
  grind

theorem given_natural_iff (h : checked given = .ok settings) (hname : name.text ≠ "directories".text)
    (hdefault : name.text ∈ Schema.settingNames) :
    Schema.Given settings name (Schema.checkNatural · = []) ↔
      ∃ k : ℕ, ∃ n, setting? given name = some (.number n) ∧ n.toInt? = some (k : ℤ) := by
  have hrenewed (d : Datum) (n : Number) : d.renewed = .number n ↔ d = .number n := by
    cases d <;> simp [Datum.renewed]
  rw [given_checked_iff h hname hdefault]
  simp only [Schema.checkNatural_eq_nil_iff, hrenewed]
  grind

/-- Data that are all texts of some kind are such texts. -/
theorem forall_text_iff {Q : Text → Prop} {items : List Datum} :
    (∀ item ∈ items, ∃ s, item = .text s ∧ Q s) ↔ ∃ texts : List Text, items = texts.map .text ∧ ∀ s ∈ texts, Q s := by
  induction items with
  | nil => simp
  | cons item rest ih =>
    rw [List.forall_mem_cons, ih]
    constructor
    · rintro ⟨⟨s, rfl, hs⟩, texts, rfl, htexts⟩
      exact ⟨s :: texts, rfl, List.forall_mem_cons.mpr ⟨hs, htexts⟩⟩
    · rintro ⟨_ | ⟨s, texts⟩, heq, htexts⟩
      · cases heq
      · cases heq
        obtain ⟨hs, htexts⟩ := List.forall_mem_cons.mp htexts
        exact ⟨⟨s, rfl, hs⟩, texts, rfl, htexts⟩

theorem given_extensions_iff (h : checked given = .ok settings) (place : Text) :
    Schema.Given settings "extensions" (Schema.checkList Schema.checkExtension place · = []) ↔
      ∃ texts : List Text, (∃ identity items, setting? given "extensions" = some (.list identity items) ∧
        Datum.itemsOf identity items = texts.map .text) ∧ texts ≠ [] ∧
      ∀ s ∈ texts, s.head? = some ('.' : CodePoint) := by
  have hpoint (item : Datum) :
      Schema.checkExtension item = [] ↔ ∃ s : Text, item = .text s ∧ s.head? = some '.' := by
    rw [Schema.checkExtension_eq_nil_iff]
    constructor
    · rintro ⟨s, rfl⟩
      exact ⟨_, rfl, rfl⟩
    · rintro ⟨s, rfl, hs⟩
      exact ⟨s.tail, congrArg _ (List.cons_head?_tail hs).symm⟩
  rw [given_checked_iff h (by decide) (by decide)]
  simp only [Schema.checkList_eq_nil_iff, hpoint, forall_text_iff]
  constructor
  · rintro ⟨d, hd, _, _, hlist, hne, texts, rfl, hpoints⟩
    cases d with
    | list identity items =>
      obtain ⟨-, hitems⟩ := Datum.list.inj hlist
      exact ⟨texts, ⟨identity, items, hd, hitems⟩, by simpa using hne, hpoints⟩
    | _ => cases hlist
  · rintro ⟨texts, ⟨identity, items, hd, hitems⟩, hne, hpoints⟩
    exact ⟨_, hd, none, _, rfl, by simpa [hitems] using hne, texts, hitems, hpoints⟩

/-- The rules for the directories allow what is given exactly if it gives directories, and none is empty. -/
theorem given_directories_iff (h : checked given = .ok settings) (place : Text) :
    Schema.Given settings "directories" (Schema.checkList Schema.checkText place · = []) ↔
      ∃ texts : List Text, (∃ d, setting? given "directories" = some d ∧ directoryTexts d = .ok texts) ∧
        texts ≠ [] ∧ ∀ s ∈ texts, s ≠ [] := by
  obtain ⟨d, d', hd, hd', hlisted⟩ := find?_checked_directories h
  simp only [Schema.Given, hd, hd', Option.some.injEq, forall_eq', exists_eq_left', Schema.checkList_eq_nil_iff,
    Schema.checkText_eq_nil_iff, forall_text_iff]
  rcases hlisted with ⟨rfl, rfl⟩ | ⟨texts, htexts, rfl⟩
  · refine iff_of_false (by simp) ?_
    rintro ⟨texts, htexts, -⟩
    cases htexts
  · rw [htexts]
    constructor
    · rintro ⟨_, _, heq, hne, texts', hmap, hne'⟩
      obtain ⟨-, rfl⟩ := Datum.list.inj heq
      obtain rfl := List.map_injective_iff.mpr (fun _ _ => Datum.text.inj) hmap
      exact ⟨texts, rfl, by simpa using hne, hne'⟩
    · rintro ⟨texts', heq, hne, hne'⟩
      cases heq
      exact ⟨none, _, rfl, by simpa using hne, texts, rfl, hne'⟩

end Allowed

/-- The settings that the rules are applied to break none exactly if what is given obeys the rules. -/
theorem violations_checked_iff (h : checked given = .ok settings) :
    Schema.violations settings = [] ↔ ∃ w, Written.OfGiven given w := by
  have hdirectories : (settings.find? "directories".text).isSome := by
    obtain ⟨d, d', -, hd', -⟩ := find?_checked_directories h
    rw [hd', Option.isSome_some]
  rw [Schema.violations_eq_nil_iff, known_checked_iff h, iff_true_intro hdirectories, true_and,
    Schema.checkSettings_eq_nil_iff, given_bool_iff h (by decide) (by decide), given_text_iff h (by decide) (by decide),
    given_directories_iff h, given_text_iff h (by decide) (by decide), given_extensions_iff h,
    given_natural_iff h (by decide) (by decide), given_text_iff h (by decide) (by decide)]
  constructor
  · rintro ⟨hknown, ⟨ignoreCase, hcase⟩, ⟨contentName, hcontent⟩, ⟨directories, hdirs⟩, ⟨encoding, hencoding⟩,
      ⟨extensions, hexts⟩, ⟨maxDepth, hdepth⟩, ⟨pattern, hpattern⟩⟩
    exact ⟨⟨directories, extensions, pattern, ignoreCase, maxDepth, contentName, encoding⟩, hknown, hdirs.1, hdirs.2.1,
      hdirs.2.2, hexts.1, hexts.2.1, hexts.2.2, hpattern.1, hpattern.2, hcase, hdepth, hcontent.1, hcontent.2,
      hencoding.1, hencoding.2⟩
  · rintro ⟨w, hw⟩
    exact ⟨hw.known, ⟨_, hw.ignoreCase⟩, ⟨_, hw.contentName, hw.contentName_ne⟩,
      ⟨_, hw.directories, hw.directories_ne, hw.directory_ne⟩, ⟨_, hw.encoding, hw.encoding_ne⟩,
      ⟨_, hw.extensions, hw.extensions_ne, hw.extension_point⟩, ⟨_, hw.maxDepth⟩, ⟨_, hw.pattern, hw.pattern_ne⟩⟩

end HtmlTemplate.Config
