import HtmlTemplate.Proofs.Except
import HtmlTemplate.Proofs.Template.Store
import HtmlTemplate.Proofs.Trace

/-!
# Runs of the registry

A run is a sequence of calls, each of which registers a template or reloads all of them from whatever files there are at
the time. What a call does is said once: it fails for a reason that the templates have no part in (`Fails`), or it adds
templates one after the other, a reload to none (`after_reload`) and a registration to those there are
(`after_of_not_reloads`). So the templates after a run are those in the files of the last reload that succeeded and
those registered since, of each name the last one (`registry_run`).
-/

namespace HtmlTemplate

/-! ## What a reload finds -/

namespace Config

/-- The files that hold templates, in the order in which they are read. -/
def files (config : Config) (fs : FileSystem) : List FoundFile :=
  config.directories.flatMap fun root => (fs.walk? config.holdsTemplate root).getD []

theorem templateOf_eq_error_iff {config : Config} {file : FoundFile} {e : RegistryError} :
    config.templateOf file = .error e ↔ config.decode file = .error e := by
  rw [templateOf]
  cases config.decode file with
  | error e' => simp
  | ok source => exact iff_of_false nofun nofun

theorem templateOf_eq_ok_iff {config : Config} {file : FoundFile} {t : Template} :
    config.templateOf file = .ok t ↔
      ∃ source, config.decode file = .ok source ∧ t = ⟨config.nameOf file source, source, some file.path.text⟩ := by
  rw [templateOf]
  cases config.decode file with
  | error e => exact iff_of_false nofun nofun
  | ok source => simp [eq_comm]

end Config

namespace Templates

theorem addFiles_result (config : Config) (files : List FoundFile) (templates : Templates) :
    (addFiles config files templates).result =
      (files.mapM config.templateOf).map fun found => insertAll found templates := by
  induction files generalizing templates with
  | nil => rfl
  | cons file rest ih =>
    rw [addFiles, Traced.result_andThen, addFile, mapM_cons_except]
    cases config.templateOf file with
    | error e => rfl
    | ok t =>
      refine (ih (insert t templates)).trans ?_
      cases rest.mapM config.templateOf <;> rfl

theorem addDirectories_result (config : Config) (fs : FileSystem) (roots : List Path) (templates : Templates) :
    (addDirectories config fs roots templates).result =
      ((roots.flatMap fun root => (fs.walk? config.holdsTemplate root).getD []).mapM config.templateOf).map
        fun found => insertAll found templates := by
  induction roots generalizing templates with
  | nil => rfl
  | cons root rest ih =>
    rw [addDirectories, Traced.result_andThen, List.flatMap_cons, mapM_append_except]
    cases fs.walk? config.holdsTemplate root with
    | none =>
      refine (ih templates).trans ?_
      cases (rest.flatMap _).mapM config.templateOf <;> rfl
    | some files =>
      dsimp only [Option.getD_some]
      rw [addFiles_result]
      cases files.mapM config.templateOf with
      | error e => rfl
      | ok found =>
        refine (ih (insertAll found templates)).trans ?_
        cases (rest.flatMap _).mapM config.templateOf with
        | error e => rfl
        | ok others => exact congrArg Except.ok (insertAll_append found others templates).symm

theorem load_result (config : Config) (fs : FileSystem) :
    (load config fs).result = ((config.files fs).mapM config.templateOf).map fun found => insertAll found [] := by
  rw [load, Traced.result_andThen, addDirectories_result, ← Config.files]
  cases (config.files fs).mapM config.templateOf <;> rfl

end Templates

/-! ## One call -/

/-- A call that changes the templates: one is registered for a name and a source, or those in the directories are
loaded, which may have changed since. -/
inductive RegistryCall where
  | register (name source : Text) (path : Option Text)
  | reload (fs : FileSystem)

namespace RegistryCall

/-- The templates that a call leaves, if it succeeds. -/
def result (config : Config) (templates : Templates) : RegistryCall → Except RegistryError Templates
  | .register name source path => (templates.register config name source path).result.map Prod.fst
  | .reload fs => (Templates.load config fs).result

/-- The templates after a call: those that it leaves take the place of all others, and only if it succeeds. -/
def after (config : Config) (templates : Templates) (call : RegistryCall) : Templates :=
  match call.result config templates with
  | .ok changed => changed
  | .error _ => templates

/-- When a call fails, and for what reason: the name is blank, or some file cannot be read as a text, and each that is
read before it can. -/
inductive Fails (config : Config) : RegistryCall → RegistryError → Prop
  | blank {name source : Text} {path : Option Text} : name.allBlank = true →
      Fails config (.register name source path) .emptyName
  | unread {fs : FileSystem} {front back : List FoundFile} {file : FoundFile} {e : RegistryError} :
      config.files fs = front ++ file :: back → (∀ f ∈ front, ∃ source, config.decode f = .ok source) →
      config.decode file = .error e → Fails config (.reload fs) e

/-- Whether a call is a reload that succeeds. -/
def Reloads (config : Config) (call : RegistryCall) : Prop := (∃ fs, call = reload fs) ∧ ∀ e, ¬ call.Fails config e

/-- The template that a call registers, if it does. -/
def registered? (config : Config) : RegistryCall → Option Template
  | .register name source path => Templates.registered? config name source path
  | .reload _ => none

theorem registered?_eq_none_iff {config : Config} {name source : Text} {path : Option Text} :
    Templates.registered? config name source path = none ↔ name.allBlank = true := by
  rw [Templates.registered?, ← config.normalName_eq_nil_iff]
  simp

/-- What is registered has the normal form of a name that is not blank. -/
theorem name_of_registered? {config : Config} {call : RegistryCall} {t : Template}
    (h : call.registered? config = some t) : ∃ name, config.normalName name = t.name ∧ t.name ≠ [] := by
  cases call with
  | reload fs => cases h
  | register name source path =>
    rw [registered?, Templates.registered?] at h
    split at h
    · cases h
    · rename_i hne
      cases h
      exact ⟨name, rfl, by simpa using hne⟩

theorem result_register (config : Config) (templates : Templates) (name source : Text) (path : Option Text) :
    (register name source path).result config templates =
      match Templates.registered? config name source path with
      | none => .error .emptyName
      | some t => .ok (templates.insert t) := by
  rw [result, Templates.register]
  cases Templates.registered? config name source path <;> rfl

theorem fails_reload_iff {config : Config} {fs : FileSystem} {e : RegistryError} :
    (reload fs).Fails config e ↔ (config.files fs).mapM config.templateOf = .error e := by
  rw [mapM_eq_error_iff]
  constructor
  · rintro (_ | ⟨hfiles, hfront, he⟩)
    refine ⟨_, _, _, hfiles, fun f hf => ?_, Config.templateOf_eq_error_iff.mpr he⟩
    obtain ⟨source, hsource⟩ := hfront f hf
    exact ⟨_, Config.templateOf_eq_ok_iff.mpr ⟨source, hsource, rfl⟩⟩
  · rintro ⟨front, file, back, hfiles, hfront, he⟩
    refine .unread hfiles (fun f hf => ?_) (Config.templateOf_eq_error_iff.mp he)
    obtain ⟨t, ht⟩ := hfront f hf
    obtain ⟨source, hsource, -⟩ := Config.templateOf_eq_ok_iff.mp ht
    exact ⟨source, hsource⟩

/-- Whether a call fails, and for what reason, is not up to the templates. -/
theorem result_eq_error_iff {config : Config} {templates : Templates} {call : RegistryCall} {e : RegistryError} :
    call.result config templates = .error e ↔ call.Fails config e := by
  cases call with
  | register name source path =>
    rw [result_register]
    constructor
    · intro h
      split at h
      · rename_i hnone
        cases h
        exact .blank (registered?_eq_none_iff.mp hnone)
      · cases h
    · rintro ⟨hblank⟩
      rw [registered?_eq_none_iff.mpr hblank]
  | reload fs =>
    rw [fails_reload_iff, result, Templates.load_result, map_eq_error_iff]

theorem after_of_fails {config : Config} {call : RegistryCall} {e : RegistryError} (h : call.Fails config e)
    (templates : Templates) : call.after config templates = templates := by
  rw [after, result_eq_error_iff.mpr h]

theorem after_reload {config : Config} {fs : FileSystem} {found : List Template}
    (h : (config.files fs).mapM config.templateOf = .ok found) (templates : Templates) :
    (reload fs).after config templates = Templates.insertAll found [] := by
  rw [after, result, Templates.load_result, h]
  rfl

/-- A call that is no reload, or one that fails, adds what it registers, if it does. -/
theorem after_of_not_reloads {config : Config} {call : RegistryCall} (h : ¬ call.Reloads config)
    (templates : Templates) :
    call.after config templates = Templates.insertAll (call.registered? config).toList templates := by
  cases call with
  | register name source path =>
    rw [after, result_register, registered?]
    cases Templates.registered? config name source path <;> rfl
  | reload fs =>
    obtain ⟨e, he⟩ : ∃ e, (reload fs).Fails config e := by simpa [Reloads] using h
    exact after_of_fails he templates

end RegistryCall

/-! ## Runs -/

/-- The templates after a run of calls that starts without any. -/
def Templates.run (config : Config) (calls : List RegistryCall) : Templates :=
  calls.foldl (RegistryCall.after config) []

theorem Templates.run_snoc (config : Config) (calls : List RegistryCall) (call : RegistryCall) :
    run config (calls ++ [call]) = call.after config (run config calls) := by
  rw [run, List.foldl_append]
  rfl

/-- What the last reload of a run that succeeds has read, and the calls after it: no file and all of the calls, if no
reload does. -/
inductive LastReload (config : Config) : List RegistryCall → List FoundFile → List RegistryCall → Prop
  | never {calls : List RegistryCall} : (∀ call ∈ calls, ¬ call.Reloads config) → LastReload config calls [] calls
  | last {before later : List RegistryCall} {fs : FileSystem} : (RegistryCall.reload fs).Reloads config →
      (∀ call ∈ later, ¬ call.Reloads config) →
      LastReload config (before ++ .reload fs :: later) (config.files fs) later

theorem LastReload.snoc {config : Config} {calls later : List RegistryCall} {files : List FoundFile}
    {call : RegistryCall} (h : LastReload config calls files later) (hcall : ¬ call.Reloads config) :
    LastReload config (calls ++ [call]) files (later ++ [call]) := by
  have hnone : ∀ {calls : List RegistryCall}, (∀ c ∈ calls, ¬ c.Reloads config) →
      ∀ c ∈ calls ++ [call], ¬ c.Reloads config := fun hcalls =>
    List.forall_mem_append.mpr ⟨hcalls, List.forall_mem_singleton.mpr hcall⟩
  cases h with
  | never hcalls => exact .never (hnone hcalls)
  | last hfs hlater =>
    rw [List.append_assoc, List.cons_append]
    exact .last hfs (hnone hlater)

/-- What has been read and registered in a run. -/
structure Written (config : Config) (calls : List RegistryCall) (files : List FoundFile) (found : List Template)
    (later : List RegistryCall) : Prop where
  lastReload : LastReload config calls files later
  found_eq : files.mapM config.templateOf = .ok found
  run_eq : Templates.run config calls =
    Templates.insertAll (found ++ later.filterMap (RegistryCall.registered? config)) []

/-- One more call is a reload that succeeds, or comes to the calls after the last one. -/
theorem exists_written (config : Config) (calls : List RegistryCall) :
    ∃ files found later, Written config calls files found later := by
  induction calls using List.reverseRecOn with
  | nil => exact ⟨[], [], [], .never nofun, rfl, rfl⟩
  | append_singleton calls call ih =>
    obtain ⟨files, found, later, hlast, hfound, hrun⟩ := ih
    by_cases hcall : call.Reloads config
    · obtain ⟨⟨fs, rfl⟩, hfs⟩ := hcall
      cases hread : (config.files fs).mapM config.templateOf with
      | error e => exact absurd (RegistryCall.fails_reload_iff.mpr hread) (hfs e)
      | ok read =>
        refine ⟨config.files fs, read, [], .last ⟨⟨fs, rfl⟩, hfs⟩ nofun, hread, ?_⟩
        rw [Templates.run_snoc, RegistryCall.after_reload hread, List.filterMap_nil, List.append_nil]
    · refine ⟨files, found, later ++ [call], hlast.snoc hcall, hfound, ?_⟩
      rw [Templates.run_snoc, RegistryCall.after_of_not_reloads hcall, hrun, ← Templates.insertAll_append,
        List.append_assoc, List.filterMap_append]
      cases hone : call.registered? config <;> simp [hone]

/-- The names of the templates that calls write are in their normal form. -/
theorem Written.normal {config : Config} {calls later : List RegistryCall} {files : List FoundFile}
    {found : List Template} (h : Written config calls files found later) :
    ∀ t ∈ found ++ later.filterMap (RegistryCall.registered? config), config.normalName t.name = t.name := by
  intro t ht
  rcases List.mem_append.mp ht with ht | ht
  · obtain ⟨file, -, hfile⟩ := (mem_iff_of_mapM h.found_eq).mp ht
    obtain ⟨source, -, rfl⟩ := Config.templateOf_eq_ok_iff.mp hfile
    exact config.normalName_normalName _
  · obtain ⟨call, -, hcall⟩ := List.mem_filterMap.mp ht
    obtain ⟨name, hname, -⟩ := RegistryCall.name_of_registered? hcall
    rw [← hname, config.normalName_normalName]

/-- **Runs of the registry.** A call fails for a blank name, or for the first file that cannot be read as a text, and
then it leaves the templates as they are. After a run, the template of a name is the last one of that name among those
in the files of the last reload that succeeded and those registered since. Every name is in its normal form, and all
ways to ask for a template agree. -/
theorem registry_run (config : Config) (calls : List RegistryCall) :
    (∀ (call : RegistryCall) (e : RegistryError),
      call.result config (Templates.run config calls) = .error e ↔ call.Fails config e) ∧
    (∀ (call : RegistryCall) (e : RegistryError), call.Fails config e →
      Templates.run config (calls ++ [call]) = Templates.run config calls) ∧
    (∃ files found later, LastReload config calls files later ∧ files.mapM config.templateOf = .ok found ∧
      ∀ name, (Templates.run config calls).find? name =
        Templates.find? (found ++ later.filterMap (RegistryCall.registered? config)).reverse name) ∧
    (Templates.run config calls).Coherent config := by
  obtain ⟨files, found, later, h⟩ := exists_written config calls
  refine ⟨fun call e => RegistryCall.result_eq_error_iff, fun call e he => ?_, ?_, ?_⟩
  · rw [Templates.run_snoc, RegistryCall.after_of_fails he]
  · refine ⟨files, found, later, h.lastReload, h.found_eq, fun name => ?_⟩
    rw [h.run_eq, Templates.find?_insertAll]
    exact Option.or_none
  · rw [h.run_eq]
    exact ((Templates.ordered_nil config).insertAll h.normal).coherent

end HtmlTemplate
