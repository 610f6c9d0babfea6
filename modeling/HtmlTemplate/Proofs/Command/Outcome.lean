import HtmlTemplate.Proofs.Command.Delivery
import HtmlTemplate.Proofs.Command.Stages
import HtmlTemplate.Proofs.Trace

/-!
# How commands end

A command ends with its product (`Makes`) and the code nought, or with a complaint and the code one, and then it has
printed nothing and changed no file; or it breaks off. It does the last exactly for the requests of `Defective`
(`runWords_outcomes`): one defect each of the file with the configuration, a file with a template, the name of a
template, the file with the data, a page, a layout, and the output. What it has made then is nothing but the names in
front of one that cannot be printed, or an empty file for a page that cannot be written (`Remains`).
-/

namespace HtmlTemplate

namespace Request

/-- The options of a request. -/
def options : Request → Options
  | .list options => options
  | .render _ options => options

end Request

namespace Command

variable {libraries : Libraries} {fs : FileSystem} {options : Options} {name html : Text} {engine : Engine}
  {request : Request}

/-! ## What a command makes -/

/-- The engine that the options ask for: its configuration, and the templates in the files. -/
structure Loaded (libraries : Libraries) (fs : FileSystem) (options : Options) (engine : Engine) : Prop where
  config : (configOf libraries fs options).result = .ok engine.config
  templates : ∃ found, (engine.config.files fs).mapM engine.config.templateOf = .ok found ∧
    engine.templates = Templates.insertAll found []

/-- The data in which a layout finds a page. -/
def framing (engine : Engine) (options : Options) (html : Text) (data : Value) : Value :=
  let name := if options.contentName.isEmpty then engine.config.contentName else options.contentName
  .mapping (Entries.insert name (.string html) (Scope.bindingsOf data))

/-- The page of a name, alone or framed by the layout that the options name. -/
inductive Page (libraries : Libraries) (fs : FileSystem) (name : Text) (options : Options) : Text → Prop
  | alone {engine : Engine} {data : Value} {html : Text} (hengine : Loaded libraries fs options engine)
    (hdata : dataOf fs options = .ok data) (hlayout : options.layout = [])
    (hhtml : (engine.render name data).result = .ok html) : Page libraries fs name options html
  | framed {engine : Engine} {data : Value} {inner html : Text} (hengine : Loaded libraries fs options engine)
    (hdata : dataOf fs options = .ok data) (hlayout : options.layout ≠ [])
    (hinner : (engine.render name data).result = .ok inner)
    (hhtml : (engine.render options.layout (framing engine options inner data)).result = .ok html) :
    Page libraries fs name options html

/-- What a request makes: the names of the templates, or a page, which is delivered. -/
inductive Makes (libraries : Libraries) (fs : FileSystem) : Request → Product → Prop
  | names {options : Options} {engine : Engine} (hengine : Loaded libraries fs options engine)
    (hnames : options.json = true ∨ ∀ n ∈ engine.names, n.Encodable) :
    Makes libraries fs (.list options) ⟨(listed options.json engine.names).flatten, fs, none⟩
  | page {name html : Text} {options : Options} {product : Product} (hhtml : Page libraries fs name options html)
    (hproduct : Delivers fs name options html product) : Makes libraries fs (.render name options) product

/-- The requests on which a command breaks off. -/
inductive Defective (libraries : Libraries) (fs : FileSystem) : Request → Prop
  /-- The file with the configuration is such. -/
  | config {request : Request} (hconfig : request.options.config ≠ [])
    (hfile : Config.DefectiveConfigFile libraries fs (Path.ofText request.options.config)) :
    Defective libraries fs request
  /-- The first file with a template that cannot be read is such. -/
  | template {request : Request} {config : Config} {front back : List FoundFile} {file : FoundFile}
    (hconfig : (configOf libraries fs request.options).result = .ok config)
    (hfiles : config.files fs = front ++ file :: back)
    (hfront : ∀ f ∈ front, ∃ source, config.decode f = .ok source) (hfile : Config.DefectiveTemplateFile config file) :
    Defective libraries fs request
  /-- A name of a template has a surrogate, and is to be printed as it is. -/
  | name {options : Options} {engine : Engine} {name : Text} (hengine : Loaded libraries fs options engine)
    (hjson : options.json = false) (hname : name ∈ engine.names) (hsurrogate : ¬ name.Encodable) :
    Defective libraries fs (.list options)
  /-- The file with the data is such. -/
  | data {name : Text} {options : Options} {engine : Engine} (hengine : Loaded libraries fs options engine)
    (hdata : options.data ≠ []) (hfile : DefectiveDataFile fs (Path.ofText options.data)) :
    Defective libraries fs (.render name options)
  /-- The page shows a number that is too long, or has one in an expression. -/
  | page {name : Text} {options : Options} {engine : Engine} {data : Value}
    (hengine : Loaded libraries fs options engine) (hdata : dataOf fs options = .ok data)
    (hpage : engine.DefectivePage name data) :
    Defective libraries fs (.render name options)
  /-- The layout does. -/
  | layout {name inner : Text} {options : Options} {engine : Engine} {data : Value}
    (hengine : Loaded libraries fs options engine) (hdata : dataOf fs options = .ok data)
    (hlayout : options.layout ≠ []) (hinner : (engine.render name data).result = .ok inner)
    (hpage : engine.DefectivePage options.layout (framing engine options inner data)) :
    Defective libraries fs (.render name options)
  /-- The page cannot be delivered. -/
  | output {name html : Text} {options : Options} (hhtml : Page libraries fs name options html)
    (houtput : Undeliverable fs options html) : Defective libraries fs (.render name options)

/-- What a command has made when it breaks off, if anything: the names in front of one with a surrogate are printed, or
the file for a page with a surrogate is empty. -/
inductive Remains (libraries : Libraries) (fs : FileSystem) : Request → Product → Prop
  | nothing {request : Request} : Remains libraries fs request ⟨[], fs, none⟩
  | names {options : Options} {engine : Engine} {front back : List Text} {name : Text}
    (hengine : Loaded libraries fs options engine) (hjson : options.json = false)
    (hnames : engine.names = front ++ name :: back) (hfront : ∀ n ∈ front, n.Encodable) (hname : ¬ name.Encodable) :
    Remains libraries fs (.list options) ⟨front.flatMap line, fs, none⟩
  | emptied {name html : Text} {options : Options} {files : FileSystem} (hhtml : Page libraries fs name options html)
    (houtput : options.output ≠ []) (hsurrogate : ¬ html.Encodable)
    (hwrite : fs.write (Path.ofText options.output) [] = .ok files) :
    Remains libraries fs (.render name options) ⟨[], files, some (Path.ofText options.output)⟩

/-! ## The engine -/

theorem breaksOff_configOf_iff (hwording : libraries.wording.Quotes) :
    BreaksOff CommandError.report (configOf libraries fs options).result ↔
      options.config ≠ [] ∧ Config.DefectiveConfigFile libraries fs (Path.ofText options.config) := by
  have hconfig (x : Traced LogLine ConfigError Config) :
      BreaksOff CommandError.report (x.mapError CommandError.config).result ↔ BreaksOff ConfigError.report x.result :=
    breaksOff_mapError_iff fun _ => rfl
  rw [configOf, hconfig]
  split
  · rename_i hempty
    refine iff_of_false ?_ fun h => h.1 (by simpa using hempty)
    split
    · exact breaksOff_error_iff.not.mpr (Report.not_isBelow_about _ _ _)
    · rw [Traced.result_ofResult]
      exact Config.not_breaksOff_ofDirectories _
  · rename_i hne
    rw [Traced.andThen_done_eq_map]
    exact breaksOff_map_iff.trans ((Config.breaksOff_load_iff hwording).trans (and_iff_right (by simpa using hne)).symm)

theorem engineOf_result :
    (engineOf libraries fs options).result = (configOf libraries fs options).result.bind fun config =>
      ((Templates.load config fs).result.mapError (CommandError.engine ∘ EngineError.registry)).map fun templates =>
        ⟨config, templates⟩ := by
  rw [engineOf, Traced.result_andThen]
  congr 1
  funext config
  rw [Engine.reload, Traced.andThen_done_eq_map]
  dsimp only [Traced.mapError, Traced.map, Engine.ofConfig]
  cases (Templates.load config fs).result <;> rfl

theorem engineOf_eq_ok_iff :
    (engineOf libraries fs options).result = .ok engine ↔ Loaded libraries fs options engine := by
  rw [engineOf_result]
  constructor
  · intro h
    obtain ⟨config, hconfig, h⟩ := bind_eq_ok_iff.mp h
    obtain ⟨templates, hload, rfl⟩ := map_eq_ok_iff.mp h
    rw [mapError_eq_ok_iff, Templates.load_result, map_eq_ok_iff] at hload
    obtain ⟨found, hfound, rfl⟩ := hload
    exact ⟨hconfig, found, hfound, rfl⟩
  · rintro ⟨hconfig, found, hfound, htemplates⟩
    obtain ⟨config, templates⟩ := engine
    cases htemplates
    rw [hconfig, Except.bind, Templates.load_result, hfound]
    rfl

theorem breaksOff_engineOf_iff (hwording : libraries.wording.Quotes) :
    BreaksOff CommandError.report (engineOf libraries fs options).result ↔
      (options.config ≠ [] ∧ Config.DefectiveConfigFile libraries fs (Path.ofText options.config)) ∨
        ∃ config, (configOf libraries fs options).result = .ok config ∧ ∃ front file back,
          config.files fs = front ++ file :: back ∧ (∀ f ∈ front, ∃ source, config.decode f = .ok source) ∧
            Config.DefectiveTemplateFile config file := by
  have hload (config : Config) : BreaksOff CommandError.report
      ((Templates.load config fs).result.mapError (CommandError.engine ∘ EngineError.registry)) ↔
        BreaksOff RegistryError.report (Templates.load config fs).result := breaksOff_mapError_iff fun _ => rfl
  simp only [engineOf_result, breaksOff_bind_iff, breaksOff_configOf_iff hwording, breaksOff_map_iff, hload,
    Config.breaksOff_loadTemplates_iff]

theorem made_of_engineOf_eq_error {e : CommandError} (h : (engineOf libraries fs options).result = .error e) :
    e.made fs = ⟨[], fs, none⟩ := by
  rw [engineOf_result, bind_eq_error_iff] at h
  rcases h with h | ⟨config, -, h⟩
  · obtain ⟨e', -, rfl⟩ := mapError_eq_error_iff.mp h
    rfl
  · obtain ⟨e', -, rfl⟩ := mapError_eq_error_iff.mp (map_eq_error_iff.mp h)
    rfl

/-! ## The page -/

theorem breaksOff_dataOf_iff :
    BreaksOff CommandError.report (dataOf fs options) ↔
      options.data ≠ [] ∧ DefectiveDataFile fs (Path.ofText options.data) := by
  rw [dataOf]
  split
  · rename_i hempty
    exact iff_of_false (not_breaksOff_ok _) fun h => h.1 (by simpa using hempty)
  · rename_i hne
    rw [breaksOff_dataAt_iff, and_iff_right (by simpa using hne)]

/-- The page of a name with an engine and data, alone or framed by a layout. -/
def rendered (engine : Engine) (name : Text) (options : Options) (data : Value) : Except EngineError Text :=
  (engine.render name data).result.bind fun inner =>
    if options.layout.isEmpty then .ok inner
    else (engine.render options.layout (framing engine options inner data)).result

theorem page_result :
    (page libraries fs name options).result = (engineOf libraries fs options).result.bind fun engine =>
      (dataOf fs options).bind fun data => (rendered engine name options data).mapError CommandError.engine := by
  rw [page, Traced.result_andThen]
  congr 1
  funext engine
  rw [Traced.result_andThen, Traced.result_ofResult]
  congr 1
  funext data
  rw [rendered]
  split
  · dsimp only [Traced.mapError]
    cases (engine.render name data).result <;> rfl
  · dsimp only [Traced.mapError]
    rw [Engine.renderInLayout, Traced.result_andThen]
    rfl

theorem page_eq_ok_iff : (page libraries fs name options).result = .ok html ↔ Page libraries fs name options html := by
  simp only [page_result, bind_eq_ok_iff, engineOf_eq_ok_iff, mapError_eq_ok_iff, rendered]
  constructor
  · rintro ⟨engine, hengine, data, hdata, inner, hinner, hhtml⟩
    split at hhtml
    · rename_i hempty
      cases hhtml
      exact .alone hengine hdata (by simpa using hempty) hinner
    · rename_i hne
      exact .framed hengine hdata (by simpa using hne) hinner hhtml
  · intro h
    cases h with
    | alone hengine hdata hlayout hhtml => exact ⟨_, hengine, _, hdata, _, hhtml, by rw [hlayout]; rfl⟩
    | framed hengine hdata hlayout hinner hhtml =>
      exact ⟨_, hengine, _, hdata, _, hinner, by rw [if_neg (by simpa using hlayout)]; exact hhtml⟩

theorem breaksOff_rendered_iff {data : Value} :
    BreaksOff EngineError.report (rendered engine name options data) ↔
      engine.DefectivePage name data ∨ ∃ inner, (engine.render name data).result = .ok inner ∧ options.layout ≠ [] ∧
        engine.DefectivePage options.layout (framing engine options inner data) := by
  rw [rendered, breaksOff_bind_iff, Engine.breaksOff_render_iff]
  refine or_congr_right (exists_congr fun inner => and_congr_right fun _ => ?_)
  split
  · rename_i hempty
    exact iff_of_false (not_breaksOff_ok _) fun h => h.1 (by simpa using hempty)
  · rename_i hne
    rw [Engine.breaksOff_render_iff, and_iff_right (by simpa using hne)]

theorem breaksOff_page_iff :
    BreaksOff CommandError.report (page libraries fs name options).result ↔
      BreaksOff CommandError.report (engineOf libraries fs options).result ∨
        ∃ engine, Loaded libraries fs options engine ∧
          ((options.data ≠ [] ∧ DefectiveDataFile fs (Path.ofText options.data)) ∨
            ∃ data, dataOf fs options = .ok data ∧
              (engine.DefectivePage name data ∨ ∃ inner, (engine.render name data).result = .ok inner ∧
                options.layout ≠ [] ∧ engine.DefectivePage options.layout (framing engine options inner data))) := by
  have hengine (x : Except EngineError Text) :
      BreaksOff CommandError.report (x.mapError CommandError.engine) ↔ BreaksOff EngineError.report x :=
    breaksOff_mapError_iff fun _ => rfl
  simp only [page_result, breaksOff_bind_iff, engineOf_eq_ok_iff, breaksOff_dataOf_iff, hengine, breaksOff_rendered_iff]

theorem made_of_dataOf_eq_error {e : CommandError} (h : dataOf fs options = .error e) : e.made fs = ⟨[], fs, none⟩ := by
  rw [dataOf] at h
  split at h
  · cases h
  · rw [dataAt_eq, bind_eq_error_iff] at h
    simp only [bind_eq_error_iff, mapError_eq_error_iff] at h
    rcases h with ⟨e', -, rfl⟩ | ⟨content, -, ⟨e', -, rfl⟩ | ⟨source, -, fault, -, rfl⟩⟩
    · rfl
    · rfl
    · cases fault <;> rfl

theorem made_of_page_eq_error {e : CommandError} (h : (page libraries fs name options).result = .error e) :
    e.made fs = ⟨[], fs, none⟩ := by
  rw [page_result, bind_eq_error_iff] at h
  simp only [bind_eq_error_iff, mapError_eq_error_iff] at h
  rcases h with h | ⟨engine, -, h | ⟨data, -, e', -, rfl⟩⟩
  · exact made_of_engineOf_eq_error h
  · exact made_of_dataOf_eq_error h
  · rfl

/-! ## The whole command -/

theorem execute_render_result :
    (execute libraries fs (.render name options)).result =
      (page libraries fs name options).result.bind fun html => delivered fs name options html := by
  simp only [execute, Traced.result_andThen, Traced.result_ofResult]

theorem execute_list_result :
    (execute libraries fs (.list options)).result =
      (engineOf libraries fs options).result.bind fun engine => print fs [] (listed options.json engine.names) := by
  simp only [execute, Traced.result_andThen, Traced.result_ofResult]

/-- A command has a result exactly if there is something that the request makes. -/
theorem execute_eq_ok_iff {product : Product} :
    (execute libraries fs request).result = .ok product ↔ Makes libraries fs request product := by
  cases request with
  | list options =>
    simp only [execute_list_result, bind_eq_ok_iff, engineOf_eq_ok_iff, print_eq_ok_iff, encodable_listed_iff]
    constructor
    · rintro ⟨engine, hengine, hnames, rfl⟩
      exact .names hengine hnames
    · intro h
      cases h with
      | names hengine hnames => exact ⟨_, hengine, hnames, rfl⟩
  | render name options =>
    simp only [execute_render_result, bind_eq_ok_iff, page_eq_ok_iff, delivered_eq_ok_iff]
    constructor
    · rintro ⟨html, hhtml, hproduct⟩
      exact .page hhtml hproduct
    · intro h
      cases h with
      | page hhtml hproduct => exact ⟨_, hhtml, hproduct⟩

theorem breaksOff_of_engineOf (h : BreaksOff CommandError.report (engineOf libraries fs request.options).result) :
    BreaksOff CommandError.report (execute libraries fs request).result := by
  cases request with
  | list options =>
    rw [execute_list_result]
    exact breaksOff_bind_iff.mpr (.inl h)
  | render name options =>
    rw [execute_render_result]
    exact breaksOff_bind_iff.mpr (.inl (breaksOff_page_iff.mpr (.inl h)))

/-- A command breaks off exactly for the requests of `Defective`. -/
theorem breaksOff_execute_iff (hwording : libraries.wording.Quotes) :
    BreaksOff CommandError.report (execute libraries fs request).result ↔ Defective libraries fs request := by
  have hengineOf (h : BreaksOff CommandError.report (engineOf libraries fs request.options).result) :
      Defective libraries fs request := by
    rcases (breaksOff_engineOf_iff hwording).mp h with ⟨hconfig, hfile⟩ |
      ⟨config, hconfig, front, file, back, hfiles, hfront, hfile⟩
    · exact .config hconfig hfile
    · exact .template hconfig hfiles hfront hfile
  constructor
  · intro h
    cases request with
    | list options =>
      rw [execute_list_result, breaksOff_bind_iff] at h
      rcases h with h | ⟨engine, hengine, hprint⟩
      · exact hengineOf h
      · obtain ⟨hjson, name, hname, hsurrogate⟩ := breaksOff_print_listed_iff.mp hprint
        exact .name (engineOf_eq_ok_iff.mp hengine) hjson hname hsurrogate
    | render name options =>
      rw [execute_render_result, breaksOff_bind_iff, breaksOff_page_iff] at h
      rcases h with (h | ⟨engine, hengine, ⟨hdata, hfile⟩ | ⟨data, hdata, hpage | ⟨inner, hinner, hlayout, hpage⟩⟩⟩) |
        ⟨html, hhtml, hdelivered⟩
      · exact hengineOf h
      · exact .data hengine hdata hfile
      · exact .page hengine hdata hpage
      · exact .layout hengine hdata hlayout hinner hpage
      · exact .output (page_eq_ok_iff.mp hhtml) (breaksOff_delivered_iff.mp hdelivered)
  · intro h
    have hpage {name : Text} {options : Options}
        (h : BreaksOff CommandError.report (page libraries fs name options).result) :
        BreaksOff CommandError.report (execute libraries fs (.render name options)).result := by
      rw [execute_render_result]
      exact breaksOff_bind_iff.mpr (.inl h)
    cases h with
    | config hconfig hfile =>
      exact breaksOff_of_engineOf ((breaksOff_engineOf_iff hwording).mpr (.inl ⟨hconfig, hfile⟩))
    | template hconfig hfiles hfront hfile =>
      refine breaksOff_of_engineOf ((breaksOff_engineOf_iff hwording).mpr (.inr ?_))
      exact ⟨_, hconfig, _, _, _, hfiles, hfront, hfile⟩
    | data hengine hdata hfile => exact hpage (breaksOff_page_iff.mpr (.inr ⟨_, hengine, .inl ⟨hdata, hfile⟩⟩))
    | page hengine hdata hdefective =>
      exact hpage (breaksOff_page_iff.mpr (.inr ⟨_, hengine, .inr ⟨_, hdata, .inl hdefective⟩⟩))
    | layout hengine hdata hlayout hinner hdefective =>
      exact hpage (breaksOff_page_iff.mpr (.inr ⟨_, hengine, .inr ⟨_, hdata, .inr ⟨_, hinner, hlayout, hdefective⟩⟩⟩))
    | name hengine hjson hname hsurrogate =>
      rw [execute_list_result]
      exact breaksOff_bind_iff.mpr (.inr ⟨_, engineOf_eq_ok_iff.mpr hengine,
        breaksOff_print_listed_iff.mpr ⟨hjson, _, hname, hsurrogate⟩⟩)
    | output hhtml houtput =>
      rw [execute_render_result]
      exact breaksOff_bind_iff.mpr (.inr ⟨_, page_eq_ok_iff.mpr hhtml, breaksOff_delivered_iff.mpr houtput⟩)

/-- What a command has made when it fails, if it has made anything. -/
theorem remains_of_execute_eq_error {e : CommandError} (h : (execute libraries fs request).result = .error e) :
    Remains libraries fs request (e.made fs) := by
  cases request with
  | list options =>
    rw [execute_list_result, bind_eq_error_iff] at h
    rcases h with h | ⟨engine, hengine, h⟩
    · rw [made_of_engineOf_eq_error h]
      exact .nothing
    · obtain ⟨hjson, front, name, back, why, hnames, hfront, hname, rfl⟩ := print_listed_eq_error h
      exact .names (engineOf_eq_ok_iff.mp hengine) hjson hnames hfront hname
  | render name options =>
    rw [execute_render_result, bind_eq_error_iff] at h
    rcases h with h | ⟨html, hhtml, h⟩
    · rw [made_of_page_eq_error h]
      exact .nothing
    · rcases (delivered_eq_error h).2.2 with hmade | ⟨files, houtput, hsurrogate, hwrite, hmade⟩
      · rw [hmade]
        exact .nothing
      · rw [hmade]
        exact .emptied (page_eq_ok_iff.mp hhtml) houtput hsurrogate hwrite

theorem complaint_ne_nil (request : Request) (message code : Text) (context : Entries Value) :
    complaint request message code context ≠ [] := by
  have hline (s : Text) : line s ≠ [] := List.append_ne_nil_of_right_ne_nil _ (List.cons_ne_nil _ _)
  unfold complaint
  cases request <;> dsimp only <;> split <;> exact hline _

/-- **How commands end.** Unless the request is of the kinds of `Defective`, a command makes what is asked for and ends
with the code nought; or there is nothing that it could make, and it ends with the code one, has printed nothing, leaves
the files as they are, and complains with the message of its error. On requests of those kinds it breaks off. All this
holds whatever the reader of YAML reads, and whatever words are found for breaches of the rules for settings, as long as
they quote the data. -/
theorem runWords_outcomes (libraries : Libraries) (hwording : libraries.wording.Quotes) (fs : FileSystem)
    (words : List Text) (request : Request) (verbose : Bool)
    (h : Arguments.read words = .ok (some request, verbose)) :
    (¬ Defective libraries fs request →
      (∃ product, Makes libraries fs request product ∧
          runWords libraries fs words = .ended ⟨product, 0, shownLog verbose (execute libraries fs request).trace⟩) ∨
        ∃ e message code context, (execute libraries fs request).result = .error e ∧
          e.report = .language code message context ∧ (∀ product, ¬ Makes libraries fs request product) ∧
          runWords libraries fs words = .ended ⟨⟨[], fs, none⟩, 1,
            shownLog verbose (execute libraries fs request).trace ++ complaint request message code context⟩ ∧
          complaint request message code context ≠ []) ∧
    (Defective libraries fs request →
      ∃ defect message made, runWords libraries fs words = .broken defect message made ∧
        Remains libraries fs request made) := by
  have hrun : runWords libraries fs words = run libraries fs request verbose := by rw [runWords, h]
  rw [hrun, run]
  constructor
  · intro hsafe
    cases hresult : (execute libraries fs request).result with
    | ok product => exact .inl ⟨product, execute_eq_ok_iff.mp hresult, rfl⟩
    | error e =>
      cases hreport : e.report with
      | below defect message =>
        exact absurd ((breaksOff_execute_iff hwording).mp ⟨e, hresult, hreport ▸ Report.isBelow_below _ _⟩) hsafe
      | language code message context =>
        refine .inr ⟨e, message, code, context, rfl, hreport, fun product hproduct => ?_, ?_, complaint_ne_nil _ _ _ _⟩
        · rw [execute_eq_ok_iff.mpr hproduct] at hresult
          cases hresult
        · simp only [hreport]
  · intro hdefective
    obtain ⟨e, hresult, defect, message, hreport⟩ := (breaksOff_execute_iff hwording).mpr hdefective
    exact ⟨defect, message, e.made fs, by simp only [hresult, hreport], remains_of_execute_eq_error hresult⟩

/-- A template that names itself and shows a variable, data whose bytes are no text, and data in which the variable is a
surrogate. -/
def shopFiles : FileSystem where
  directory := ⟨['/'], []⟩
  tree := .directory
    [(['t'], .directory [("page.html".text, .file "<!--@template page-->\x7b\x7b v \x7d\x7d".toUTF8.toList)]),
      (['d'], .file [0xFF]), (['j'], .file "\x7b\"v\": \"\\ud800\"\x7d".toUTF8.toList)]
  homes := ⟨none, []⟩

/-- The options that name the directory of the templates, a file with data, and one for the page. -/
def shopOptions (data output : Text) : Options := ⟨[['t']], [], data, [], [], output, false⟩

/-- The exit code of a command that ends. -/
def code? : Ending → Option ℕ
  | .ended outcome => some outcome.code
  | _ => none

theorem not_defective_of_code (hwording : libraries.wording.Quotes) {words : List Text} {verbose : Bool} {code : ℕ}
    (h : Arguments.read words = .ok (some request, verbose)) (hcode : code? (runWords libraries fs words) = some code) :
    ¬ Defective libraries fs request := by
  intro hdefective
  obtain ⟨e, hresult, defect, message, hreport⟩ := (breaksOff_execute_iff hwording).mpr hdefective
  have hbroken : runWords libraries fs words = .broken defect message (e.made fs) := by
    rw [runWords, h]
    simp only [run, hresult, hreport]
  rw [hbroken] at hcode
  cases hcode

theorem defective_data : Defective .standard shopFiles (.render "page".text (shopOptions ['d'] [])) := by
  cases hengine : (engineOf .standard shopFiles (shopOptions ['d'] [])).result with
  | ok engine =>
    refine .data (engineOf_eq_ok_iff.mp hengine) (List.cons_ne_nil _ _) ?_
    have hread : shopFiles.read (Path.ofText ['d']) = .ok [0xFF] := by decide +kernel
    cases hdecode : Charset.decodeUtf8 [0xFF] with
    | error misreading => exact .undecodable hread hdecode
    | ok source =>
      have hfails : (Charset.decodeUtf8 [0xFF]).isOk = false := by decide +kernel
      rw [hdecode] at hfails
      cases hfails
  | error e =>
    have hloads : (engineOf .standard shopFiles (shopOptions ['d'] [])).result.isOk = true := by decide +kernel
    rw [hengine] at hloads
    cases hloads

theorem defective_output : Defective .standard shopFiles (.render "page".text (shopOptions ['j'] ['o'])) := by
  have hhtml : (page .standard shopFiles "page".text (shopOptions ['j'] ['o'])).result.toOption =
      some ("<!--@template page-->".text ++ [.surrogate 0]) := by decide +kernel
  cases hpage : (page .standard shopFiles "page".text (shopOptions ['j'] ['o'])).result with
  | ok html =>
    rw [hpage] at hhtml
    cases hhtml
    have houtput : (shopOptions ['j'] ['o']).output ≠ [] := List.cons_ne_nil _ _
    exact .output (page_eq_ok_iff.mp hpage) (.unwritable houtput (by decide +kernel))
  | error e =>
    rw [hpage] at hhtml
    cases hhtml

theorem runWords_outcomes_samples :
    let page : List Text := ["render", "page", "-dt"].map String.text
    let missing : List Text := ["render", "Page 2", "-dt"].map String.text
    let undecodable : List Text := ["render", "page", "-dt", "--data=d"].map String.text
    let unwritable : List Text := ["render", "page", "-dt", "--data=j", "--output=o"].map String.text
    Libraries.standard.wording.Quotes ∧
      Arguments.read page = .ok (some (.render "page".text (shopOptions [] [])), false) ∧
      Arguments.read missing = .ok (some (.render "Page 2".text (shopOptions [] [])), false) ∧
      Arguments.read undecodable = .ok (some (.render "page".text (shopOptions ['d'] [])), false) ∧
      Arguments.read unwritable = .ok (some (.render "page".text (shopOptions ['j'] ['o'])), false) ∧
      ¬ Defective .standard shopFiles (.render "page".text (shopOptions [] [])) ∧
      ¬ Defective .standard shopFiles (.render "Page 2".text (shopOptions [] [])) ∧
      Defective .standard shopFiles (.render "page".text (shopOptions ['d'] [])) ∧
      Defective .standard shopFiles (.render "page".text (shopOptions ['j'] ['o'])) ∧
      (∃ product log, Makes .standard shopFiles (.render "page".text (shopOptions [] [])) product ∧
        runWords .standard shopFiles page = .ended ⟨product, 0, log⟩) ∧
      (∃ complaints, runWords .standard shopFiles missing = .ended ⟨⟨[], shopFiles, none⟩, 1, complaints⟩) ∧
      (∃ defect message made, runWords .standard shopFiles undecodable = .broken defect message made ∧
        Remains .standard shopFiles (.render "page".text (shopOptions ['d'] [])) made) ∧
      ∃ defect message made, runWords .standard shopFiles unwritable = .broken defect message made ∧
        Remains .standard shopFiles (.render "page".text (shopOptions ['j'] ['o'])) made := by
  intro page missing undecodable unwritable
  have hpage : Arguments.read page = .ok (some (.render "page".text (shopOptions [] [])), false) := by decide +kernel
  have hmissing : Arguments.read missing = .ok (some (.render "Page 2".text (shopOptions [] [])), false) := by
    decide +kernel
  have hundecodable : Arguments.read undecodable = .ok (some (.render "page".text (shopOptions ['d'] [])), false) := by
    decide +kernel
  have hunwritable :
      Arguments.read unwritable = .ok (some (.render "page".text (shopOptions ['j'] ['o'])), false) := by
    decide +kernel
  have hnought : code? (runWords .standard shopFiles page) = some 0 := by decide +kernel
  have hone : code? (runWords .standard shopFiles missing) = some 1 := by decide +kernel
  have hpageSafe := not_defective_of_code Breach.message_quotes hpage hnought
  have hmissingSafe := not_defective_of_code Breach.message_quotes hmissing hone
  have houtcomes := runWords_outcomes .standard Breach.message_quotes shopFiles
  refine ⟨Breach.message_quotes, hpage, hmissing, hundecodable, hunwritable, hpageSafe, hmissingSafe, defective_data,
    defective_output, ?_, ?_, (houtcomes undecodable _ _ hundecodable).2 defective_data,
    (houtcomes unwritable _ _ hunwritable).2 defective_output⟩
  · rcases (houtcomes page _ _ hpage).1 hpageSafe with ⟨product, hproduct, hended⟩ |
      ⟨e, message, code, context, -, -, -, hended, -⟩
    · exact ⟨product, _, hproduct, hended⟩
    · rw [hended] at hnought
      cases hnought
  · rcases (houtcomes missing _ _ hmissing).1 hmissingSafe with ⟨product, -, hended⟩ |
      ⟨e, message, code, context, -, -, -, hended, -⟩
    · rw [hended] at hone
      cases hone
    · exact ⟨_, hended⟩

/-- Data that are no text break off a command that renders: there is no complaint. -/
theorem undecodable_data_breaks_off : ∃ made,
    runWords .standard shopFiles (["render", "page", "-dt", "--data=d"].map String.text) =
      .broken .undecodable "'utf-8' codec can't decode byte 0xff in position 0: invalid start byte".text made := by
  have hbroken : (match runWords .standard shopFiles (["render", "page", "-dt", "--data=d"].map String.text) with
      | .broken defect message _ => some (defect, message)
      | _ => none) =
      some (.undecodable, "'utf-8' codec can't decode byte 0xff in position 0: invalid start byte".text) := by
    decide +kernel
  split at hbroken
  · rename_i h
    rw [h]
    cases hbroken
    exact ⟨_, rfl⟩
  · cases hbroken

end Command

end HtmlTemplate
