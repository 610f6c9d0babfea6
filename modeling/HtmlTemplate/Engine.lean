import HtmlTemplate.Config.Read
import HtmlTemplate.Template.Registry

/-!
# The engine

An engine is a configuration and the templates that have been loaded or registered. It renders a template by its name,
alone or framed by a layout. Each of its actions tells the log what happens.
-/

namespace HtmlTemplate

/-- An engine. -/
structure Engine where
  config : Config
  templates : Templates

/-- Why an action of an engine fails. -/
inductive EngineError where
  | registry (e : RegistryError)
  | render (e : RenderError)

namespace ExpressionError

/-- The report of an error. -/
def report (e : ExpressionError) : Report :=
  match e with
  | .malformed text fault =>
    .about "ExpressionSyntaxError" e.message
      [("expression", .string text), ("cause", .string e.cause), ("position", .ofInt fault.position)]
  | .failed text _ =>
    .about "ExpressionEvaluationError" e.message [("expression", .string text), ("cause", .string e.cause)]
  | .numeralTooLong _ => .below .badValue e.message

end ExpressionError

namespace DisplayError

/-- The report of an error. -/
def report (e : DisplayError) : Report := .below .badValue e.message

end DisplayError

namespace RenderError

/-- The report of an error. A source without a name is not told. -/
def report (e : RenderError) : Report :=
  match e with
  | .expression cause => cause.report
  | .display cause => cause.report
  | .cyclicInclude path => .about "CyclicIncludeError" e.message [("chain", .list (path.map .string))]
  | .tooDeep ceiling template =>
    .about "RenderDepthExceededError" e.message
      (("max_depth", .ofInt ceiling) :: if template.isEmpty then [] else [("template", .string template)])

end RenderError

namespace EngineError

/-- The report of an error. -/
def report : EngineError → Report
  | .registry e => e.report
  | .render e => e.report

end EngineError

namespace Event

/-- What the log is told of an event. -/
def logLine? : Event → Option LogLine
  | .dropped expression tag =>
    some ⟨.debug, .loops, "x-for=".text ++ Text.quoted expression ++
      " did not yield a sequence; dropping <".text ++ tag ++ ">".text⟩
  | .included template depth =>
    some ⟨.debug, .includes,
      "Including '".text ++ template ++ "' at depth ".text ++ Text.ofNat depth⟩
  | _ => none

end Event

/-- An action of an engine. -/
abbrev EngineStep (α : Type) := Traced LogLine EngineError α

namespace Engine

/-- The engine before its templates are loaded. -/
def ofConfig (config : Config) : Engine := ⟨config, []⟩

/-- The engine with the templates in its directories. -/
def reload (fs : FileSystem) (e : Engine) : EngineStep Engine :=
  ((Templates.load e.config fs).mapError EngineError.registry).andThen fun templates =>
    .done { e with templates := templates }

/-- The engine with one more template, and that template. -/
def register (name source : Text) (e : Engine) : EngineStep (Engine × Template) :=
  ((e.templates.register e.config name source none).mapError EngineError.registry).map fun (templates, t) =>
    ({ e with templates := templates }, t)

/-- The template of a name. -/
def get (name : Text) (e : Engine) : EngineStep Template :=
  .ofResult ((e.templates.get e.config name).mapError EngineError.registry)

/-- Whether there is a template of a name. -/
def contains (name : Text) (e : Engine) : Bool := e.templates.contains e.config name

/-- The names of the templates. -/
def names (e : Engine) : List Text := e.templates.names

/-- The context in which a template is rendered with some data. -/
def context (e : Engine) (template : Text) (data : Value) : Context where
  templates := e.templates
  ignoreCase := e.config.ignoreCase
  scope := Scope.root data
  path := []
  depth := 0
  ceiling := e.config.maxDepth
  template := template

/-- What the log is told of a rendering that has succeeded. -/
def renderedLine (name : Text) (stats : Stats) : LogLine :=
  ⟨.debug, .engine,
    "Rendered '".text ++ name ++ "' (".text ++ Text.ofNat stats.includesRendered ++ " include(s), ".text ++
      Text.ofNat stats.loopsExpanded ++ " loop(s), ".text ++ Text.ofNat stats.expressionsEvaluated ++
      " expression(s))".text⟩

/-- Renders a template with some data. -/
def renderTemplate (t : Template) (data : Value) (e : Engine) : EngineStep Text :=
  let rendering := HtmlTemplate.render t.source (e.context t.name data)
  ((rendering.filterMapTrace Event.logLine?).mapError EngineError.render).andThen fun html =>
    (Traced.tell (renderedLine t.name (Stats.ofTrace rendering.trace))).andThen fun _ => .done html

/-- Renders the template of a name with some data. -/
def render (name : Text) (data : Value) (e : Engine) : EngineStep Text :=
  (e.get name).andThen fun t => e.renderTemplate t data

/-- Renders a page, and then the layout that frames it, with the page among its data. An empty name of the page among
the data stands for the configured one. -/
def renderInLayout (layout page : Text) (data : Value) (contentName : Text) (e : Engine) : EngineStep Text :=
  let name := if contentName.isEmpty then e.config.contentName else contentName
  (e.render page data).andThen fun html =>
    e.render layout (.mapping (Entries.insert name (.string html) (Scope.bindingsOf data)))

end Engine

end HtmlTemplate
