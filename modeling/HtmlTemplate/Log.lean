import HtmlTemplate.Text.Basic

/-!
# The log

What the library reports while it works: lines with a level and the part of the library that they come from.
-/

namespace HtmlTemplate

/-- How much a line of the log matters. -/
inductive Level where
  | debug
  | info
  | warning
  deriving DecidableEq, Repr

namespace Level

/-- The name of a level. -/
def name : Level → Text
  | .debug => "DEBUG".text
  | .info => "INFO".text
  | .warning => "WARNING".text

end Level

/-- The parts of the library that report. -/
inductive Reporter where
  | configuration
  | discovery
  | registry
  | loops
  | includes
  | engine
  deriving DecidableEq, Repr

namespace Reporter

/-- The name of a part of the library. -/
def name : Reporter → Text
  | .configuration => "stencil.core.config.manager".text
  | .discovery => "stencil.core.registry.discovery".text
  | .registry => "stencil.core.registry.registry".text
  | .loops => "stencil.core.rendering.transformers.loops".text
  | .includes => "stencil.core.rendering.transformers.includes".text
  | .engine => "stencil.core.rendering.engine".text

end Reporter

/-- A line of the log. -/
structure LogLine where
  level : Level
  reporter : Reporter
  message : Text
  deriving DecidableEq, Repr

namespace LogLine

/-- The line with its level and its reporter. -/
def text (l : LogLine) : Text := l.level.name ++ " ".text ++ l.reporter.name ++ ": ".text ++ l.message

end LogLine

end HtmlTemplate
