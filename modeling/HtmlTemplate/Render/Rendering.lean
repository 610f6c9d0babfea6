import HtmlTemplate.Expr.Eval
import HtmlTemplate.Trace

/-!
# Renderings

A rendering is a traced computation: what it does is to evaluate expressions, to test conditions, to repeat elements
and to include templates. The statistics of a rendering count its trace.
-/

namespace HtmlTemplate

/-- Why a rendering fails. -/
inductive RenderError where
  /-- An expression has no value. -/
  | expression (e : ExpressionError)
  /-- A value cannot be written. -/
  | display (e : DisplayError)
  /-- A template includes itself: the names on the way, the repeated one at the end. -/
  | cyclicInclude (path : List Text)
  /-- Elements and templates are nested too deep; the empty text stands for a source without a name. -/
  | tooDeep (ceiling : Int) (template : Text)
  deriving DecidableEq, Repr

namespace RenderError

/-- The message of an error. -/
def message : RenderError → Text
  | .expression e => e.message
  | .display e => e.message
  | .cyclicInclude path => "Cyclic include detected: ".text ++ Text.join [' ', '-', '>', ' '] path
  | .tooDeep ceiling _ =>
    "Template render depth exceeded (max ".text ++ Text.ofInt ceiling ++ "). Potential infinite recursion.".text

end RenderError

/-- What a rendering does. -/
inductive Event where
  /-- An expression is counted as evaluated. -/
  | counted
  /-- An expression is evaluated, and that comes of it. -/
  | evaluated (expression : Text) (outcome : Except ExpressionError Value)
  /-- An element is kept or dropped by its condition. -/
  | tested
  /-- A loop has rendered all its items. -/
  | repeated
  /-- A loop is dropped, for its expression gave no sequence. -/
  | dropped (expression tag : Text)
  /-- The rendering goes one level deeper, below the templates on the path. -/
  | entered (path : List Text) (depth : Nat)
  /-- A template is included. -/
  | included (template : Text) (depth : Nat)

/-- A rendering: its result or its error, and its trace. -/
abbrev Rendering (α : Type) := Traced Event RenderError α

/-- How often a rendering did what. -/
structure Stats where
  includesRendered : Nat
  loopsExpanded : Nat
  loopsDropped : Nat
  conditionsTested : Nat
  expressionsEvaluated : Nat
  deriving DecidableEq, Repr

/-- The statistics of a trace. -/
def Stats.ofTrace (trace : List Event) : Stats where
  includesRendered := trace.countP (· matches .included _ _)
  loopsExpanded := trace.countP (· matches .repeated)
  loopsDropped := trace.countP (· matches .dropped _ _)
  conditionsTested := trace.countP (· matches .tested)
  expressionsEvaluated := trace.countP (· matches .counted)

end HtmlTemplate
