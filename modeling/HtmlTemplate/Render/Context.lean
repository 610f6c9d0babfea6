import HtmlTemplate.Render.Rendering
import HtmlTemplate.Template.Basic

/-!
# Contexts

A context is what the rendering of an element depends on besides the element: the templates, the scope, and where in
the nesting of templates and elements it stands. Going deeper fails above a ceiling.
-/

namespace HtmlTemplate

/-- What a rendering depends on. -/
structure Context where
  templates : Templates
  /-- Whether the case of template names does not matter. -/
  ignoreCase : Bool
  scope : Scope
  /-- The names of the templates that are being included, the outermost first. -/
  path : List Text
  /-- How many levels the context is below the start. -/
  depth : Nat
  /-- The deepest level that is allowed. -/
  ceiling : Int
  /-- The name of the template that is being rendered, empty for a source without a name. -/
  template : Text

namespace Context

/-- The template that a tag name refers to. -/
def templateOf? (ctx : Context) (tag : Text) : Option Template :=
  ctx.templates.find? (Template.normalName ctx.ignoreCase tag)

/-- The scope of a context with one more layer, bound for the level below it. -/
def scopeWith (ctx : Context) (layer : Layer) : Scope := ctx.scope.child (layer.identified (ctx.depth + 1))

/-- The context `target` one level below `ctx`. -/
def descend (ctx target : Context) : Rendering Context :=
  if (ctx.depth : Int) + 1 > ctx.ceiling then
    .fail (.tooDeep ctx.ceiling (if target.template = [] then ctx.template else target.template))
  else
    (Traced.tell (.entered target.path (ctx.depth + 1))).andThen fun _ =>
      .done { target with depth := ctx.depth + 1 }

end Context

namespace Rendering

/-- The value of an expression in a context. -/
def evaluate (expression : Text) (ctx : Context) : Rendering Value :=
  let outcome := HtmlTemplate.evaluate expression ctx.scope
  (Traced.tell (.evaluated expression outcome)).andThen fun _ => .ofResult (outcome.mapError .expression)

/-- The value of an expression that counts even if it has none. -/
def evaluateCounted (expression : Text) (ctx : Context) : Rendering Value :=
  (Traced.tell .counted).andThen fun _ => evaluate expression ctx

/-- The value of an expression that counts once it has one. -/
def evaluateAndCount (expression : Text) (ctx : Context) : Rendering Value :=
  (evaluate expression ctx).andThen fun v => (Traced.tell .counted).andThen fun _ => .done v

/-- The text of a value. -/
def display (v : Value) : Rendering Text := .ofResult (v.display.mapError .display)

end Rendering

end HtmlTemplate
