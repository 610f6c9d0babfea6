import HtmlTemplate.Render.Directive

/-!
# Rendering a source

The nodes of a source are rendered in order: texts and tags are interpolated, and elements pass through the
directives. An included template is rendered in the same way, one level deeper, so the ceiling on the depth bounds
how many templates are nested.
-/

namespace HtmlTemplate

/-- The mark that may stand in front of a source to tell its encoding. -/
def byteOrderMark : CodePoint := '\uFEFF'

/-- The text without the mark at its front. -/
def withoutMark : Text → Text
  | [] => []
  | c :: rest => if c = byteOrderMark then rest else c :: rest

mutual

/-- Renders a node. -/
def renderNode (directives : List Directive) (expand : Text → Context → Rendering Text) :
    Node → Context → Rendering Text
  | .text s, ctx => interpolate s ctx
  | .element tag children closing, ctx =>
    Directive.renderAll expand
      (fun tag ctx =>
        (interpolate tag.source ctx).andThen fun front =>
          (renderNodes directives expand children ctx).map fun inside => front ++ inside ++ closing.getD [])
      directives tag ctx

/-- Renders some nodes, one after the other. -/
def renderNodes (directives : List Directive) (expand : Text → Context → Rendering Text) :
    List Node → Context → Rendering Text
  | [], _ => .done []
  | node :: rest, ctx =>
    (renderNode directives expand node ctx).andThen fun front =>
      (renderNodes directives expand rest ctx).map (front ++ ·)

end

/-- Renders a source that nests fewer than `levels` templates. -/
def renderWithin (directives : List Directive) : Nat → Text → Context → Rendering Text
  | 0, _, ctx => .fail (.tooDeep ctx.ceiling ctx.template)
  | levels + 1, source, ctx =>
    renderNodes directives (renderWithin directives levels) (Markup.parse (withoutMark source)) ctx

/-- Renders a source by some directives. -/
def renderBy (directives : List Directive) (source : Text) (ctx : Context) : Rendering Text :=
  renderWithin directives ((ctx.ceiling - ctx.depth).toNat + 1) source ctx

/-- Renders a source. -/
def render (source : Text) (ctx : Context) : Rendering Text := renderBy Directive.standard source ctx

end HtmlTemplate
