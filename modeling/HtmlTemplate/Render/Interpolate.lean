import HtmlTemplate.Interpolation.Escape
import HtmlTemplate.Interpolation.Region
import HtmlTemplate.Render.Context

/-!
# Interpolating a text

Each region of a text is replaced by the value of its expression, in one pass from the front: what is put in is not
looked at again.
-/

namespace HtmlTemplate

/-- How a region puts in the text of its value. -/
def Insertion.insert : Insertion → Text → Text
  | .raw, shown => shown
  | .escaped, shown => escapeHtml shown

/-- What a region stands for. -/
def Region.render (r : Region) (ctx : Context) : Rendering Text :=
  (Rendering.evaluateCounted r.expression ctx).andThen fun v =>
    (Rendering.display v).andThen fun shown => .done (r.insertion.insert shown)

/-- What a segment stands for. -/
def Segment.render : Segment → Context → Rendering Text
  | .literal c, _ => .done [c]
  | .region r, ctx => r.render ctx

/-- What some segments stand for, one after the other. -/
def renderSegments : List Segment → Context → Rendering Text
  | [], _ => .done []
  | segment :: rest, ctx =>
    (segment.render ctx).andThen fun front => (renderSegments rest ctx).map (front ++ ·)

/-- The text with its regions replaced. -/
def interpolate (s : Text) (ctx : Context) : Rendering Text := renderSegments (segments s) ctx

end HtmlTemplate
