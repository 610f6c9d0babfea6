import HtmlTemplate.Proofs.Render.Basic

/-!
# The expressions of a source

An expression occurs in a source in one of two parts: it is shown, as a region of a text or of a tag that is emitted,
or it is used, by a directive or as an argument of a template. `Occurrence.inSource` lists the occurrences of a source
in the order of the source; which tags are emitted depends on which names are names of templates.
-/

namespace HtmlTemplate

/-- An expression of a source. -/
inductive Occurrence where
  /-- The value of the region stands in the output. -/
  | shown (r : Region)
  /-- A directive depends on the value, or a template is passed it. -/
  | used (expression : Text)
  deriving DecidableEq, Repr

namespace Occurrence

/-- The expressions in a text. -/
def inText (s : Text) : List Occurrence :=
  (segments s).filterMap fun
    | .literal _ => none
    | .region r => some (.shown r)

/-- The expressions that a tag passes to the template it includes. -/
def inArguments (tag : OpenTag) : List Occurrence :=
  tag.attributes.filterMap fun a => (a.value.bind Region.whole?).map fun r => .used r.expression

/-- The expression of a directive. -/
def inDirective (tag : OpenTag) (name : Text) : List Occurrence :=
  (Directive.expression? tag name).toList.map .used

/-- The expressions in a tag that no directive is left in. -/
def inBareTag (lib : Library) (tag : OpenTag) : List Occurrence :=
  match tag.inclusion? lib with
  | some _ => inArguments tag
  | none => inText tag.source

/-- The expressions in a tag. -/
def inTag (lib : Library) (tag : OpenTag) : List Occurrence :=
  inDirective tag Directive.loopName ++
    (inDirective tag.afterLoop Directive.conditionName ++ inBareTag lib tag.afterLoop.afterCondition)

mutual

/-- The expressions in a node. -/
def inNode (lib : Library) : Node → List Occurrence
  | .text s => inText s
  | .element tag children _ => inTag lib tag ++ inNodes lib children

/-- The expressions in some nodes. -/
def inNodes (lib : Library) : List Node → List Occurrence
  | [] => []
  | node :: rest => inNode lib node ++ inNodes lib rest

end

/-- The expressions in a source. -/
def inSource (lib : Library) (source : Text) : List Occurrence := inNodes lib (Markup.parse (withoutMark source))

end Occurrence

end HtmlTemplate
