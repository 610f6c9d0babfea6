import HtmlTemplate.Markup.Node
import HtmlTemplate.Render.Interpolate

/-!
# Directives

A directive is an attribute, or the name of an element, that says how the element is rendered: `x-for` repeats it for
the items of a sequence, `x-if` keeps it or drops it, and a self-closing tag that is called like a template is
replaced by that template. A directive that does not apply to an element hands it on.
-/

namespace HtmlTemplate

/-- The kinds of directives. -/
inductive Directive where
  | loop
  | condition
  | inclusion
  deriving DecidableEq, Repr

namespace Directive

/-- The directives in the order in which elements pass through them. -/
def standard : List Directive := [.loop, .condition, .inclusion]

/-- The attribute that repeats an element. -/
def loopName : Text := "x-for".text

/-- The attribute that names the item of a loop. -/
def rowName : Text := "x-row".text

/-- The attribute that keeps or drops an element. -/
def conditionName : Text := "x-if".text

/-- The name of the item of a loop that gives none. -/
def itemName : Text := "item".text

/-- The expression of a directive: the value of the attribute, unless that is blank. -/
def expression? (tag : OpenTag) (name : Text) : Option Text :=
  match tag.find? name with
  | none => none
  | some a => if a.trimmedValue.isEmpty then none else a.value

/-- The name that a loop gives to its item. -/
def itemNameOf (tag : OpenTag) : Text :=
  match tag.find? rowName with
  | none => itemName
  | some a => if a.trimmedValue.isEmpty then itemName else a.trimmedValue

/-- The bindings of one round of a loop. The position wins over an item of the same name. -/
def roundLayer (name : Text) (index : Nat) (item : Value) : Layer :=
  Entries.insert Scope.indexName (.ofInt index) [(name, item)]

/-- What a loop renders for its items, from the position `index` on. -/
def renderRounds (body : Context → Rendering Text) (ctx : Context) (name : Text) : Nat → List Value → Rendering Text
  | _, [] => .done []
  | index, item :: rest =>
    (ctx.descend { ctx with scope := ctx.scopeWith (roundLayer name index item) }).andThen fun inner =>
      (body inner).andThen fun front =>
        (renderRounds body ctx name (index + 1) rest).map (front ++ ·)

/-- The value that an attribute passes to a template: true without a value, the value of an expression if it is one
region and nothing else, else its text. -/
def argument (a : Attribute) (ctx : Context) : Rendering Value :=
  match a.value with
  | none => .done (.bool true)
  | some text =>
    match Region.whole? text with
    | some r => Rendering.evaluateAndCount r.expression ctx
    | none => .done (.string text)

/-- The bindings that attributes make, on top of `layer`. Of two attributes of one name the later one wins. -/
def bindArguments (ctx : Context) : List Attribute → Layer → Rendering Layer
  | [], layer => .done layer
  | a :: rest, layer =>
    (argument a ctx).andThen fun v => bindArguments ctx rest (Entries.insert a.name v layer)

/-- The bindings that an element passes to the template that it includes. -/
def arguments (tag : OpenTag) (ctx : Context) : Rendering Layer := bindArguments ctx tag.attributes []

/-- Includes a template in the place of an element. -/
def renderInclusion (expand : Text → Context → Rendering Text) (template : Template) (tag : OpenTag) (ctx : Context) :
    Rendering Text :=
  if ctx.path.contains template.name then .fail (.cyclicInclude (ctx.path ++ [template.name]))
  else
    (arguments tag ctx).andThen fun layer =>
      (ctx.descend
        { ctx with
          scope := ctx.scopeWith layer
          path := ctx.path ++ [template.name]
          template := template.name }).andThen fun inner =>
        (Traced.tell (.included template.name inner.depth)).andThen fun _ => expand template.source inner

/-- Renders an element by one directive. `expand` renders the source of a template, and `proceed` is what becomes of
the element after the directive. -/
def render (expand : Text → Context → Rendering Text) (proceed : OpenTag → Context → Rendering Text) :
    Directive → OpenTag → Context → Rendering Text
  | .loop, tag, ctx =>
    match expression? tag loopName with
    | none => proceed tag ctx
    | some expression =>
      (Rendering.evaluateAndCount expression ctx).andThen fun v =>
        match v.items? with
        | none => (Traced.tell (.dropped expression tag.name)).andThen fun _ => .done []
        | some items =>
          let body := proceed (tag.without [loopName, rowName])
          (renderRounds body ctx (itemNameOf tag) 0 items).andThen fun html =>
            (Traced.tell .repeated).andThen fun _ => .done html
  | .condition, tag, ctx =>
    match expression? tag conditionName with
    | none => proceed tag ctx
    | some expression =>
      (Traced.tell .tested).andThen fun _ =>
        (Rendering.evaluateCounted expression ctx).andThen fun v =>
          if v.truthy then (ctx.descend ctx).andThen fun inner => proceed (tag.without [conditionName]) inner
          else .done []
  | .inclusion, tag, ctx =>
    match if tag.selfClosing then ctx.templateOf? tag.name else none with
    | none => proceed tag ctx
    | some template => renderInclusion expand template tag ctx

/-- Renders an element by some directives, one after the other; `emit` writes the element that none has taken. -/
def renderAll (expand : Text → Context → Rendering Text) (emit : OpenTag → Context → Rendering Text) :
    List Directive → OpenTag → Context → Rendering Text
  | [], tag, ctx => emit tag ctx
  | d :: rest, tag, ctx => d.render expand (renderAll expand emit rest) tag ctx

end Directive

end HtmlTemplate
