import HtmlTemplate.Proofs.Render.Basic

/-!
# What a rendering inherits from its steps

A rendering is made of steps: it evaluates expressions, shows their values, leaves events in the trace and may be
refused for its place. A property that holds of the steps, and of one rendering after another, holds of the rendering
of every source by any directives (`Inherited.renderBy`): one lemma for texts, one for the directives, one for the
nodes of a tree, and an induction on the number of nested templates.
-/

namespace HtmlTemplate

/-- What a property of renderings needs so that every rendering has it: the steps have it, and it is kept when one
rendering follows another. -/
structure Inherited (C : ∀ {α : Type}, Rendering α → Prop) : Prop where
  done : ∀ {α : Type} (a : α), C (.done a : Rendering α)
  /-- An event that is no evaluation. -/
  tell : ∀ event : Event, event.isEvaluated = false → C (.tell event)
  cyclicInclude : ∀ {α : Type} (path : List Text), C (.fail (.cyclicInclude path) : Rendering α)
  tooDeep : ∀ {α : Type} (ceiling : Int) (name : Text), C (.fail (.tooDeep ceiling name) : Rendering α)
  evaluate : ∀ (e : Text) (ctx : Context), C (Rendering.evaluate e ctx)
  region : ∀ (r : Region) (ctx : Context), C (r.render ctx)
  andThen : ∀ {α β : Type} {x : Rendering α} {next : α → Rendering β}, C x → (∀ a, C (next a)) → C (x.andThen next)

namespace Inherited

variable {C : ∀ {α : Type}, Rendering α → Prop} (I : Inherited C)

include I

theorem map {α β : Type} {x : Rendering α} (hx : C x) (f : α → β) : C (x.map f) := by
  rw [← Traced.andThen_done_eq_map]
  exact I.andThen hx fun a => I.done (f a)

theorem evaluateCounted (e : Text) (ctx : Context) : C (Rendering.evaluateCounted e ctx) :=
  I.andThen (I.tell _ rfl) fun _ => I.evaluate e ctx

theorem evaluateAndCount (e : Text) (ctx : Context) : C (Rendering.evaluateAndCount e ctx) :=
  I.andThen (I.evaluate e ctx) fun v => I.andThen (I.tell _ rfl) fun _ => I.done v

theorem descend (ctx target : Context) : C (ctx.descend target) := by
  unfold Context.descend
  split
  · exact I.tooDeep _ _
  · exact I.andThen (I.tell _ rfl) fun _ => I.done _

/-! ## Texts and arguments -/

theorem renderSegments (parts : List Segment) (ctx : Context) : C (renderSegments parts ctx) := by
  induction parts with
  | nil => exact I.done _
  | cons part parts ih =>
    have hpart : C (part.render ctx) := by
      cases part with
      | literal c => exact I.done _
      | region r => exact I.region r ctx
    exact I.andThen hpart fun front => I.map ih _

theorem interpolate (s : Text) (ctx : Context) : C (interpolate s ctx) := I.renderSegments (segments s) ctx

theorem bindArguments (ctx : Context) (attributes : List Attribute) (layer : Layer) :
    C (Directive.bindArguments ctx attributes layer) := by
  induction attributes generalizing layer with
  | nil => exact I.done _
  | cons a rest ih =>
    have ha : C (Directive.argument a ctx) := by
      unfold Directive.argument
      split
      · exact I.done _
      · split
        · exact I.evaluateAndCount _ ctx
        · exact I.done _
    exact I.andThen ha fun v => ih _

/-! ## Directives -/

section Directives

variable {expand : Text → Context → Rendering Text} {proceed : OpenTag → Context → Rendering Text}

theorem renderRounds {body : Context → Rendering Text} (hb : ∀ ctx, C (body ctx)) (ctx : Context) (name : Text)
    (items : List Value) (index : Nat) : C (Directive.renderRounds body ctx name index items) := by
  induction items generalizing index with
  | nil => exact I.done _
  | cons item rest ih =>
    exact I.andThen (I.descend _ _) fun inner => I.andThen (hb inner) fun front => I.map (ih (index + 1)) _

theorem renderInclusion (hx : ∀ source ctx, C (expand source ctx)) (t : Template) (tag : OpenTag) (ctx : Context) :
    C (Directive.renderInclusion expand t tag ctx) := by
  unfold Directive.renderInclusion
  split
  · exact I.cyclicInclude _
  · exact I.andThen (I.bindArguments ctx tag.attributes []) fun layer =>
      I.andThen (I.descend _ _) fun inner => I.andThen (I.tell _ rfl) fun _ => hx t.source inner

/-- A directive has the property if what it hands an element on to has it. -/
theorem directive (hx : ∀ source ctx, C (expand source ctx)) (hp : ∀ tag ctx, C (proceed tag ctx)) (d : Directive)
    (tag : OpenTag) (ctx : Context) : C (d.render expand proceed tag ctx) := by
  cases d with
  | loop =>
    simp only [Directive.render]
    split
    · exact hp tag ctx
    · refine I.andThen (I.evaluateAndCount _ ctx) fun v => ?_
      split
      · exact I.andThen (I.tell _ rfl) fun _ => I.done _
      · exact I.andThen (I.renderRounds (hp _) ctx _ _ 0) fun html =>
          I.andThen (I.tell _ rfl) fun _ => I.done html
  | condition =>
    simp only [Directive.render]
    split
    · exact hp tag ctx
    · refine I.andThen (I.tell _ rfl) fun _ => I.andThen (I.evaluateCounted _ ctx) fun v => ?_
      split
      · exact I.andThen (I.descend ctx ctx) fun inner => hp _ inner
      · exact I.done _
  | inclusion =>
    rw [Directive.render_inclusion]
    cases tag.inclusion? ctx.library with
    | none => exact hp tag ctx
    | some t => exact I.renderInclusion hx t tag ctx

theorem renderAll (hx : ∀ source ctx, C (expand source ctx)) {emit : OpenTag → Context → Rendering Text}
    (he : ∀ tag ctx, C (emit tag ctx)) (directives : List Directive) (tag : OpenTag) (ctx : Context) :
    C (Directive.renderAll expand emit directives tag ctx) := by
  induction directives generalizing tag ctx with
  | nil => exact he tag ctx
  | cons d rest ih => exact I.directive hx ih d tag ctx

end Directives

/-! ## Nodes and sources -/

section Nodes

variable {expand : Text → Context → Rendering Text} (directives : List Directive)

mutual

theorem renderNode (hx : ∀ source ctx, C (expand source ctx)) : ∀ (node : Node) (ctx : Context),
    C (renderNode directives expand node ctx)
  | .text s, ctx => by
    rw [HtmlTemplate.renderNode]
    exact I.interpolate s ctx
  | .element tag children closing, ctx => by
    rw [HtmlTemplate.renderNode]
    have hemit : ∀ (tag : OpenTag) (ctx : Context), C ((HtmlTemplate.interpolate tag.source ctx).andThen fun front =>
        (HtmlTemplate.renderNodes directives expand children ctx).map fun inside =>
          front ++ inside ++ closing.getD []) :=
      fun tag ctx => I.andThen (I.interpolate tag.source ctx) fun front => I.map (renderNodes hx children ctx) _
    exact I.renderAll hx hemit directives tag ctx

/-- The nodes of a tree have the property if the templates have it. -/
theorem renderNodes (hx : ∀ source ctx, C (expand source ctx)) : ∀ (nodes : List Node) (ctx : Context),
    C (renderNodes directives expand nodes ctx)
  | [], ctx => by
    rw [HtmlTemplate.renderNodes]
    exact I.done _
  | node :: rest, ctx => by
    rw [HtmlTemplate.renderNodes]
    exact I.andThen (renderNode hx node ctx) fun front => I.map (renderNodes hx rest ctx) _

end

theorem renderWithin (levels : Nat) (source : Text) (ctx : Context) :
    C (renderWithin directives levels source ctx) := by
  induction levels generalizing source ctx with
  | zero => exact I.tooDeep _ _
  | succ levels ih => exact I.renderNodes directives ih _ ctx

/-- **Inheritance.** Every rendering of a source has a property that its steps have and that is kept when one rendering
follows another. -/
theorem renderBy (source : Text) (ctx : Context) : C (renderBy directives source ctx) :=
  I.renderWithin directives _ source ctx

end Nodes

end Inherited

end HtmlTemplate
