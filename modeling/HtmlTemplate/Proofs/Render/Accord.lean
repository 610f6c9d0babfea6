import HtmlTemplate.Proofs.Render.Occurrence
import HtmlTemplate.Proofs.Trace
import Mathlib.Tactic.Choose

/-!
# Renderings that differ in their scopes

A family has one rendering for each index, and the renderings of a family differ in nothing but the scope. An `Accord`
names what the scopes of a family have in common and what the renderings then have in common. If it suits every
expression of a source and of the templates, the renderings of the source are in accord (`texts_render`): one lemma for
texts, one for each directive, one for the nodes of a tree, and an induction on the number of nested templates.
-/

namespace HtmlTemplate

/-! ## What families have in common -/

/-- What the scopes of a family have in common, and what the renderings have in common that are made with them. -/
structure Accord (ι : Type) where
  scopes : (ι → Scope) → Prop
  texts : (ι → Rendering Text) → Prop
  /-- A layer that is the same for all may be added. -/
  child : ∀ {sc : ι → Scope} (layer : Layer), scopes sc → scopes fun i => (sc i).child layer
  /-- Renderings that are the same are in accord. -/
  same : ∀ x : Rendering Text, texts fun _ => x
  /-- The same may be done before. -/
  after : ∀ {α : Type} (x : Rendering α) {f : ι → α → Rendering Text},
    (∀ a, texts fun i => f i a) → texts fun i => x.andThen (f i)
  /-- One rendering may stand behind another. -/
  append : ∀ {f g : ι → Rendering Text}, texts f → texts g →
    texts fun i => (f i).andThen fun front => (g i).map (front ++ ·)

namespace Accord

variable {ι : Type} (A : Accord ι)

/-- What an accord asks of an expression: a value that is used is the same for all, and a region that is shown is
rendered in accord. -/
def Suits : Occurrence → Prop
  | .shown r => ∀ (ctx : Context) (sc : ι → Scope), A.scopes sc → A.texts fun i => r.render { ctx with scope := sc i }
  | .used e => ∀ sc : ι → Scope, A.scopes sc → ∃ x, ∀ i, evaluate e (sc i) = x

/-- Whatever scopes in accord it is given, `body` renders in accord. -/
def Keeps (lib : Library) (body : Context → Rendering Text) : Prop :=
  ∀ (ctx : Context) (sc : ι → Scope), ctx.library = lib → A.scopes sc →
    A.texts fun i => body { ctx with scope := sc i }

variable {A} {lib : Library}

/-! ## The same with more before or behind -/

/-- What is done behind a rendering may leave a trace. -/
theorem append_tell {f : ι → Rendering Text} (event : Event) (hf : A.texts f) :
    A.texts fun i => (f i).andThen fun html => (Traced.tell event).andThen fun _ => .done html := by
  have h := A.append hf (A.same ((Traced.tell event).andThen fun _ => .done []))
  simpa only [Traced.map_andThen, Traced.map_done, List.append_nil] using h

/-- Going deeper keeps an accord. -/
theorem texts_descend {body : Context → Rendering Text} (hb : A.Keeps lib body) (ctx target : Context)
    (sc : ι → Scope) {inner : ι → Scope} (hl : target.library = lib) (hi : A.scopes inner) :
    A.texts fun i =>
      (Context.descend { ctx with scope := sc i } { target with scope := inner i }).andThen body := by
  simp only [Context.descend_andThen]
  split
  · exact A.same _
  · exact A.after _ fun _ => hb { target with depth := ctx.depth + 1 } inner hl hi

/-! ## Expressions -/

section Expressions

variable {sc : ι → Scope} (hs : A.scopes sc)

include hs

/-- A value that is used is evaluated in the same way for all. -/
theorem evaluate_same {e : Text} (he : A.Suits (.used e)) (ctx : Context) :
    ∃ x, ∀ i, Rendering.evaluate e { ctx with scope := sc i } = x := by
  obtain ⟨outcome, houtcome⟩ := he sc hs
  refine ⟨(Traced.tell (.evaluated e outcome)).andThen fun _ => .ofResult (outcome.mapError .expression), fun i => ?_⟩
  simp only [Rendering.evaluate, houtcome i]

/-- What follows a value that is used is in accord if it is so for each value. -/
theorem texts_evaluateCounted {e : Text} (he : A.Suits (.used e)) (ctx : Context) {f : ι → Value → Rendering Text}
    (hf : ∀ v, A.texts fun i => f i v) :
    A.texts fun i => (Rendering.evaluateCounted e { ctx with scope := sc i }).andThen (f i) := by
  obtain ⟨x, hx⟩ := evaluate_same hs he ctx
  simp only [Rendering.evaluateCounted, hx]
  exact A.after _ hf

theorem texts_evaluateAndCount {e : Text} (he : A.Suits (.used e)) (ctx : Context) {f : ι → Value → Rendering Text}
    (hf : ∀ v, A.texts fun i => f i v) :
    A.texts fun i => (Rendering.evaluateAndCount e { ctx with scope := sc i }).andThen (f i) := by
  obtain ⟨x, hx⟩ := evaluate_same hs he ctx
  simp only [Rendering.evaluateAndCount, hx]
  exact A.after _ hf

theorem argument_same {a : Attribute}
    (ha : ∀ r, a.value.bind Region.whole? = some r → A.Suits (.used r.expression)) (ctx : Context) :
    ∃ x, ∀ i, Directive.argument a { ctx with scope := sc i } = x := by
  unfold Directive.argument
  cases hv : a.value with
  | none => exact ⟨_, fun _ => rfl⟩
  | some s =>
    cases hr : Region.whole? s with
    | none => exact ⟨.done (.string s), fun _ => by simp only [hr]⟩
    | some r =>
      simp only [hr]
      obtain ⟨x, hx⟩ := evaluate_same hs (ha r (by rw [hv]; exact hr)) ctx
      exact ⟨x.andThen fun v => (Traced.tell .counted).andThen fun _ => .done v, fun i => by
        rw [Rendering.evaluateAndCount, hx i]⟩

/-- The arguments of a template are bound in the same way for all. -/
theorem bindArguments_same (ctx : Context) (attributes : List Attribute) (layer : Layer)
    (ha : ∀ a ∈ attributes, ∀ r, a.value.bind Region.whole? = some r → A.Suits (.used r.expression)) :
    ∃ x, ∀ i, Directive.bindArguments { ctx with scope := sc i } attributes layer = x := by
  induction attributes generalizing layer with
  | nil => exact ⟨_, fun _ => rfl⟩
  | cons a rest ih =>
    rw [List.forall_mem_cons] at ha
    obtain ⟨x, hx⟩ := argument_same hs ha.1 ctx
    choose y hy using fun v => ih (Entries.insert a.name v layer) ha.2
    refine ⟨x.andThen y, fun i => ?_⟩
    simp only [Directive.bindArguments, hx, hy]

theorem arguments_same (ctx : Context) {tag : OpenTag} (ht : ∀ o ∈ Occurrence.inArguments tag, A.Suits o) :
    ∃ x, ∀ i, Directive.arguments tag { ctx with scope := sc i } = x := by
  refine bindArguments_same hs ctx tag.attributes [] fun a ha r hr => ?_
  exact ht _ (List.mem_filterMap.mpr ⟨a, ha, by rw [hr]; rfl⟩)

end Expressions

/-! ## Texts -/

theorem keeps_renderSegments {parts : List Segment} (hp : ∀ r, .region r ∈ parts → A.Suits (.shown r)) :
    A.Keeps lib (renderSegments parts) := by
  intro ctx sc _ hs
  induction parts with
  | nil => exact A.same _
  | cons part parts ih =>
    have hpart : A.texts fun i => part.render { ctx with scope := sc i } := by
      cases part with
      | literal c => exact A.same _
      | region r => exact hp r List.mem_cons_self ctx sc hs
    exact A.append hpart (ih fun r hr => hp r (List.mem_cons_of_mem _ hr))

theorem keeps_interpolate {s : Text} (h : ∀ o ∈ Occurrence.inText s, A.Suits o) : A.Keeps lib (interpolate s) :=
  keeps_renderSegments fun r hr => h _ (List.mem_filterMap.mpr ⟨.region r, hr, rfl⟩)

/-! ## Directives -/

section Directives

variable {expand : Text → Context → Rendering Text} {proceed : OpenTag → Context → Rendering Text} {tag : OpenTag}

theorem keeps_renderRounds {body : Context → Rendering Text} (hb : A.Keeps lib body) (name : Text) (items : List Value)
    (index : Nat) : A.Keeps lib fun ctx => Directive.renderRounds body ctx name index items := by
  intro ctx sc hl hs
  induction items generalizing index with
  | nil => exact A.same _
  | cons item rest ih =>
    -- the round and those after it, in the order in which a loop chains them
    have hround := texts_descend hb ctx ctx sc hl
      (A.child (Layer.identified (ctx.depth + 1) (Directive.roundLayer name index item)) hs)
    have h := A.append hround (ih (index + 1))
    simp only [Traced.andThen_assoc] at h
    simpa only [Directive.renderRounds, Context.scopeWith] using h

/-- A loop keeps an accord if what follows it does. -/
theorem keeps_loop (he : ∀ o ∈ Occurrence.inDirective tag Directive.loopName, A.Suits o)
    (hp : A.Keeps lib (proceed tag.afterLoop)) : A.Keeps lib (Directive.render expand proceed .loop tag) := by
  intro ctx sc hl hs
  unfold OpenTag.afterLoop at hp
  unfold Occurrence.inDirective at he
  simp only [Directive.render]
  cases h : Directive.expression? tag Directive.loopName with
  | none =>
    rw [h] at hp
    exact hp ctx sc hl hs
  | some e =>
    rw [h] at hp he
    refine texts_evaluateAndCount hs (he _ (by simp)) ctx fun v => ?_
    cases v.items? with
    | none => exact A.same _
    | some items => exact append_tell _ (keeps_renderRounds hp _ items 0 ctx sc hl hs)

/-- A condition keeps an accord if what follows it does. -/
theorem keeps_condition (he : ∀ o ∈ Occurrence.inDirective tag Directive.conditionName, A.Suits o)
    (hp : A.Keeps lib (proceed tag.afterCondition)) :
    A.Keeps lib (Directive.render expand proceed .condition tag) := by
  intro ctx sc hl hs
  unfold OpenTag.afterCondition at hp
  unfold Occurrence.inDirective at he
  simp only [Directive.render]
  cases h : Directive.expression? tag Directive.conditionName with
  | none =>
    rw [h] at hp
    exact hp ctx sc hl hs
  | some e =>
    rw [h] at hp he
    refine A.after _ fun _ => texts_evaluateCounted hs (he _ (by simp)) ctx fun v => ?_
    cases v.truthy with
    | false => exact A.same _
    | true => exact texts_descend hp ctx ctx sc hl hs

/-- An inclusion keeps an accord if the template that it includes does. -/
theorem keeps_renderInclusion (template : Template) (ha : ∀ o ∈ Occurrence.inArguments tag, A.Suits o)
    (ht : A.Keeps lib (expand template.source)) :
    A.Keeps lib (Directive.renderInclusion expand template tag) := by
  intro ctx sc hl hs
  simp only [Directive.renderInclusion]
  split
  · exact A.same _
  · obtain ⟨x, hx⟩ := arguments_same hs ctx ha
    simp only [hx]
    refine A.after x fun layer => ?_
    have hbody : A.Keeps lib fun inner =>
        (Traced.tell (.included template.name inner.depth)).andThen fun _ => expand template.source inner :=
      fun inner sc' hl' hs' =>
        A.after (Traced.tell (.included template.name inner.depth)) fun _ => ht inner sc' hl' hs'
    exact texts_descend hbody ctx { ctx with path := ctx.path ++ [template.name], template := template.name } sc hl
      (A.child (layer.identified (ctx.depth + 1)) hs)

/-- A tag that no directive is left in keeps an accord if its emission and the templates do. -/
theorem keeps_inclusion (ho : ∀ o ∈ Occurrence.inBareTag lib tag, A.Suits o)
    (hp : (∀ o ∈ Occurrence.inText tag.source, A.Suits o) → A.Keeps lib (proceed tag))
    (ht : ∀ t ∈ lib.templates, A.Keeps lib (expand t.source)) :
    A.Keeps lib (Directive.render expand proceed .inclusion tag) := by
  intro ctx sc hl hs
  have hi : ∀ i, tag.inclusion? (Context.library { ctx with scope := sc i }) = tag.inclusion? lib := by
    rw [← hl]
    exact fun _ => rfl
  unfold Occurrence.inBareTag at ho
  simp only [Directive.render_inclusion, hi]
  cases h : tag.inclusion? lib with
  | none =>
    rw [h] at ho
    exact hp ho ctx sc hl hs
  | some template =>
    rw [h] at ho
    exact keeps_renderInclusion template ho (ht template (OpenTag.mem_of_inclusion? h)) ctx sc hl hs

/-- The directives keep an accord if the emission and the templates do. -/
theorem keeps_renderAll {emit : OpenTag → Context → Rendering Text}
    (ho : ∀ o ∈ Occurrence.inTag lib tag, A.Suits o)
    (he : ∀ tag : OpenTag, (∀ o ∈ Occurrence.inText tag.source, A.Suits o) → A.Keeps lib (emit tag))
    (ht : ∀ t ∈ lib.templates, A.Keeps lib (expand t.source)) :
    A.Keeps lib (Directive.renderAll expand emit Directive.standard tag) := by
  rw [Occurrence.inTag, List.forall_mem_append, List.forall_mem_append] at ho
  obtain ⟨hloop, hcondition, hbare⟩ := ho
  have hi : A.Keeps lib (Directive.renderAll expand emit [.inclusion] tag.afterLoop.afterCondition) :=
    keeps_inclusion hbare (he _) ht
  have hc : A.Keeps lib
      (Directive.render expand (Directive.renderAll expand emit [.inclusion]) .condition tag.afterLoop) :=
    keeps_condition hcondition hi
  show A.Keeps lib
    (Directive.render expand (Directive.renderAll expand emit [.condition, .inclusion]) .loop tag)
  exact keeps_loop hloop hc

end Directives

/-! ## Nodes and sources -/

section Nodes

variable {expand : Text → Context → Rendering Text}

/-- The tag of an element and its children behind it. -/
theorem keeps_emission {tag : OpenTag} {inside : Context → Rendering Text} (closing : Text)
    (ht : A.Keeps lib (interpolate tag.source)) (hi : A.Keeps lib inside) :
    A.Keeps lib fun ctx => (interpolate tag.source ctx).andThen fun front =>
      (inside ctx).map fun inside => front ++ inside ++ closing := by
  intro ctx sc hl hs
  have hinside : A.texts fun i => (inside { ctx with scope := sc i }).map (· ++ closing) := by
    simpa only [Traced.map_done, Traced.andThen_done_eq_map] using A.append (hi ctx sc hl hs) (A.same (.done closing))
  simpa only [Traced.map_map, Function.comp_def, List.append_assoc] using A.append (ht ctx sc hl hs) hinside

mutual

theorem keeps_renderNode (ht : ∀ t ∈ lib.templates, A.Keeps lib (expand t.source)) :
    ∀ node : Node, (∀ o ∈ Occurrence.inNode lib node, A.Suits o) →
      A.Keeps lib (renderNode Directive.standard expand node)
  | .text s, h => by
    have hk : A.Keeps lib (interpolate s) := keeps_interpolate (by simpa only [Occurrence.inNode] using h)
    simpa only [Keeps, renderNode] using hk
  | .element tag children closing, h => by
    rw [Occurrence.inNode, List.forall_mem_append] at h
    have hc := keeps_renderNodes ht children h.2
    have hk := keeps_renderAll h.1
      (fun _ hs => keeps_emission (closing.getD []) (keeps_interpolate hs) hc) ht
    simpa only [Keeps, renderNode] using hk

/-- The nodes of a tree are rendered in accord if the templates are. -/
theorem keeps_renderNodes (ht : ∀ t ∈ lib.templates, A.Keeps lib (expand t.source)) :
    ∀ nodes : List Node, (∀ o ∈ Occurrence.inNodes lib nodes, A.Suits o) →
      A.Keeps lib (renderNodes Directive.standard expand nodes)
  | [], _ => fun _ _ _ _ => by
    simp only [renderNodes]
    exact A.same _
  | node :: rest, h => fun ctx sc hl hs => by
    rw [Occurrence.inNodes, List.forall_mem_append] at h
    simp only [renderNodes]
    exact A.append (keeps_renderNode ht node h.1 ctx sc hl hs) (keeps_renderNodes ht rest h.2 ctx sc hl hs)

end

/-- Sources that nest fewer than `levels` templates are rendered in accord. -/
theorem keeps_renderWithin (ht : ∀ t ∈ lib.templates, ∀ o ∈ Occurrence.inSource lib t.source, A.Suits o)
    (levels : Nat) (source : Text) (h : ∀ o ∈ Occurrence.inSource lib source, A.Suits o) :
    A.Keeps lib (renderWithin Directive.standard levels source) := by
  induction levels generalizing source with
  | zero =>
    intro ctx sc _ _
    simp only [renderWithin]
    exact A.same _
  | succ levels ih => exact keeps_renderNodes (fun t hm => ih t.source (ht t hm)) _ h

/-- **Accord of renderings.** An accord that suits the expressions of a source and of the templates holds for the
renderings of the source in scopes that are in accord. -/
theorem texts_render (ctx : Context) {sc : ι → Scope} (source : Text)
    (h : ∀ o ∈ Occurrence.inSource ctx.library source, A.Suits o)
    (ht : ∀ t ∈ ctx.templates, ∀ o ∈ Occurrence.inSource ctx.library t.source, A.Suits o) (hs : A.scopes sc) :
    A.texts fun i => render source { ctx with scope := sc i } :=
  keeps_renderWithin ht ((ctx.ceiling - ctx.depth).toNat + 1) source h ctx sc rfl hs

end Nodes

end Accord

end HtmlTemplate
