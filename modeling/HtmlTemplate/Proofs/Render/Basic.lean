import HtmlTemplate.Render.Source
import HtmlTemplate.Proofs.Trace
import HtmlTemplate.Proofs.Value.Decidable
import Mathlib.Control.Monad.Basic

/-!
# The steps of a rendering

What the proofs about renderings share: the library of templates, which a rendering never changes; the tag that each
directive hands on; the events that an expression leaves; and what follows the way down and the evaluation of an
expression, as equations.
-/

namespace HtmlTemplate

/-! ## Libraries and tags -/

/-- The templates that a rendering may include, and whether the case of their names matters. -/
structure Library where
  templates : Templates
  ignoreCase : Bool

/-- The library of a context. -/
def Context.library (ctx : Context) : Library := ⟨ctx.templates, ctx.ignoreCase⟩

namespace OpenTag

/-- The template that takes the place of an element. -/
def inclusion? (lib : Library) (tag : OpenTag) : Option Template :=
  if tag.selfClosing then lib.templates.find? (Template.normalName lib.ignoreCase tag.name) else none

theorem mem_of_inclusion? {lib : Library} {tag : OpenTag} {t : Template} (h : tag.inclusion? lib = some t) :
    t ∈ lib.templates := by
  unfold inclusion? at h
  split at h
  · exact List.mem_of_find?_eq_some h
  · cases h

/-- The tag that a loop hands on. -/
def afterLoop (tag : OpenTag) : OpenTag :=
  match Directive.expression? tag Directive.loopName with
  | none => tag
  | some _ => tag.without [Directive.loopName, Directive.rowName]

/-- The tag that a condition hands on. -/
def afterCondition (tag : OpenTag) : OpenTag :=
  match Directive.expression? tag Directive.conditionName with
  | none => tag
  | some _ => tag.without [Directive.conditionName]

theorem afterLoop_name (tag : OpenTag) : tag.afterLoop.name = tag.name := by unfold afterLoop; split <;> rfl

theorem afterLoop_selfClosing (tag : OpenTag) : tag.afterLoop.selfClosing = tag.selfClosing := by
  unfold afterLoop; split <;> rfl

theorem afterCondition_name (tag : OpenTag) : tag.afterCondition.name = tag.name := by
  unfold afterCondition; split <;> rfl

theorem afterCondition_selfClosing (tag : OpenTag) : tag.afterCondition.selfClosing = tag.selfClosing := by
  unfold afterCondition; split <;> rfl

/-- The directives before it leave to an inclusion whether it applies. -/
theorem inclusion?_bare (lib : Library) (tag : OpenTag) :
    tag.afterLoop.afterCondition.inclusion? lib = tag.inclusion? lib := by
  unfold inclusion?
  rw [afterCondition_selfClosing, afterLoop_selfClosing, afterCondition_name, afterLoop_name]

end OpenTag

/-! ## Events -/

deriving instance DecidableEq for Event

/-- Whether an expression is evaluated. -/
def Event.isEvaluated : Event → Bool
  | .evaluated _ _ => true
  | _ => false

/-! ## Steps -/

theorem Directive.render_inclusion (expand : Text → Context → Rendering Text)
    (proceed : OpenTag → Context → Rendering Text) (tag : OpenTag) (ctx : Context) :
    Directive.render expand proceed .inclusion tag ctx =
      match tag.inclusion? ctx.library with
      | none => proceed tag ctx
      | some template => renderInclusion expand template tag ctx := rfl

/-- A tag that repeats nothing and tests nothing is included, or else emitted. -/
theorem Directive.renderAll_of_bare {tag : OpenTag} (hloop : expression? tag loopName = none)
    (hcondition : expression? tag conditionName = none) (expand : Text → Context → Rendering Text)
    (emit : OpenTag → Context → Rendering Text) (ctx : Context) :
    renderAll expand emit standard tag ctx =
      match tag.inclusion? ctx.library with
      | none => emit tag ctx
      | some template => renderInclusion expand template tag ctx := by
  rw [standard, renderAll, Directive.render, hloop, renderAll, Directive.render, hcondition]
  rfl

/-- What follows the way down follows it unless the ceiling is reached. -/
theorem Context.descend_andThen {α : Type} (ctx target : Context) (next : Context → Rendering α) :
    (ctx.descend target).andThen next =
      if (ctx.depth : Int) + 1 > ctx.ceiling then
        .fail (.tooDeep ctx.ceiling (if target.template = [] then ctx.template else target.template))
      else
        (Traced.tell (.entered target.path (ctx.depth + 1))).andThen fun _ =>
          next { target with depth := ctx.depth + 1 } := by
  unfold Context.descend
  split
  · rfl
  · rw [Traced.andThen_assoc]
    simp only [Traced.done_andThen]

theorem Context.result_descend_andThen {α : Type} (ctx target : Context) (next : Context → Rendering α)
    (h : (ctx.depth : Int) + 1 ≤ ctx.ceiling) :
    ((ctx.descend target).andThen next).result = (next { target with depth := ctx.depth + 1 }).result := by
  rw [Context.descend_andThen, if_neg (by omega), Traced.result_andThen]
  rfl

/-- What a text leaves of an expression: it is counted and evaluated. -/
def Event.ofShown (expression : Text) (scope : Scope) : List Event :=
  [.counted, .evaluated expression (evaluate expression scope)]

/-- What is counted of two parts of a trace is counted of the whole. -/
theorem Stats.ofTrace_append_congr {front front' back back' : List Event}
    (hfront : Stats.ofTrace front = Stats.ofTrace front') (hback : Stats.ofTrace back = Stats.ofTrace back') :
    Stats.ofTrace (front ++ back) = Stats.ofTrace (front' ++ back') := by
  simp only [Stats.ofTrace, Stats.mk.injEq, List.countP_append] at hfront hback ⊢
  omega

namespace Rendering

variable {α : Type} (e : Text) (ctx : Context) (next : Value → Rendering α)

theorem trace_evaluate : (evaluate e ctx).trace = [.evaluated e (HtmlTemplate.evaluate e ctx.scope)] := by
  rw [evaluate]
  cases HtmlTemplate.evaluate e ctx.scope <;> rfl

theorem result_evaluateCounted_andThen :
    ((evaluateCounted e ctx).andThen next).result =
      match HtmlTemplate.evaluate e ctx.scope with
      | .error cause => .error (.expression cause)
      | .ok v => (next v).result := by
  rw [Traced.result_andThen, evaluateCounted, evaluate]
  cases HtmlTemplate.evaluate e ctx.scope <;> rfl

theorem result_evaluateAndCount_andThen :
    ((evaluateAndCount e ctx).andThen next).result =
      match HtmlTemplate.evaluate e ctx.scope with
      | .error cause => .error (.expression cause)
      | .ok v => (next v).result := by
  rw [Traced.result_andThen, evaluateAndCount, evaluate]
  cases HtmlTemplate.evaluate e ctx.scope <;> rfl

/-- Whether an expression counts before or after it is evaluated makes a difference only if it has no value. -/
theorem evaluateCounted_agrees :
    ((evaluateCounted e ctx).andThen next).result = ((evaluateAndCount e ctx).andThen next).result ∧
      ∀ v, (evaluateAndCount e ctx).result = .ok v →
        ((evaluateCounted e ctx).andThen next).trace.Perm ((evaluateAndCount e ctx).andThen next).trace := by
  refine ⟨by rw [result_evaluateCounted_andThen, result_evaluateAndCount_andThen], fun v hv => ?_⟩
  rw [evaluateCounted, evaluateAndCount, evaluate] at *
  cases h : HtmlTemplate.evaluate e ctx.scope with
  | error cause =>
    rw [h] at hv
    cases hv
  | ok w => exact List.Perm.swap _ _ _

end Rendering

end HtmlTemplate
