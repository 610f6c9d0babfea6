import HtmlTemplate.Proofs.Render.Basic

/-!
# What every rendering ensures of its events and failures

Let `E` be a kind of events and `F` a kind of failures, and let them permit what comes from expressions and from
directives that go through (`Permits`). Then all that is left to show of a rendering is what happens where it goes one
level down: a kind of contexts is given for each level (`Descends`), and each directive ensures `E` and `F` if what
follows it does so in the contexts below.
-/

namespace HtmlTemplate

variable {E : Event → Prop} {F : RenderError → Prop}

/-! ## Texts -/

section

variable (hcounted : E .counted) (hevaluated : ∀ e outcome, E (.evaluated e outcome))
  (hexpression : ∀ e, F (.expression e)) (hdisplay : ∀ e, F (.display e))

include hevaluated hexpression

theorem ensures_evaluate (e : Text) (ctx : Context) : (Rendering.evaluate e ctx).Ensures E F := by
  refine (Traced.ensures_tell (hevaluated e _)).andThen fun _ => Traced.ensures_ofResult fun cause h => ?_
  cases hv : HtmlTemplate.evaluate e ctx.scope with
  | ok v => rw [hv] at h; cases h
  | error e' => rw [hv] at h; cases h; exact hexpression e'

include hcounted hdisplay

/-- A text evaluates expressions and shows their values, and does nothing else. -/
theorem ensures_interpolate (s : Text) (ctx : Context) : (interpolate s ctx).Ensures E F := by
  have hdisplayed : ∀ v, (Rendering.display v).Ensures E F := by
    intro v
    refine Traced.ensures_ofResult fun cause h => ?_
    cases hv : v.display with
    | ok s => rw [hv] at h; cases h
    | error e => rw [hv] at h; cases h; exact hdisplay e
  rw [interpolate]
  induction segments s with
  | nil => exact Traced.ensures_done _
  | cons part parts ih =>
    have hpart : (part.render ctx).Ensures E F := by
      cases part with
      | literal c => exact Traced.ensures_done _
      | region r =>
        have hvalue : (Rendering.evaluateCounted r.expression ctx).Ensures E F :=
          (Traced.ensures_tell hcounted).andThen fun _ => ensures_evaluate hevaluated hexpression r.expression ctx
        exact hvalue.andThen fun v => (hdisplayed v).andThen fun _ => Traced.ensures_done _
    exact hpart.andThen fun front => ih.map _

end

/-! ## Going down -/

/-- The events and failures that have nothing to do with where a rendering stands. -/
structure Permits (E : Event → Prop) (F : RenderError → Prop) : Prop where
  counted : E .counted
  evaluated : ∀ e outcome, E (.evaluated e outcome)
  tested : E .tested
  repeated : E .repeated
  dropped : ∀ e tag, E (.dropped e tag)
  included : ∀ name depth, E (.included name depth)
  expression : ∀ e, F (.expression e)
  display : ∀ e, F (.display e)

/-- One level down from a context of the kind `I` is a context of the kind `J`, in whatever scope. -/
structure Descends (E : Event → Prop) (F : RenderError → Prop) (I J : Context → Prop) : Prop where
  stop : ∀ ctx, I ctx → ctx.ceiling < ctx.depth + 1 → ∀ name, F (.tooDeep ctx.ceiling name)
  enter : ∀ ctx scope, I ctx → (ctx.depth : Int) + 1 ≤ ctx.ceiling →
    E (.entered ctx.path (ctx.depth + 1)) ∧ J { ctx with scope := scope, depth := ctx.depth + 1 }

namespace Descends

variable {I J : Context → Prop} (D : Descends E F I J) {body : Context → Rendering Text}
  (hb : ∀ inner, J inner → (body inner).Ensures E F) {ctx : Context} (hc : I ctx)

include D hb hc

/-- What follows the way down into some scope ensures the kinds if it does so below. -/
theorem andThen (scope : Scope) : ((ctx.descend { ctx with scope := scope }).andThen body).Ensures E F := by
  rw [Context.descend_andThen]
  split
  · rename_i hdeep
    exact Traced.ensures_fail (D.stop ctx hc hdeep _)
  · rename_i hdeep
    have h := D.enter ctx scope hc (by omega)
    exact (Traced.ensures_tell h.1).andThen fun _ => hb _ h.2

theorem renderRounds (name : Text) (items : List Value) (index : Nat) :
    (Directive.renderRounds body ctx name index items).Ensures E F := by
  induction items generalizing index with
  | nil => exact Traced.ensures_done _
  | cons item rest ih =>
    have hround := D.andThen hb hc (ctx.scopeWith (Directive.roundLayer name index item))
    have h := hround.andThen fun front => (ih (index + 1)).map (front ++ ·)
    rw [Traced.andThen_assoc] at h
    exact h

end Descends

/-! ## Arguments -/

namespace Permits

variable (P : Permits E F)

include P

theorem evaluateCounted (e : Text) (ctx : Context) : (Rendering.evaluateCounted e ctx).Ensures E F :=
  (Traced.ensures_tell P.counted).andThen fun _ => ensures_evaluate P.evaluated P.expression e ctx

theorem evaluateAndCount (e : Text) (ctx : Context) : (Rendering.evaluateAndCount e ctx).Ensures E F :=
  (ensures_evaluate P.evaluated P.expression e ctx).andThen fun v =>
    (Traced.ensures_tell P.counted).andThen fun _ => Traced.ensures_done v

theorem interpolate (s : Text) (ctx : Context) : (interpolate s ctx).Ensures E F :=
  ensures_interpolate P.counted P.evaluated P.expression P.display s ctx

theorem bindArguments (ctx : Context) (attributes : List Attribute) (layer : Layer) :
    (Directive.bindArguments ctx attributes layer).Ensures E F := by
  induction attributes generalizing layer with
  | nil => exact Traced.ensures_done _
  | cons a rest ih =>
    have ha : (Directive.argument a ctx).Ensures E F := by
      unfold Directive.argument
      split
      · exact Traced.ensures_done _
      · split
        · exact P.evaluateAndCount _ ctx
        · exact Traced.ensures_done _
    exact ha.andThen fun v => ih _

/-! ## Directives -/

section Directives

variable {I J K : Context → Prop} {expand : Text → Context → Rendering Text}
  {proceed : OpenTag → Context → Rendering Text} {tag : OpenTag}

/-- A loop ensures the kinds if what follows it does so one level down. -/
theorem loop (D : Descends E F I J) (hsub : ∀ ctx, I ctx → J ctx)
    (hp : ∀ inner, J inner → (proceed tag.afterLoop inner).Ensures E F) {ctx : Context} (hc : I ctx) :
    (Directive.render expand proceed .loop tag ctx).Ensures E F := by
  unfold OpenTag.afterLoop at hp
  simp only [Directive.render]
  split
  · rename_i h
    rw [h] at hp
    exact hp ctx (hsub ctx hc)
  · rename_i e h
    rw [h] at hp
    refine (P.evaluateAndCount e ctx).andThen fun v => ?_
    split
    · exact (Traced.ensures_tell (P.dropped e tag.name)).andThen fun _ => Traced.ensures_done _
    · exact (D.renderRounds hp hc _ _ 0).andThen fun html =>
        (Traced.ensures_tell P.repeated).andThen fun _ => Traced.ensures_done _

/-- A condition ensures the kinds if what follows it does so one level down. -/
theorem condition (D : Descends E F I J) (hsub : ∀ ctx, I ctx → J ctx)
    (hp : ∀ inner, J inner → (proceed tag.afterCondition inner).Ensures E F) {ctx : Context} (hc : I ctx) :
    (Directive.render expand proceed .condition tag ctx).Ensures E F := by
  unfold OpenTag.afterCondition at hp
  simp only [Directive.render]
  split
  · rename_i h
    rw [h] at hp
    exact hp ctx (hsub ctx hc)
  · rename_i e h
    rw [h] at hp
    refine (Traced.ensures_tell P.tested).andThen fun _ => (P.evaluateCounted e ctx).andThen fun v => ?_
    split
    · exact D.andThen hp hc ctx.scope
    · exact Traced.ensures_done _

/-- An inclusion ensures the kinds if the repetition of a template is a failure of the kind `F` and the source of a
template ensures them one level down. -/
theorem renderInclusion {template : Template} {ctx : Context}
    (hcycle : template.name ∈ ctx.path → F (.cyclicInclude (ctx.path ++ [template.name])))
    (hstop : template.name ∉ ctx.path → ctx.ceiling < ctx.depth + 1 → ∀ name, F (.tooDeep ctx.ceiling name))
    (henter : template.name ∉ ctx.path → (ctx.depth : Int) + 1 ≤ ctx.ceiling →
      E (.entered (ctx.path ++ [template.name]) (ctx.depth + 1)) ∧
        ∀ inner : Context, inner.library = ctx.library → inner.ceiling = ctx.ceiling →
          inner.path = ctx.path ++ [template.name] → inner.depth = ctx.depth + 1 →
            (expand template.source inner).Ensures E F) :
    (Directive.renderInclusion expand template tag ctx).Ensures E F := by
  simp only [Directive.renderInclusion, List.contains_iff_mem]
  split
  · rename_i h
    exact Traced.ensures_fail (hcycle h)
  · rename_i h
    refine (P.bindArguments ctx tag.attributes []).andThen fun layer => ?_
    rw [Context.descend_andThen]
    split
    · rename_i hdeep
      exact Traced.ensures_fail (hstop h hdeep _)
    · rename_i hdeep
      obtain ⟨hevent, hsource⟩ := henter h (by omega)
      refine (Traced.ensures_tell hevent).andThen fun _ => (Traced.ensures_tell (P.included _ _)).andThen fun _ => ?_
      exact hsource _ rfl rfl rfl rfl

/-- The directives ensure the kinds if what is left to an inclusion does so at most two levels down. -/
theorem renderAll {emit : OpenTag → Context → Rendering Text} (hIJ : Descends E F I J) (hJK : Descends E F J K)
    (hsubI : ∀ ctx, I ctx → J ctx) (hsubJ : ∀ ctx, J ctx → K ctx)
    (hbare : ∀ inner, K inner →
      (Directive.render expand emit .inclusion tag.afterLoop.afterCondition inner).Ensures E F)
    {ctx : Context} (hc : I ctx) : (Directive.renderAll expand emit Directive.standard tag ctx).Ensures E F := by
  have hcondition : ∀ inner, J inner →
      (Directive.renderAll expand emit [.condition, .inclusion] tag.afterLoop inner).Ensures E F :=
    fun _ hj => P.condition hJK hsubJ hbare hj
  exact P.loop hIJ hsubI hcondition hc

end Directives

end Permits

end HtmlTemplate
