import HtmlTemplate.Engine
import HtmlTemplate.Proofs.Expr.LongNumeral
import HtmlTemplate.Proofs.Render.Inherited
import HtmlTemplate.Proofs.Value.Display

/-!
# How a rendering fails

A rendering that fails has found a cycle of inclusions, or is too deep, or fails because of the expression that it has
evaluated last, and of what came of that (`ExpressionFails`). In the third case the report names that expression, with
two exceptions: an integer of more than 4300 digits in the expression, and one in the value that has come of it and is
to be shown (`LongInteger`). These two break off below the template language, and no other failure does
(`render_failures`, `long_numeral_escapes`, `long_value_escapes`).
-/

namespace HtmlTemplate

/-! ## Failures and what was done before -/

/-- Whether every failure of a computation goes with what the computation has done, as `R` says. -/
def Traced.FailsAs {σ ε α : Type} (R : List σ → ε → Prop) (x : Traced σ ε α) : Prop :=
  ∀ e, x.result = .error e → R x.trace e

namespace Traced

variable {σ ε α β : Type} {R : List σ → ε → Prop}

theorem failsAs_ok {x : Traced σ ε α} {a : α} (h : x.result = .ok a) : FailsAs R x := by
  intro e he
  rw [h] at he
  cases he

theorem FailsAs.andThen (hR : ∀ front back e, R back e → R (front ++ back) e) {x : Traced σ ε α}
    {next : α → Traced σ ε β} (hx : FailsAs R x) (hn : ∀ a, FailsAs R (next a)) : FailsAs R (x.andThen next) := by
  obtain ⟨result, trace⟩ := x
  cases result with
  | error e => exact fun e' he' => by cases he'; exact hx e rfl
  | ok a => exact fun e he => hR trace _ e (hn a e he)

end Traced

/-! ## Failures of expressions -/

/-- How a rendering fails at the expression `text`, if `outcome` comes of evaluating it: there is no value, or there is
one that cannot be shown. -/
inductive ExpressionFails (text : Text) : Except ExpressionError Value → RenderError → Prop
  | malformed {fault : Expr.SyntaxFault} (hparse : Expr.parse text = .error (.malformed fault)) :
    ExpressionFails text (.error (.malformed text fault)) (.expression (.malformed text fault))
  | failed {scope : Scope} {tree : Expr} {cause : Expr.EvalError} (hparse : Expr.parse text = .ok tree)
    (heval : tree.eval scope = .error cause) :
    ExpressionFails text (.error (.failed text cause)) (.expression (.failed text cause))
  | numeral {digits : Nat} (hparse : Expr.parse text = .error (.numeralTooLong digits)) :
    ExpressionFails text (.error (.numeralTooLong digits)) (.expression (.numeralTooLong digits))
  | display {scope : Scope} {v : Value} {e : DisplayError} (hvalue : evaluate text scope = .ok v)
    (hdisplay : v.display = .error e) : ExpressionFails text (.ok v) (.display e)

theorem expressionFails_of_evaluate {text : Text} {scope : Scope} {e : ExpressionError}
    (h : evaluate text scope = .error e) : ExpressionFails text (evaluate text scope) (.expression e) := by
  rw [h]
  unfold evaluate at h
  split at h
  · rename_i hp
    cases h
    exact .malformed hp
  · rename_i hp
    cases h
    exact .numeral hp
  · rename_i tree hp
    split at h
    · rename_i cause he
      cases h
      exact .failed hp he
    · cases h

/-- An expression whose numeral is too long has an integer that does not fit. -/
theorem Expr.not_integersFit_of_parse {text : Text} {digits : Nat}
    (h : Expr.parse text = .error (.numeralTooLong digits)) : ¬ Expr.IntegersFit text := by
  intro hfit
  unfold Expr.parse at h
  split at h
  · cases h
  · rename_i ts hts
    split at h
    · cases h
    · cases h
    · rename_i hlong
      obtain ⟨t, ht, htoo⟩ := Expr.tooLong_of_ofTokens hlong
      exact hfit ts hts t ht htoo
    · cases h

namespace RenderError

/-- Whether the error is reported under a code of the template language. -/
def HasCode (e : RenderError) (code : String) : Prop :=
  ∃ message context, e.report = .language code.text message context

/-- Whether the error is reported as one of an expression, and names it. -/
def Names (e : RenderError) (text : Text) : Prop :=
  ∃ code ∈ ["ExpressionSyntaxError", "ExpressionEvaluationError"].map String.text, ∃ message context,
    e.report = .language code message context ∧ context.lookup "expression".text = some (.string text)

/-- Whether the error is none of the template language, but a bad value below it. -/
def Escapes (e : RenderError) : Prop := ∃ message, e.report = .below .badValue message

end RenderError

/-- An integer of the expression `text`, or of the value that comes of it, has too many digits. -/
inductive LongInteger (text : Text) : Except ExpressionError Value → Prop
  /-- The reader of the expression comes to an integer that is too long to be read. -/
  | read {digits : Nat} (hparse : Expr.parse text = .error (.numeralTooLong digits))
    (hfit : ¬ Expr.IntegersFit text) : LongInteger text (.error (.numeralTooLong digits))
  /-- The display of the value writes an integer that is too long. -/
  | shown {v : Value} (h : v.WritesTooLong) : LongInteger text (.ok v)

/-- What goes wrong with an expression is reported with its text, unless an integer is too long. -/
theorem ExpressionFails.names_or_escapes {text : Text} {outcome : Except ExpressionError Value} {e : RenderError}
    (h : ExpressionFails text outcome e) :
    e.Names text ∧ ¬ LongInteger text outcome ∨ e.Escapes ∧ LongInteger text outcome := by
  cases h with
  | malformed hparse => exact .inl ⟨⟨_, List.mem_cons_self, _, _, rfl, rfl⟩, nofun⟩
  | failed hparse heval => exact .inl ⟨⟨_, List.mem_cons_of_mem _ List.mem_cons_self, _, _, rfl, rfl⟩, nofun⟩
  | numeral hparse => exact .inr ⟨⟨_, rfl⟩, .read hparse (Expr.not_integersFit_of_parse hparse)⟩
  | display _ hdisplay => exact .inr ⟨⟨_, rfl⟩, .shown ((Value.display_eq_error_iff _).mp hdisplay)⟩

/-- How a failure goes with what a rendering has done: it is one of the place, or one of the expression that was
evaluated last, and of what came of that. -/
inductive FailureOf (trace : List Event) : RenderError → Prop
  | cyclicInclude (path : List Text) : FailureOf trace (.cyclicInclude path)
  | tooDeep (ceiling : Int) (name : Text) : FailureOf trace (.tooDeep ceiling name)
  | expression {front : List Event} {text : Text} {outcome : Except ExpressionError Value} {e : RenderError}
    (htrace : trace = front ++ [.evaluated text outcome]) (hfails : ExpressionFails text outcome e) :
    FailureOf trace e

theorem FailureOf.append (front back : List Event) (e : RenderError) (h : FailureOf back e) :
    FailureOf (front ++ back) e := by
  cases h with
  | cyclicInclude path => exact .cyclicInclude path
  | tooDeep ceiling name => exact .tooDeep ceiling name
  | expression hback hfails => exact .expression (by rw [hback, List.append_assoc]) hfails

theorem failsAs_evaluate (text : Text) (ctx : Context) : (Rendering.evaluate text ctx).FailsAs FailureOf := by
  intro e he
  have htrace : (Rendering.evaluate text ctx).trace = [] ++ [.evaluated text (evaluate text ctx.scope)] :=
    Rendering.trace_evaluate text ctx
  cases hv : evaluate text ctx.scope with
  | ok v =>
    rw [Rendering.evaluate, hv] at he
    cases he
  | error cause =>
    have hresult : e = .expression cause := by
      rw [Rendering.evaluate, hv] at he
      cases he
      rfl
    rw [hresult]
    exact .expression htrace (expressionFails_of_evaluate hv)

/-- The value of a region fails to be shown right after it was evaluated. -/
theorem failsAs_region (r : Region) (ctx : Context) : (r.render ctx).FailsAs FailureOf := by
  have hcounted : (Traced.tell .counted : Rendering Unit).FailsAs FailureOf := Traced.failsAs_ok rfl
  have hrender : r.render ctx = (Traced.tell .counted).andThen fun _ =>
      (Rendering.evaluate r.expression ctx).andThen fun v => (Rendering.display v).map r.insertion.insert := by
    simp only [Region.render, Rendering.evaluateCounted, Traced.andThen_assoc, Traced.andThen_done_eq_map]
  rw [hrender]
  refine hcounted.andThen FailureOf.append fun _ => ?_
  cases hv : evaluate r.expression ctx.scope with
  | error cause =>
    have hevaluate : (Rendering.evaluate r.expression ctx).andThen (fun v =>
        (Rendering.display v).map r.insertion.insert) =
          ⟨.error (.expression cause), (Rendering.evaluate r.expression ctx).trace⟩ := by
      rw [Rendering.evaluate, hv]
      rfl
    intro e he
    rw [hevaluate] at he ⊢
    cases he
    exact failsAs_evaluate r.expression ctx _ (by rw [Rendering.evaluate, hv]; rfl)
  | ok v =>
    have hevaluate : (Rendering.evaluate r.expression ctx).andThen (fun v =>
        (Rendering.display v).map r.insertion.insert) =
          ⟨(v.display.mapError .display).map r.insertion.insert, [.evaluated r.expression (.ok v)]⟩ := by
      rw [Rendering.evaluate, hv]
      show (⟨((Rendering.display v).map r.insertion.insert).result,
        .evaluated r.expression (.ok v) :: ((Rendering.display v).map r.insertion.insert).trace⟩ : Rendering Text) = _
      unfold Rendering.display
      cases v.display <;> rfl
    intro e he
    rw [hevaluate] at he ⊢
    cases hd : v.display with
    | ok shown =>
      rw [hd] at he
      cases he
    | error cause =>
      rw [hd] at he
      cases he
      exact .expression (List.nil_append _).symm (.display hv hd)

theorem inherited_failsAs : Inherited fun x => x.FailsAs FailureOf where
  done _ := Traced.failsAs_ok rfl
  tell _ _ := Traced.failsAs_ok rfl
  cyclicInclude path := fun e he => by cases he; exact .cyclicInclude path
  tooDeep ceiling name := fun e he => by cases he; exact .tooDeep ceiling name
  evaluate := failsAs_evaluate
  region := failsAs_region
  andThen hx hn := hx.andThen FailureOf.append hn

/-! ## The whole rendering -/

theorem failureOf_render {source : Text} {ctx : Context} {e : RenderError}
    (h : (render source ctx).result = .error e) : FailureOf (render source ctx).trace e :=
  inherited_failsAs.renderBy Directive.standard source ctx e h

/-- The rendering fails at the expression that it evaluates last, for an integer of that expression, or of the value
that it is to show there, is too long. -/
def Rendering.FailsOnLongInteger (x : Rendering Text) : Prop :=
  ∃ front text outcome e, x.trace = front ++ [.evaluated text outcome] ∧ x.result = .error e ∧
    ExpressionFails text outcome e ∧ LongInteger text outcome

/-- A failure escapes the template language exactly on a long integer. -/
theorem exists_escapes_iff {source : Text} {ctx : Context} :
    (∃ e, (render source ctx).result = .error e ∧ e.Escapes) ↔ (render source ctx).FailsOnLongInteger := by
  constructor
  · rintro ⟨e, hresult, hescapes⟩
    obtain ⟨message, hreport⟩ := hescapes
    cases failureOf_render hresult with
    | cyclicInclude path => cases hreport
    | tooDeep ceiling name => cases hreport
    | expression htrace hfails =>
      rcases hfails.names_or_escapes with ⟨⟨code, -, message, context, hnames, -⟩, -⟩ | ⟨-, hlong⟩
      · rw [hreport] at hnames
        cases hnames
      · exact ⟨_, _, _, e, htrace, hresult, hfails, hlong⟩
  · rintro ⟨front, text, outcome, e, -, hresult, hfails, hlong⟩
    rcases hfails.names_or_escapes with ⟨-, hnot⟩ | ⟨hescapes, -⟩
    · exact absurd hlong hnot
    · exact ⟨e, hresult, hescapes⟩

/-- **How a rendering fails.** A rendering that fails has found a cycle, or is too deep, or it fails because of the
expression that it has evaluated last and of what came of that. Then the report names that expression, unless an integer
is too long: one that the expression writes, or one that the display of the value writes that has come of it. Exactly
then the failure is none of the template language. -/
theorem render_failures (source : Text) (ctx : Context) (e : RenderError)
    (h : (render source ctx).result = .error e) :
    e.HasCode "CyclicIncludeError" ∨ e.HasCode "RenderDepthExceededError" ∨
      ∃ front text outcome, (render source ctx).trace = front ++ [.evaluated text outcome] ∧
        ExpressionFails text outcome e ∧
        (e.Names text ∧ ¬ LongInteger text outcome ∨ e.Escapes ∧ LongInteger text outcome) := by
  cases failureOf_render h with
  | cyclicInclude path => exact .inl ⟨_, _, rfl⟩
  | tooDeep ceiling name => exact .inr (.inl ⟨_, _, rfl⟩)
  | expression htrace hfails => exact .inr (.inr ⟨_, _, _, htrace, hfails, hfails.names_or_escapes⟩)

/-- The start of a rendering with a template that divides by what it is passed, and with a huge integer. -/
def ratioContext : Context where
  templates := [⟨"ratio".text, "<b>\x7b\x7b 1 / by \x7d\x7d</b>".text, none⟩]
  ignoreCase := true
  scope := .root (.mapping [("none".text, .ofInt 0), ("huge".text, .list [.null, .ofInt (10 ^ 4300)])])
  path := []
  depth := 0
  ceiling := 50
  template := []

theorem render_failures_ratio :
    let source := "<p>\x7b\x7b none \x7d\x7d<Ratio by='\x7b\x7b none \x7d\x7d'/></p>".text
    let e : RenderError := .expression (.failed "1 / by".text (.number .divisionByZero))
    (render source ratioContext).result = .error e ∧
      (e.HasCode "CyclicIncludeError" ∨ e.HasCode "RenderDepthExceededError" ∨
        ∃ front text outcome, (render source ratioContext).trace = front ++ [.evaluated text outcome] ∧
          ExpressionFails text outcome e ∧
          (e.Names text ∧ ¬ LongInteger text outcome ∨ e.Escapes ∧ LongInteger text outcome)) := by
  intro source e
  have hresult : (render source ratioContext).result = .error e := by decide +kernel
  exact ⟨hresult, render_failures source ratioContext e hresult⟩

/-- A value that writes too long an integer is evaluated, and then breaks off below the template language. -/
theorem long_value_escapes :
    (render "\x7b\x7b huge \x7d\x7d".text ratioContext).result = .error (.display .integerTooLong) ∧
      (RenderError.display .integerTooLong).Escapes := ⟨by decide +kernel, _, rfl⟩

/-- An integer of too many figures in an expression breaks off below the template language as well. -/
theorem long_numeral_escapes {text : Text} (h : ∀ c ∈ text, isFigure c = true)
    (hlong : maxIntegerDigits < text.length) (scope : Scope) :
    ∃ e, evaluate text scope = .error e ∧ (RenderError.expression e).Escapes :=
  ⟨.numeralTooLong text.length, by rw [evaluate, Expr.parse_of_long_figures h hlong], _, rfl⟩

end HtmlTemplate
