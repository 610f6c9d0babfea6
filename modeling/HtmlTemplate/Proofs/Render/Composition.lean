import HtmlTemplate.Proofs.Except
import HtmlTemplate.Proofs.Expr.Names
import HtmlTemplate.Proofs.Render.Basic

/-!
# A loop and a condition on one element

A loop hands its element on without the attributes of the loop, once for each item, one level deeper and in a scope
with the item and its position (`Directive.result_renderRounds`). A condition hands it on without its own attribute, one
level deeper, or drops it (`Directive.result_condition`). Neither looks at the attributes of the other, for their names
differ in any case of the letters. So an element with both is, for each item that passes the condition in the scope of
that item, the bare element two levels deeper (`renderNode_loop_condition`).
-/

namespace HtmlTemplate

/-! ## Tags without some attributes -/

namespace OpenTag

variable {tag : OpenTag} {names : List Text} {name : Text}

/-- Names are taken away one after the other or at once. -/
theorem without_without (tag : OpenTag) (first second : List Text) :
    (tag.without first).without second = tag.without (first ++ second) := by
  refine congrArg tag.withAttributes ?_
  show List.filter _ (List.filter _ tag.attributes) = _
  rw [List.filter_filter]
  refine List.filter_congr fun a _ => ?_
  rw [List.any_append, Bool.not_or, Bool.and_comm]

theorem find?_without_of_mem (h : name ∈ names) : (tag.without names).find? name = none := by
  refine List.find?_eq_none.mpr fun a ha hcalled => ?_
  have hkept := (List.mem_filter.mp ha).2
  have hany : (names.any fun n => a.isCalled n) = true := List.any_eq_true.mpr ⟨name, h, hcalled⟩
  rw [hany] at hkept
  cases hkept

/-- An attribute stays that is called otherwise than the names, in any case of the letters. -/
theorem find?_without_of_lower_ne (h : ∀ n ∈ names, n.lower ≠ name.lower) :
    (tag.without names).find? name = tag.find? name := by
  have hcalled : ∀ a : Attribute, a.isCalled name = true → (names.any fun n => a.isCalled n) = false := by
    intro a ha
    refine List.any_eq_false.mpr fun n hn hcalled => h n hn ?_
    exact (beq_iff_eq.mp hcalled).symm.trans (beq_iff_eq.mp ha)
  show (List.filter _ tag.attributes).find? _ = tag.attributes.find? _
  rw [List.find?_filter]
  congr 1
  funext a
  by_cases ha : a.isCalled name = true
  · simp [ha, hcalled a ha]
  · simp [ha]

end OpenTag

namespace Directive

variable {tag : OpenTag} {names : List Text} {name : Text}

theorem expression?_without_of_mem (h : name ∈ names) : expression? (tag.without names) name = none := by
  rw [expression?, OpenTag.find?_without_of_mem h]

theorem expression?_without_of_lower_ne (h : ∀ n ∈ names, n.lower ≠ name.lower) :
    expression? (tag.without names) name = expression? tag name := by
  rw [expression?, expression?, OpenTag.find?_without_of_lower_ne h]

/-- A condition is left as it is by the loop in front of it. -/
theorem condition_without_loop (tag : OpenTag) :
    expression? (tag.without [loopName, rowName]) conditionName = expression? tag conditionName :=
  expression?_without_of_lower_ne (by decide +kernel)

end Directive

/-! ## Rounds and conditions -/

/-- The context of a round of a loop, some levels below the loop: the item and its position are bound. -/
def Context.inRound (ctx : Context) (levels : Nat) (item : Text) (round : Value × Nat) : Context :=
  { ctx with scope := ctx.scopeWith (Directive.roundLayer item round.2 round.1), depth := ctx.depth + levels }

namespace Directive

variable {tag : OpenTag} {expand : Text → Context → Rendering Text} {proceed : OpenTag → Context → Rendering Text}
  {ctx : Context}

/-- The rounds of a loop come to the texts of the single rounds, or to the failure of the first round that fails. -/
theorem result_renderRounds (body : Context → Rendering Text) (name : Text) (index : Nat) (items : List Value)
    (hdepth : (ctx.depth : Int) + 1 ≤ ctx.ceiling) :
    (renderRounds body ctx name index items).result =
      ((items.zipIdx index).mapM fun round => (body (ctx.inRound 1 name round)).result).map List.flatten := by
  induction items generalizing index with
  | nil => rfl
  | cons item rest ih =>
    have hround : (ctx.descend { ctx with scope := ctx.scopeWith (roundLayer name index item) }).result =
        .ok (ctx.inRound 1 name (item, index)) := by
      rw [Context.descend, if_neg (by omega)]
      rfl
    rw [renderRounds, Traced.result_andThen, hround, Except.bind, Traced.result_andThen, List.zipIdx_cons,
      mapM_cons_except]
    cases (body (ctx.inRound 1 name (item, index))).result with
    | error e => rfl
    | ok front =>
      show (renderRounds body ctx name (index + 1) rest).result.map (front ++ ·) = _
      rw [ih]
      cases (rest.zipIdx (index + 1)).mapM fun round => (body (ctx.inRound 1 name round)).result with
      | error e => rfl
      | ok texts => rfl

/-- A loop comes to nothing without a sequence, and else to its rounds. -/
theorem result_loop {e : Text} (he : expression? tag loopName = some e) :
    (Directive.render expand proceed .loop tag ctx).result =
      match evaluate e ctx.scope with
      | .error cause => .error (.expression cause)
      | .ok v =>
        match v.items? with
        | none => .ok []
        | some items =>
          (renderRounds (proceed (tag.without [loopName, rowName])) ctx (itemNameOf tag) 0 items).result := by
  simp only [Directive.render, he, Rendering.result_evaluateAndCount_andThen]
  cases evaluate e ctx.scope with
  | error cause => rfl
  | ok v =>
    dsimp only
    cases v.items? with
    | none => rfl
    | some items =>
      dsimp only
      rw [Traced.result_andThen]
      cases (renderRounds (proceed (tag.without [loopName, rowName])) ctx (itemNameOf tag) 0 items).result <;> rfl

/-- What a condition keeps of a rendering. -/
def kept (condition : Text) (body : Context → Rendering Text) (ctx : Context) : Except RenderError Text :=
  match evaluate condition ctx.scope with
  | .error cause => .error (.expression cause)
  | .ok v => if v.truthy then (body ctx).result else .ok []

/-- A condition drops its element, or hands it on one level deeper. -/
theorem result_condition {c : Text} (hc : expression? tag conditionName = some c)
    (hdepth : (ctx.depth : Int) + 1 ≤ ctx.ceiling) :
    (Directive.render expand proceed .condition tag ctx).result =
      kept c (fun ctx => proceed (tag.without [conditionName]) { ctx with depth := ctx.depth + 1 }) ctx := by
  simp only [Directive.render, hc]
  rw [Traced.result_andThen, Traced.tell, Except.bind, Rendering.result_evaluateCounted_andThen, kept]
  cases evaluate c ctx.scope with
  | error cause => rfl
  | ok v =>
    dsimp only
    cases v.truthy with
    | false => rfl
    | true => exact Context.result_descend_andThen ctx ctx _ hdepth

/-- In a round the position comes first, then the item, and then what is outside of the loop. -/
theorem resolve_round (ctx : Context) (item : Text) (round : Value × Nat) (name : Text) :
    (ctx.scopeWith (roundLayer item round.2 round.1)).resolve name =
      if name = Scope.indexName then .ofInt round.2
      else if name = item then round.1.identified (ctx.depth + 1) item [] else ctx.scope.resolve name := by
  rw [Context.scopeWith, Scope.resolve_child, Scope.lookup_identified, roundLayer]
  by_cases hindex : name = Scope.indexName
  · rw [if_pos hindex, hindex, Entries.lookup_insert_self]
    rfl
  · rw [if_neg hindex, Entries.lookup_insert_of_ne _ _ hindex, List.lookup_cons, List.lookup_nil]
    by_cases hitem : name = item
    · rw [if_pos hitem, hitem, beq_self_eq_true]
      rfl
    · rw [if_neg hitem, beq_eq_false_iff_ne.mpr hitem]
      rfl

end Directive

/-! ## Both on one element -/

section

open Directive

variable {tag : OpenTag} {e c : Text} {expand : Text → Context → Rendering Text} {children : List Node}
  {closing : Option Text} {ctx : Context}

/-- An element without the attributes of a loop and of a condition is included, or else emitted. -/
theorem renderNode_bare (tag : OpenTag) (ctx : Context) :
    let bare := tag.without [loopName, rowName, conditionName]
    renderNode standard expand (.element bare children closing) ctx =
      match tag.inclusion? ctx.library with
      | none =>
        (interpolate bare.source ctx).andThen fun front =>
          (renderNodes standard expand children ctx).map fun inside => front ++ inside ++ closing.getD []
      | some template => renderInclusion expand template bare ctx := by
  intro bare
  rw [renderNode, renderAll_of_bare (expression?_without_of_mem (by simp)) (expression?_without_of_mem (by simp))]
  rfl

/-- A round of a loop keeps or drops the bare element. -/
theorem result_round (hc : expression? tag conditionName = some c) (hdepth : (ctx.depth : Int) + 2 ≤ ctx.ceiling)
    (emit : OpenTag → Context → Rendering Text) (item : Text) (round : Value × Nat) :
    let bare := tag.without [loopName, rowName, conditionName]
    (renderAll expand emit [.condition, .inclusion] (tag.without [loopName, rowName]) (ctx.inRound 1 item round)).result
      = kept c (renderAll expand emit standard bare) (ctx.inRound 2 item round) := by
  intro bare
  have hinner : expression? (tag.without [loopName, rowName]) conditionName = some c := by
    rw [condition_without_loop, hc]
  have hbare : (tag.without [loopName, rowName]).without [conditionName] = bare := tag.without_without _ _
  have hlevel : ((ctx.depth + 1 : Nat) : Int) + 1 ≤ ctx.ceiling := by omega
  rw [renderAll, result_condition hinner hlevel, hbare, kept, kept,
    renderAll_of_bare (expression?_without_of_mem (by simp)) (expression?_without_of_mem (by simp))]
  rfl

/-- **A loop and a condition on one element.** Let an element be repeated for `e` and tested by `c`. If `e` fails, so
does the element; if it has no items, there is nothing; and else, where two levels are left below the context, there is
for each item, in order, what `c` keeps of the bare element in the scope of the item, two levels deeper, or the failure
of the first item that fails. The bare element is included or else emitted. In the scope of an item the position comes
first, counted over all items, then the item, as it is bound there, and then what is outside; what follows the element
is rendered in the context in front of it. -/
theorem renderNode_loop_condition (he : expression? tag loopName = some e) (hc : expression? tag conditionName = some c)
    (expand : Text → Context → Rendering Text) (children : List Node) (closing : Option Text) (ctx : Context) :
    let bare := tag.without [loopName, rowName, conditionName]
    let rendered (tag : OpenTag) (ctx : Context) := renderNode standard expand (.element tag children closing) ctx
    (∀ cause, evaluate e ctx.scope = .error cause → (rendered tag ctx).result = .error (.expression cause)) ∧
      (∀ v, evaluate e ctx.scope = .ok v → v.items? = none → (rendered tag ctx).result = .ok []) ∧
      (∀ v items, evaluate e ctx.scope = .ok v → v.items? = some items → (ctx.depth : Int) + 2 ≤ ctx.ceiling →
        (rendered tag ctx).result = (items.zipIdx.mapM fun round =>
          kept c (rendered bare) (ctx.inRound 2 (itemNameOf tag) round)).map List.flatten) ∧
      (∀ inner : Context, rendered bare inner =
        match tag.inclusion? inner.library with
        | none =>
          (interpolate bare.source inner).andThen fun front =>
            (renderNodes standard expand children inner).map fun inside => front ++ inside ++ closing.getD []
        | some template => renderInclusion expand template bare inner) ∧
      (∀ round name, (ctx.inRound 2 (itemNameOf tag) round).scope.resolve name =
        if name = Scope.indexName then .ofInt round.2
        else if name = itemNameOf tag then round.1.identified (ctx.depth + 1) (itemNameOf tag) []
        else ctx.scope.resolve name) ∧
      ∀ rest, (renderNodes standard expand (.element tag children closing :: rest) ctx).result =
        (rendered tag ctx).result.bind fun front => (renderNodes standard expand rest ctx).result.map (front ++ ·) := by
  intro bare rendered
  have hloop : ∀ emit, (renderAll expand emit standard tag ctx).result = _ := fun emit => result_loop he
  refine ⟨fun cause hcause => ?_, fun v hv hitems => ?_, fun v items hv hitems hdepth => ?_, renderNode_bare tag,
    resolve_round ctx (itemNameOf tag), fun rest => ?_⟩
  · simp only [rendered]
    rw [renderNode, hloop, hcause]
  · simp only [rendered]
    rw [renderNode, hloop, hv]
    simp only [hitems]
  · simp only [rendered]
    rw [renderNode, hloop, hv]
    simp only [hitems]
    rw [result_renderRounds _ _ _ _ (by omega)]
    simp only [result_round hc hdepth, renderNode]
    rfl
  · rw [renderNodes, Traced.result_andThen]
    rfl

end

/-- A component for each row that is true, with its directives in other letters and in another order. -/
def rowCard : OpenTag where
  name := "Card".text
  attributes :=
    [⟨"X-IF".text, some "item".text, "X-IF='item'".text⟩, ⟨"x-row".text, some [' '], "x-row=' '".text⟩,
      ⟨"n".text, some ['1'], "n=1".text⟩, ⟨"x-For".text, some "rows".text, "x-For='rows'".text⟩]
  source := "<Card X-IF='item' x-row=' ' n=1 x-For='rows'/>".text
  selfClosing := true

/-- The start of a rendering of the component. -/
def rowCardContext : Context where
  templates := [⟨"card".text, "<b>\x7b\x7b $index \x7d\x7d</b>".text, none⟩]
  ignoreCase := true
  scope := ⟨[[("rows".text, .tuple [.bool true, .null, .bool true])]]⟩
  path := []
  depth := 0
  ceiling := 50
  template := []

theorem renderNode_loop_condition_rowCard :
    let items : List Value := [.bool true, .null, .bool true]
    let bare := rowCard.without [Directive.loopName, Directive.rowName, Directive.conditionName]
    let expand := renderWithin Directive.standard 5
    let rendered (tag : OpenTag) := renderNode Directive.standard expand (.element tag [] none)
    Directive.expression? rowCard Directive.loopName = some "rows".text ∧
      Directive.expression? rowCard Directive.conditionName = some "item".text ∧
      (rendered rowCard rowCardContext).result = (items.zipIdx.mapM fun round =>
        Directive.kept "item".text (rendered bare)
          (rowCardContext.inRound 2 Directive.itemName round)).map List.flatten ∧
      (rendered rowCard rowCardContext).result = .ok "<b>0</b><b>2</b>".text := by
  intro items bare expand rendered
  have he : Directive.expression? rowCard Directive.loopName = some "rows".text := by decide +kernel
  have hc : Directive.expression? rowCard Directive.conditionName = some "item".text := by decide +kernel
  have hname : Expr.nameOf? "rows".text = some "rows".text := by decide +kernel
  have hrows : evaluate "rows".text rowCardContext.scope = .ok (.tuple items) := Expr.evaluate_of_nameOf? hname _
  have hitem : Directive.itemNameOf rowCard = Directive.itemName := by decide +kernel
  obtain ⟨-, -, hrounds, -⟩ := renderNode_loop_condition he hc expand [] none rowCardContext
  have hresult := hrounds _ items hrows rfl (by decide)
  rw [hitem] at hresult
  exact ⟨he, hc, hresult, by decide +kernel⟩

end HtmlTemplate
