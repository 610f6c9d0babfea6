import HtmlTemplate.Proofs.Render.Ensures
import Mathlib.Tactic.Common

/-!
# The ceiling on the depth

One rendering under two ceilings: under the lower one it is the same, if it enters no level above that, and else it
stops as too deep (`Lowered`). This holds of what does not look at the ceiling, it holds of a computation if it holds of
its parts, and it holds where a rendering goes one level down; so it holds of all renderings of a source
(`lowered_render`). A rendering that succeeds therefore has a threshold: the deepest level that it enters
(`render_ceiling_threshold`).
-/

namespace HtmlTemplate

/-! ## Levels -/

namespace Event

/-- The level that an event enters; 0 if it enters none. -/
def level : Event → Nat
  | .entered _ depth => depth
  | _ => 0

/-- The deepest level that a trace enters; 0 if it enters none. -/
def deepest : List Event → Nat
  | [] => 0
  | event :: rest => max event.level (deepest rest)

theorem level_le_deepest {event : Event} {trace : List Event} (h : event ∈ trace) : event.level ≤ deepest trace := by
  induction trace with
  | nil => cases h
  | cons first rest ih =>
    rcases List.mem_cons.mp h with rfl | h
    · exact Nat.le_max_left _ _
    · exact Nat.le_trans (ih h) (Nat.le_max_right _ _)

/-- The deepest level is entered, unless it is 0. -/
theorem exists_level_eq_deepest {trace : List Event} (h : 0 < deepest trace) :
    ∃ event ∈ trace, event.level = deepest trace := by
  induction trace with
  | nil => cases h
  | cons first rest ih =>
    rcases Nat.le_total (deepest rest) first.level with hle | hle
    · exact ⟨first, List.mem_cons_self, (Nat.max_eq_left hle).symm⟩
    · have hmax : deepest (first :: rest) = deepest rest := Nat.max_eq_right hle
      obtain ⟨event, hm, he⟩ := ih (hmax ▸ h)
      exact ⟨event, List.mem_cons_of_mem _ hm, he.trans hmax.symm⟩

/-- Whether an event enters no level above a ceiling. -/
def Within (ceiling : Int) (event : Event) : Prop := 0 < event.level → (event.level : Int) ≤ ceiling

end Event

/-- Whether a failure is another than that the ceiling is reached. -/
def RenderError.NotDeep (e : RenderError) : Prop := ∀ ceiling template, e ≠ .tooDeep ceiling template

/-- The context with another ceiling. -/
def Context.under (ceiling : Int) (ctx : Context) : Context := { ctx with ceiling := ceiling }

namespace Context

variable {α : Type}

/-- At the ceiling a rendering stops. -/
theorem descend_andThen_of_lt (ctx target : Context) (h : ctx.ceiling < ctx.depth + 1) (next : Context → Rendering α) :
    ∃ template, (ctx.descend target).andThen next = .fail (.tooDeep ctx.ceiling template) := by
  rw [descend_andThen, if_pos h]
  exact ⟨_, rfl⟩

/-- Below the ceiling a rendering goes down. -/
theorem descend_andThen_of_le (ctx target : Context) (h : (ctx.depth : Int) + 1 ≤ ctx.ceiling)
    (next : Context → Rendering α) :
    (ctx.descend target).andThen next =
      (Traced.tell (.entered target.path (ctx.depth + 1))).andThen fun _ =>
        next { target with depth := ctx.depth + 1 } := by
  rw [descend_andThen, if_neg (Int.not_lt.mpr h)]

end Context

namespace Directive

variable {expand : Text → Context → Rendering Text} {template : Template} {tag : OpenTag} (ctx : Context)

theorem renderInclusion_of_mem (h : template.name ∈ ctx.path) :
    renderInclusion expand template tag ctx = .fail (.cyclicInclude (ctx.path ++ [template.name])) := by
  rw [renderInclusion, if_pos (List.contains_iff_mem.mpr h)]

theorem renderInclusion_of_notMem (h : template.name ∉ ctx.path) :
    renderInclusion expand template tag ctx =
      (arguments tag ctx).andThen fun layer =>
        (ctx.descend
          { ctx with
            scope := ctx.scopeWith layer
            path := ctx.path ++ [template.name]
            template := template.name }).andThen fun inner =>
          (Traced.tell (.included template.name inner.depth)).andThen fun _ => expand template.source inner := by
  rw [renderInclusion, if_neg (mt List.contains_iff_mem.mp h)]

end Directive

/-! ## A rendering under two ceilings -/

/-- What is known of a rendering `x` under the ceiling `low` that is `y` under the ceiling `high`: it is `y`, which
stays below both ceilings, or it stops at its ceiling, for `y` goes above that or stops as well. -/
inductive Lowered {α : Type} (low high : Int) (x y : Rendering α) : Prop
  | same (heq : x = y) (hy : y.Ensures (Event.Within low) RenderError.NotDeep)
  | stopped (template : Text) (hx : x.result = .error (.tooDeep low template))
      (hy : (∃ event ∈ y.trace, low < event.level) ∨ ∃ template, y.result = .error (.tooDeep high template))

namespace Lowered

variable {α β : Type} {low high : Int}

theorem andThen {x y : Rendering α} {f g : α → Rendering β} (h : Lowered low high x y)
    (hn : ∀ a, Lowered low high (f a) (g a)) : Lowered low high (x.andThen f) (y.andThen g) := by
  cases h with
  | same heq hy =>
    subst heq
    obtain ⟨result, trace⟩ := x
    cases result with
    | error e => exact .same rfl ⟨hy.events, fun e' he' => by cases he'; exact hy.failure e rfl⟩
    | ok a =>
      cases hn a with
      | same heq hb =>
        refine .same ?_ ⟨fun event he => ?_, fun e he => hb.failure e he⟩
        · simp only [Traced.andThen, heq]
        · rcases List.mem_append.mp he with he | he
          · exact hy.events event he
          · exact hb.events event he
      | stopped template hx hb =>
        refine .stopped template hx (hb.imp_left ?_)
        rintro ⟨event, he, hl⟩
        exact ⟨event, List.mem_append_right _ he, hl⟩
  | stopped template hx hy =>
    have hstop : (x.andThen f).result = .error (.tooDeep low template) := by
      simp only [Traced.andThen, hx]
    refine .stopped template hstop (hy.imp ?_ ?_)
    · rintro ⟨event, he, hl⟩
      refine ⟨event, ?_, hl⟩
      obtain ⟨result, trace⟩ := y
      cases result with
      | error e => exact he
      | ok a => exact List.mem_append_left _ he
    · rintro ⟨template, he⟩
      exact ⟨template, by simp only [Traced.andThen, he]⟩

/-- What does not look at the ceiling is the same under each. -/
theorem refl {x : Rendering α} (hx : x.Ensures (Event.Within low) RenderError.NotDeep) : Lowered low high x x :=
  .same rfl hx

theorem done (a : α) : Lowered low high (.done a) (.done a) := refl (Traced.ensures_done a)

theorem map {x y : Rendering α} (h : Lowered low high x y) (f : α → β) : Lowered low high (x.map f) (y.map f) := by
  rw [← Traced.andThen_done_eq_map, ← Traced.andThen_done_eq_map]
  exact h.andThen fun a => done (f a)

theorem permits : Permits (Event.Within low) RenderError.NotDeep where
  counted h := by cases h
  evaluated _ _ h := by cases h
  tested h := by cases h
  repeated h := by cases h
  dropped _ _ h := by cases h
  included _ _ h := by cases h
  expression _ _ _ h := by cases h
  display _ _ _ h := by cases h

/-- What follows the way down is the same under both ceilings if it is so below the lower one. -/
theorem descend (hle : low ≤ high) (ctx target : Context) {f g : Context → Rendering α}
    (h : (ctx.depth : Int) + 1 ≤ low →
      Lowered low high (f ({ target with depth := ctx.depth + 1 }.under low))
        (g ({ target with depth := ctx.depth + 1 }.under high))) :
    Lowered low high (((ctx.under low).descend (target.under low)).andThen f)
      (((ctx.under high).descend (target.under high)).andThen g) := by
  rcases Int.lt_or_le low (ctx.depth + 1) with hlow | hlow
  · obtain ⟨template, hx⟩ := Context.descend_andThen_of_lt (ctx.under low) (target.under low) hlow f
    refine .stopped template (by rw [hx]; rfl) ?_
    rcases Int.lt_or_le high (ctx.depth + 1) with hhigh | hhigh
    · obtain ⟨template, hy⟩ :=
        Context.descend_andThen_of_lt (ctx.under high) (target.under high) hhigh g
      exact .inr ⟨template, by rw [hy]; rfl⟩
    · rw [Context.descend_andThen_of_le (ctx.under high) _ hhigh]
      exact .inl ⟨.entered target.path (ctx.depth + 1), List.mem_cons_self, hlow⟩
  · have hhigh : (ctx.depth : Int) + 1 ≤ high := Int.le_trans hlow hle
    rw [Context.descend_andThen_of_le (ctx.under low) _ hlow,
      Context.descend_andThen_of_le (ctx.under high) _ hhigh]
    have hentered : Event.Within low (.entered target.path (ctx.depth + 1)) := fun _ => hlow
    exact (refl (Traced.ensures_tell hentered)).andThen fun _ => h hlow

end Lowered

/-! ## What does not look at the ceiling -/

section Unseen

variable (ceiling : Int) (ctx : Context)

theorem interpolate_under (s : Text) : interpolate s (ctx.under ceiling) = interpolate s ctx := by
  have hparts : ∀ parts, renderSegments parts (ctx.under ceiling) = renderSegments parts ctx := fun parts => by
    induction parts with
    | nil => rfl
    | cons part parts ih =>
      have hpart : part.render (ctx.under ceiling) = part.render ctx := by cases part <;> rfl
      simp only [renderSegments, hpart, ih]
  exact hparts (segments s)

theorem arguments_under (tag : OpenTag) :
    Directive.arguments tag (ctx.under ceiling) = Directive.arguments tag ctx := by
  have hbind : ∀ attributes layer, Directive.bindArguments (ctx.under ceiling) attributes layer =
      Directive.bindArguments ctx attributes layer := fun attributes => by
    induction attributes with
    | nil => exact fun _ => rfl
    | cons a rest ih =>
      have ha : Directive.argument a (ctx.under ceiling) = Directive.argument a ctx := rfl
      simp only [Directive.bindArguments, ha, ih, implies_true]
  exact hbind tag.attributes []

end Unseen

/-! ## Directives -/

/-- From the depth `d` down, `f` is under the lower ceiling what `g` is under the higher one. -/
def Matches (low high : Int) (d : Nat) (f g : Context → Rendering Text) : Prop :=
  ∀ ctx : Context, d ≤ ctx.depth → Lowered low high (f (ctx.under low)) (g (ctx.under high))

/-- What `expand` and `expand'` make of the templates that are included below the depth `d`. -/
def MatchesBelow (low high : Int) (d : Nat) (expand expand' : Text → Context → Rendering Text) : Prop :=
  ∀ (source : Text) (ctx : Context), d < ctx.depth → (ctx.depth : Int) ≤ low →
    Lowered low high (expand source (ctx.under low)) (expand' source (ctx.under high))

theorem matches_interpolate {low high : Int} {d : Nat} (s : Text) :
    Matches low high d (interpolate s) (interpolate s) := fun ctx _ => by
  rw [interpolate_under, interpolate_under]
  exact .refl (Lowered.permits.interpolate s ctx)

section Directives

variable {low high : Int} (hle : low ≤ high) {d : Nat}

include hle

theorem matches_renderRounds {f g : Context → Rendering Text} (h : Matches low high d f g) (name : Text)
    (items : List Value) (index : Nat) :
    Matches low high d (fun ctx => Directive.renderRounds f ctx name index items)
      fun ctx => Directive.renderRounds g ctx name index items := fun ctx hd => by
  induction items generalizing index with
  | nil => exact .done []
  | cons item rest ih =>
    simp only [Directive.renderRounds]
    -- the round and those after it, in the order in which a loop chains them
    rw [← Traced.andThen_assoc, ← Traced.andThen_assoc]
    refine Lowered.andThen ?_ fun front => (ih (index + 1)).map (front ++ ·)
    exact .descend hle ctx { ctx with scope := ctx.scopeWith (Directive.roundLayer name index item) } fun _ =>
      h _ (Nat.le_succ_of_le hd)

variable {expand expand' : Text → Context → Rendering Text} (hexpand : MatchesBelow low high d expand expand')

include hexpand

theorem matches_renderInclusion (template : Template) (tag : OpenTag) :
    Matches low high d (Directive.renderInclusion expand template tag)
      (Directive.renderInclusion expand' template tag) := fun ctx hd => by
  by_cases hm : template.name ∈ ctx.path
  · rw [Directive.renderInclusion_of_mem (ctx.under low) hm,
      Directive.renderInclusion_of_mem (ctx.under high) hm]
    exact .refl (Traced.ensures_fail fun _ _ h => by cases h)
  · rw [Directive.renderInclusion_of_notMem (ctx.under low) hm,
      Directive.renderInclusion_of_notMem (ctx.under high) hm, arguments_under, arguments_under]
    refine Lowered.andThen (.refl (Lowered.permits.bindArguments ctx tag.attributes [])) fun layer => ?_
    refine .descend hle ctx { ctx with
      scope := ctx.scopeWith layer
      path := ctx.path ++ [template.name]
      template := template.name } fun hlow => ?_
    refine Lowered.andThen (.refl (Traced.ensures_tell (Lowered.permits.included _ _))) fun _ => ?_
    exact hexpand template.source _ (Nat.lt_succ_of_le hd) hlow

/-- A directive matches if what follows it does. -/
theorem matches_directive {proceed proceed' : OpenTag → Context → Rendering Text}
    (hp : ∀ tag, Matches low high d (proceed tag) (proceed' tag)) (directive : Directive) (tag : OpenTag) :
    Matches low high d (directive.render expand proceed tag) (directive.render expand' proceed' tag) := by
  intro ctx hd
  cases directive with
  | loop =>
    simp only [Directive.render]
    cases Directive.expression? tag Directive.loopName with
    | none => exact hp tag ctx hd
    | some e =>
      refine Lowered.andThen (.refl (Lowered.permits.evaluateAndCount e ctx)) fun v => ?_
      cases v.items? with
      | none =>
        exact Lowered.andThen (.refl (Traced.ensures_tell (Lowered.permits.dropped e tag.name))) fun _ => .done []
      | some items =>
        refine (matches_renderRounds hle (hp _) _ items 0 ctx hd).andThen fun html => ?_
        exact Lowered.andThen (.refl (Traced.ensures_tell Lowered.permits.repeated)) fun _ => .done html
  | condition =>
    simp only [Directive.render]
    cases Directive.expression? tag Directive.conditionName with
    | none => exact hp tag ctx hd
    | some e =>
      refine Lowered.andThen (.refl (Traced.ensures_tell Lowered.permits.tested)) fun _ => ?_
      refine Lowered.andThen (.refl (Lowered.permits.evaluateCounted e ctx)) fun v => ?_
      cases v.truthy with
      | false => exact .done []
      | true => exact .descend hle ctx ctx fun _ => hp _ _ (Nat.le_succ_of_le hd)
  | inclusion =>
    have hlibrary : ∀ ceiling, (ctx.under ceiling).library = ctx.library := fun _ => rfl
    rw [Directive.render_inclusion, Directive.render_inclusion, hlibrary, hlibrary]
    cases tag.inclusion? ctx.library with
    | none => exact hp tag ctx hd
    | some template => exact matches_renderInclusion hle hexpand template tag ctx hd

theorem matches_renderAll {emit emit' : OpenTag → Context → Rendering Text}
    (he : ∀ tag, Matches low high d (emit tag) (emit' tag)) (directives : List Directive) (tag : OpenTag) :
    Matches low high d (Directive.renderAll expand emit directives tag)
      (Directive.renderAll expand' emit' directives tag) := by
  induction directives generalizing tag with
  | nil => exact he tag
  | cons directive rest ih => exact matches_directive hle hexpand ih directive tag

end Directives

/-! ## Nodes and sources -/

section Nodes

variable {low high : Int} {d : Nat} {expand expand' : Text → Context → Rendering Text} (directives : List Directive)

mutual

theorem matches_renderNode (hle : low ≤ high) (hexpand : MatchesBelow low high d expand expand') : ∀ node : Node,
    Matches low high d (renderNode directives expand node) (renderNode directives expand' node)
  | .text s => fun ctx hd => by
    rw [renderNode, renderNode]
    exact matches_interpolate s ctx hd
  | .element tag children closing => fun ctx hd => by
    rw [renderNode, renderNode]
    refine matches_renderAll hle hexpand (fun tag ctx hd => ?_) directives tag ctx hd
    refine (matches_interpolate tag.source ctx hd).andThen fun front => ?_
    exact (matches_renderNodes hle hexpand children ctx hd).map fun inside => front ++ inside ++ closing.getD []

/-- The nodes of a tree match if the templates that they include do. -/
theorem matches_renderNodes (hle : low ≤ high) (hexpand : MatchesBelow low high d expand expand') :
    ∀ nodes : List Node,
    Matches low high d (renderNodes directives expand nodes) (renderNodes directives expand' nodes)
  | [] => fun ctx _ => by
    rw [renderNodes, renderNodes]
    exact .done []
  | node :: rest => fun ctx hd => by
    rw [renderNodes, renderNodes]
    exact (matches_renderNode hle hexpand node ctx hd).andThen fun front =>
      (matches_renderNodes hle hexpand rest ctx hd).map (front ++ ·)

end

/-- A source is rendered alike if both times enough templates may be nested to reach the ceiling: each inclusion takes
one of these and goes one level down. -/
theorem lowered_renderWithin (hle : low ≤ high) (levels levels' : Nat) (source : Text) (ctx : Context)
    (hlow : low < ctx.depth + levels) (hhigh : high < ctx.depth + levels') (hpos : 0 < levels) (hpos' : 0 < levels') :
    Lowered low high (renderWithin directives levels source (ctx.under low))
      (renderWithin directives levels' source (ctx.under high)) := by
  induction levels generalizing levels' source ctx with
  | zero => omega
  | succ levels ih =>
    cases levels' with
    | zero => omega
    | succ levels' =>
      have hexpand : MatchesBelow low high ctx.depth (renderWithin directives levels)
          (renderWithin directives levels') := fun source inner hd hin =>
        ih levels' source inner (by omega) (by omega) (by omega) (by omega)
      exact matches_renderNodes directives hle hexpand _ ctx (Nat.le_refl _)

/-- **One rendering under two ceilings.** -/
theorem lowered_render (hle : low ≤ high) (source : Text) (ctx : Context) :
    Lowered low high (render source (ctx.under low)) (render source (ctx.under high)) := by
  have henough : ∀ ceiling : Int, ceiling < ctx.depth + ((ceiling - ctx.depth).toNat + 1 : Nat) := by omega
  exact lowered_renderWithin Directive.standard hle _ _ source ctx (henough low) (henough high) (Nat.succ_pos _)
    (Nat.succ_pos _)

end Nodes

/-! ## The threshold -/

section Threshold

variable {ctx : Context} {m : Int}

theorem lowered_of_le (source : Text) (hm : m ≤ ctx.ceiling) :
    Lowered m ctx.ceiling (render source (ctx.under m)) (render source ctx) := lowered_render hm source ctx

theorem lowered_of_ge (source : Text) (hm : ctx.ceiling ≤ m) :
    Lowered ctx.ceiling m (render source ctx) (render source (ctx.under m)) := lowered_render hm source ctx

variable {source : Text}

/-- A rendering that does not stop at its ceiling is the same under every higher ceiling. -/
theorem render_under_of_ge (hm : ctx.ceiling ≤ m)
    (h : ∀ template, (render source ctx).result ≠ .error (.tooDeep ctx.ceiling template)) :
    render source (ctx.under m) = render source ctx := by
  cases lowered_of_ge source hm with
  | same heq _ => exact heq.symm
  | stopped template hx _ => exact absurd hx (h template)

/-- Under a ceiling below a level that it enters a rendering is too deep. -/
theorem render_under_of_lt_deepest (hm : m ≤ ctx.ceiling) (hpos : 0 < Event.deepest (render source ctx).trace)
    (hlt : m < Event.deepest (render source ctx).trace) :
    ∃ template, (render source (ctx.under m)).result = .error (.tooDeep m template) := by
  cases lowered_of_le source hm with
  | same _ hy =>
    obtain ⟨event, he, hl⟩ := Event.exists_level_eq_deepest hpos
    have hle := hy.events event he (hl ▸ hpos)
    omega
  | stopped template hx _ => exact ⟨template, hx⟩

/-- A rendering that succeeds is the same under every ceiling that is not below a level that it enters. -/
theorem render_under_of_deepest_le {html : Text} (h : (render source ctx).result = .ok html)
    (hm : m < ctx.ceiling → (Event.deepest (render source ctx).trace : Int) ≤ m) :
    render source (ctx.under m) = render source ctx := by
  rcases Int.lt_or_le m ctx.ceiling with hlt | hge
  · cases lowered_of_le source (Int.le_of_lt hlt) with
    | same heq _ => exact heq
    | stopped _ _ hy =>
      rcases hy with ⟨event, he, hl⟩ | ⟨template, he⟩
      · have hle := Event.level_le_deepest he
        have hdeep := hm hlt
        omega
      · rw [h] at he
        cases he
  · exact render_under_of_ge hge fun template ht => by rw [h] at ht; cases ht

end Threshold

/-- **The ceiling is a threshold.** A rendering that succeeds is the same under every ceiling from some `D` on, and too
deep under every ceiling below `D`, where a `D` that is not positive is below every ceiling that the settings allow. A
rendering that fails for another reason than the ceiling fails for that reason under every higher ceiling. -/
theorem render_ceiling_threshold (source : Text) (ctx : Context) :
    (∀ html, (render source ctx).result = .ok html →
      ∃ D ≤ ctx.ceiling,
        (∀ m ≥ D, (render source (ctx.under m)).result = .ok html ∧
          Stats.ofTrace (render source (ctx.under m)).trace = Stats.ofTrace (render source ctx).trace) ∧
        (0 < D → ∀ m < D, ∃ template, (render source (ctx.under m)).result = .error (.tooDeep m template))) ∧
      ∀ e : RenderError, e.NotDeep → (render source ctx).result = .error e →
        ∀ m ≥ ctx.ceiling, (render source (ctx.under m)).result = .error e := by
  refine ⟨fun html h => ⟨min ctx.ceiling (Event.deepest (render source ctx).trace), Int.min_le_left _ _, ?_, ?_⟩, ?_⟩
  · intro m hm
    rw [render_under_of_deepest_le h (by omega)]
    exact ⟨h, rfl⟩
  · intro hpos m hm
    exact render_under_of_lt_deepest (by omega) (by omega) (by omega)
  · intro e he h m hm
    rw [render_under_of_ge hm fun template ht => he _ template (Except.error.inj (h.symm.trans ht))]
    exact h

/-- The start of a rendering with a template that keeps another one, which repeats an element. -/
def nestContext : Context where
  templates :=
    [⟨"a".text, "<p x-if='rows'>a<B/></p>".text, none⟩, ⟨"b".text, "<i x-for='rows'>{{ item }}</i>".text, none⟩]
  ignoreCase := true
  scope := .root (.mapping [("rows".text, .list [.bool true, .bool false])])
  path := []
  depth := 0
  ceiling := 50
  template := []

theorem render_ceiling_threshold_nest :
    let source := "<b/><a/><b/>".text
    let html := "<i>true</i><i>false</i><p>a<i>true</i><i>false</i></p><i>true</i><i>false</i>".text
    (render source nestContext).result = .ok html ∧
      (∀ m ≥ 4, (render source (nestContext.under m)).result = .ok html) ∧
      ∀ m < 4, ∃ template, (render source (nestContext.under m)).result = .error (.tooDeep m template) := by
  intro source html
  have hok : (render source nestContext).result = .ok html := by decide +kernel
  have hfour : (render source (nestContext.under 4)).result = .ok html := by decide +kernel
  have hthree : (render source (nestContext.under 3)).result = .error (.tooDeep 3 "b".text) := by decide +kernel
  obtain ⟨D, -, hsame, hdeep⟩ := (render_ceiling_threshold source nestContext).1 html hok
  have hlow : 3 < D := by
    by_contra hD
    have h := (hsame 3 (by omega)).1
    rw [hthree] at h
    cases h
  have hhigh : D ≤ 4 := by
    by_contra hD
    obtain ⟨template, h⟩ := hdeep (by omega) 4 (by omega)
    rw [hfour] at h
    cases h
  obtain rfl : D = 4 := by omega
  exact ⟨hok, fun m hm => (hsame m hm).1, hdeep (by omega)⟩

end HtmlTemplate
