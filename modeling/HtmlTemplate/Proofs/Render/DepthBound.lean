import HtmlTemplate.Proofs.Render.Ceiling
import Mathlib.Algebra.GroupWithZero.Nat
import Mathlib.Data.List.Nodup

/-!
# How deep a rendering can go

An element takes at most two levels, one for a loop and one for a condition, and an inclusion takes one. No template is
included inside of itself, so the levels below a context are at most those of the nodes that it is in and those of all
templates that are not on its path (`Fits`). A context keeps this when it goes one level down, and an inclusion pays
for the levels of its source with the template that it puts on the path (`roomOff_append`). So the depth is bounded by
the sources alone (`depthBound`), whatever the data, and a ceiling that is at least the bound never stops a rendering
(`render_within_depthBound`).
-/

namespace HtmlTemplate

/-! ## The bound -/

namespace Node

mutual

/-- How many elements are nested in a node. -/
def height : Node → Nat
  | .text _ => 0
  | .element _ children _ => heights children + 1

/-- How many elements are nested in some nodes. -/
def heights : List Node → Nat
  | [] => 0
  | node :: rest => max (height node) (heights rest)

end

end Node

/-- How many levels the elements of a source take: each may have a loop and a condition. -/
def elementLevels (source : Text) : Nat := 2 * Node.heights (Markup.parse (withoutMark source))

/-- A bound on the depth of the renderings of a source with templates of the given sources. -/
def depthBound (source : Text) (sources : List Text) : Nat :=
  elementLevels source + (sources.map fun s => elementLevels s + 1).sum

namespace DepthBound

/-- The levels that the templates take that are not on a path. -/
def roomOff (path : List Text) : Templates → Nat
  | [] => 0
  | t :: rest => (if t.name ∈ path then 0 else elementLevels t.source + 1) + roomOff path rest

theorem roomOff_nil (templates : Templates) :
    roomOff [] templates = ((templates.map Template.source).map fun s => elementLevels s + 1).sum := by
  induction templates with
  | nil => rfl
  | cons t rest ih => simp [roomOff, ih]

theorem roomOff_append_le (path : List Text) (name : Text) (templates : Templates) :
    roomOff (path ++ [name]) templates ≤ roomOff path templates := by
  induction templates with
  | nil => exact Nat.le_refl 0
  | cons t rest ih =>
    have hstep : (if t.name ∈ path ++ [name] then 0 else elementLevels t.source + 1) ≤
        if t.name ∈ path then 0 else elementLevels t.source + 1 := by
      by_cases hp : t.name ∈ path
      · rw [if_pos (List.mem_append_left _ hp)]
        exact Nat.zero_le _
      · rw [if_neg hp]
        split <;> omega
    exact Nat.add_le_add hstep ih

/-- A template that is put on a path leaves room for its elements and its inclusion. -/
theorem roomOff_append {path : List Text} {t : Template} {templates : Templates} (ht : t ∈ templates)
    (hp : t.name ∉ path) :
    roomOff (path ++ [t.name]) templates + elementLevels t.source + 1 ≤ roomOff path templates := by
  induction templates with
  | nil => cases ht
  | cons first rest ih =>
    rcases List.mem_cons.mp ht with rfl | ht
    · have hle := roomOff_append_le path t.name rest
      simp only [roomOff, if_neg hp, List.mem_append, List.mem_singleton, or_true, if_true]
      omega
    · have hrest := ih ht
      have hfirst := roomOff_append_le path t.name [first]
      simp only [roomOff] at hfirst ⊢
      omega

/-! ## Contexts with room below -/

/-- The events of a rendering that stays within the bound. -/
def EnteredWithin (bound : Nat) : Event → Prop
  | .entered path depth => path.Nodup ∧ depth ≤ bound
  | _ => True

/-- The failures of a rendering under a ceiling: it is only too deep if the ceiling is less than the bound. -/
def DeepOnlyBelow (ceiling : Int) (bound : Nat) : RenderError → Prop
  | .tooDeep _ _ => ceiling < bound
  | _ => True

/-- A context that has `room` levels for elements and the levels of the templates that are not on its path, and in
which `nested` templates may still be nested before the ceiling is reached. -/
structure Fits (lib : Library) (ceiling : Int) (bound nested room : Nat) (ctx : Context) : Prop where
  library : ctx.library = lib
  ceiling : ctx.ceiling = ceiling
  nodup : ctx.path.Nodup
  depth_le : ctx.depth + room + roomOff ctx.path lib.templates ≤ bound
  ceiling_lt : ctx.ceiling < ctx.depth + nested

variable {lib : Library} {ceiling : Int} {bound nested room : Nat}

theorem permits : Permits (EnteredWithin bound) (DeepOnlyBelow ceiling bound) where
  counted := trivial
  evaluated _ _ := trivial
  tested := trivial
  repeated := trivial
  dropped _ _ := trivial
  included _ _ := trivial
  expression _ := trivial
  display _ := trivial

theorem Fits.mono {ctx : Context} {room' : Nat} (h : Fits lib ceiling bound nested room ctx) (hle : room' ≤ room) :
    Fits lib ceiling bound nested room' ctx where
  library := h.library
  ceiling := h.ceiling
  nodup := h.nodup
  depth_le := by have := h.depth_le; omega
  ceiling_lt := h.ceiling_lt

/-- The way down takes one level of the room. -/
theorem descends_fits (room : Nat) :
    Descends (EnteredWithin bound) (DeepOnlyBelow ceiling bound) (Fits lib ceiling bound nested (room + 1))
      (Fits lib ceiling bound nested room) where
  stop ctx h hdeep _ := by
    have hle := h.depth_le
    have hc := h.ceiling
    show ceiling < bound
    omega
  enter ctx scope h _ := by
    have hle := h.depth_le
    have hlt := h.ceiling_lt
    refine ⟨⟨h.nodup, by omega⟩, ⟨h.library, h.ceiling, h.nodup, ?_, ?_⟩⟩
    · show ctx.depth + 1 + room + roomOff ctx.path lib.templates ≤ bound
      omega
    · show ctx.ceiling < ((ctx.depth + 1 : Nat) : Int) + nested
      omega

/-- Whether `body` stays within the bound where there is room for it. -/
def StaysWithin (lib : Library) (ceiling : Int) (bound nested room : Nat) (body : Context → Rendering Text) : Prop :=
  ∀ ctx, Fits lib ceiling bound nested room ctx →
    (body ctx).Ensures (EnteredWithin bound) (DeepOnlyBelow ceiling bound)

/-! ## Nodes and sources -/

section Nodes

variable {expand : Text → Context → Rendering Text}

/-- What `expand` owes: the source of a template stays within the bound, once there is room for it and the ceiling is
not yet passed. -/
def Expands (lib : Library) (ceiling : Int) (bound nested : Nat) (expand : Text → Context → Rendering Text) : Prop :=
  ∀ source ctx, Fits lib ceiling bound nested (elementLevels source) ctx → (ctx.depth : Int) ≤ ctx.ceiling →
    (expand source ctx).Ensures (EnteredWithin bound) (DeepOnlyBelow ceiling bound)

/-- An inclusion pays for the levels of its source with the template that it puts on the path. -/
theorem staysWithin_renderInclusion (hexpand : Expands lib ceiling bound nested expand) {t : Template}
    (ht : t ∈ lib.templates) (tag : OpenTag) :
    StaysWithin lib ceiling bound (nested + 1) 0 (Directive.renderInclusion expand t tag) := by
  intro ctx h
  have hle := h.depth_le
  have hlt := h.ceiling_lt
  have hc := h.ceiling
  refine permits.renderInclusion (fun _ => trivial) (fun hp hdeep _ => ?_) (fun hp hin => ?_)
  · have hroom := roomOff_append ht hp
    show ceiling < bound
    omega
  · have hroom := roomOff_append ht hp
    have hnodup : (ctx.path ++ [t.name]).Nodup := by
      rw [← List.concat_eq_append]
      exact h.nodup.concat hp
    refine ⟨⟨hnodup, by omega⟩, fun inner hlib hceiling hpath hdepth => hexpand t.source inner ?_ (by omega)⟩
    refine ⟨hlib.trans h.library, hceiling.trans hc, hpath ▸ hnodup, ?_, by omega⟩
    rw [hpath]
    omega

/-- What the directives before it leave to an inclusion stays within the bound if the emission does. -/
theorem staysWithin_inclusion (hexpand : Expands lib ceiling bound nested expand)
    {emit : OpenTag → Context → Rendering Text}
    (hemit : ∀ tag, StaysWithin lib ceiling bound (nested + 1) room (emit tag)) (tag : OpenTag) :
    StaysWithin lib ceiling bound (nested + 1) room (Directive.render expand emit .inclusion tag) := by
  intro ctx h
  rw [Directive.render_inclusion, h.library]
  cases hi : tag.inclusion? lib with
  | none => exact hemit tag ctx h
  | some t =>
    exact staysWithin_renderInclusion hexpand (OpenTag.mem_of_inclusion? hi) tag ctx (h.mono (Nat.zero_le _))

mutual

theorem staysWithin_renderNode (hexpand : Expands lib ceiling bound nested expand) : ∀ node : Node,
    StaysWithin lib ceiling bound (nested + 1) (2 * node.height) (renderNode Directive.standard expand node)
  | .text s => fun ctx _ => by
    rw [renderNode]
    exact permits.interpolate s ctx
  | .element tag children closing => fun ctx h => by
    rw [Node.height] at h
    rw [renderNode]
    have hemit : ∀ tag : OpenTag, StaysWithin lib ceiling bound (nested + 1) (2 * Node.heights children) fun ctx =>
        (interpolate tag.source ctx).andThen fun front =>
          (renderNodes Directive.standard expand children ctx).map fun inside => front ++ inside ++ closing.getD [] :=
      fun tag ctx h => (permits.interpolate tag.source ctx).andThen fun front =>
        (staysWithin_renderNodes hexpand children ctx h).map _
    exact permits.renderAll (descends_fits (2 * Node.heights children + 1))
      (descends_fits (2 * Node.heights children)) (fun _ h => h.mono (Nat.le_succ _))
      (fun _ h => h.mono (Nat.le_succ _)) (staysWithin_inclusion hexpand hemit _) h

/-- The nodes of a tree stay within the bound if the templates do. -/
theorem staysWithin_renderNodes (hexpand : Expands lib ceiling bound nested expand) : ∀ nodes : List Node,
    StaysWithin lib ceiling bound (nested + 1) (2 * Node.heights nodes)
      (renderNodes Directive.standard expand nodes)
  | [] => fun ctx _ => by
    rw [renderNodes]
    exact Traced.ensures_done _
  | node :: rest => fun ctx h => by
    rw [Node.heights] at h
    rw [renderNodes]
    have hnode := staysWithin_renderNode hexpand node ctx (h.mono (by omega))
    have hrest := staysWithin_renderNodes hexpand rest ctx (h.mono (by omega))
    exact hnode.andThen fun front => hrest.map _

end

end Nodes

/-- A source stays within the bound: below the ceiling there are always templates left that may be nested. -/
theorem expands_renderWithin (nested : Nat) :
    Expands lib ceiling bound nested (renderWithin Directive.standard nested) := by
  induction nested with
  | zero => exact fun source ctx h hle => absurd h.ceiling_lt (by omega)
  | succ nested ih => exact fun source ctx h _ => staysWithin_renderNodes ih _ ctx h

/-- At the start there is room for the source and for all templates. -/
theorem fits_start (source : Text) {ctx : Context} (hpath : ctx.path = []) (hdepth : ctx.depth = 0) (m : Int) :
    Fits ctx.library m (depthBound source (ctx.templates.map Template.source)) ((m - ctx.depth).toNat + 1)
      (elementLevels source) (ctx.under m) where
  library := rfl
  ceiling := rfl
  nodup := by
    show ctx.path.Nodup
    rw [hpath]
    exact .nil
  depth_le := by
    show ctx.depth + elementLevels source + roomOff ctx.path ctx.templates ≤ _
    rw [hpath, hdepth, roomOff_nil, Nat.zero_add]
    exact Nat.le_refl _
  ceiling_lt := by
    show m < (ctx.depth : Int) + ((m - ctx.depth).toNat + 1 : Nat)
    omega

end DepthBound

/-! ## The whole rendering -/

/-- **The ceiling is only a fuse.** A rendering that starts outside of all templates enters no template inside of
itself and no level below a bound that the sources give, whatever the data. Under a ceiling that is at least the bound
it is never too deep, and all such ceilings give the same rendering. -/
theorem render_within_depthBound (source : Text) (ctx : Context) (hpath : ctx.path = []) (hdepth : ctx.depth = 0) :
    let bound := depthBound source (ctx.templates.map Template.source)
    (∀ path depth, .entered path depth ∈ (render source ctx).trace → path.Nodup ∧ depth ≤ bound) ∧
      (bound ≤ ctx.ceiling → ∀ e, (render source ctx).result = .error e → e.NotDeep) ∧
      ∀ m : Int, bound ≤ m → render source (ctx.under m) = render source (ctx.under bound) := by
  intro bound
  have hstays : ∀ m : Int, (render source (ctx.under m)).Ensures (DepthBound.EnteredWithin bound)
      (DepthBound.DeepOnlyBelow m bound) := fun m =>
    DepthBound.staysWithin_renderNodes (DepthBound.expands_renderWithin _) _ _
      (DepthBound.fits_start source hpath hdepth m)
  have hdeep : ∀ m : Int, bound ≤ m → ∀ e, (render source (ctx.under m)).result = .error e → e.NotDeep := by
    rintro m hm e he c template rfl
    have hlt : m < bound := (hstays m).failure _ he
    omega
  refine ⟨fun path depth h => (hstays ctx.ceiling).events _ h, hdeep ctx.ceiling, fun m hm => ?_⟩
  have hraised : (ctx.under bound).ceiling ≤ m := hm
  exact render_under_of_ge hraised fun template ht => hdeep bound (Int.le_refl _) _ ht _ _ rfl

/-- The start of a rendering with a template that includes itself for the items of the data. -/
def mirrorContext : Context where
  templates := [⟨"a".text, "<ul><li x-for='rows' x-if='item'><A/></li></ul>".text, none⟩]
  ignoreCase := true
  scope := .root (.mapping [("rows".text, .list [.bool false, .bool true])])
  path := []
  depth := 0
  ceiling := 50
  template := []

theorem render_within_depthBound_mirror :
    let source := "<p><a/></p>".text
    (mirrorContext.path = [] ∧ mirrorContext.depth = 0) ∧
      depthBound source (mirrorContext.templates.map Template.source) = 11 ∧
      ∀ m : Int, 11 ≤ m →
        (render source (mirrorContext.under m)).result = .error (.cyclicInclude (["a", "a"].map String.text)) := by
  intro source
  have hbound : depthBound source (mirrorContext.templates.map Template.source) = 11 := by decide +kernel
  have hresult : (render source (mirrorContext.under 11)).result =
      .error (.cyclicInclude (["a", "a"].map String.text)) := by decide +kernel
  obtain ⟨-, -, hsame⟩ := render_within_depthBound source mirrorContext rfl rfl
  rw [hbound] at hsame
  exact ⟨⟨rfl, rfl⟩, hbound, fun m hm => by rw [hsame m hm]; exact hresult⟩

end HtmlTemplate
