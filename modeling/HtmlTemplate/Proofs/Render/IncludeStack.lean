import HtmlTemplate.Proofs.Markup.Tags
import HtmlTemplate.Proofs.Render.Ensures
import Mathlib.Data.List.Chain
import Mathlib.Data.List.Nodup
import Mathlib.Logic.Relation

/-!
# The templates that are being included

The templates that a rendering is in the middle of including form a path of the include graph without repetitions,
and the path is no longer than the rendering is deep (`SafePlace`). A context keeps this when it goes one level down
(`descends_inside`), so it holds wherever a rendering of a source comes. An inclusion is refused as cyclic only if one
more step along the graph leads to a name on the path (`CycleFound`), so a rendering from which no cycle can be reached
is never refused (`render_includes_safely`).
-/

namespace HtmlTemplate

/-! ## The include graph -/

namespace Library

/-- Whether a self-closing element of a source is called `name`, in the normal form of names. -/
def Calls (lib : Library) (source name : Text) : Prop :=
  ∃ tag ∈ Node.tagsOf (Markup.parse (withoutMark source)),
    tag.selfClosing = true ∧ Template.normalName lib.ignoreCase tag.name = name

/-- The paths of the include graph that begin at a source: the names on the way, and the source at the end. -/
inductive Leads (lib : Library) (source : Text) : List Text → Text → Prop
  | here : Leads lib source [] source
  | into {path : List Text} {last name : Text} {t : Template} :
      Leads lib source path last → lib.Calls last name → lib.templates.find? name = some t →
        Leads lib source (path ++ [name]) t.source

/-- Whether the template `a` includes the template `b`. -/
def Includes (lib : Library) (a b : Text) : Prop :=
  ∃ t, lib.templates.find? a = some t ∧ lib.Calls t.source b ∧ (lib.templates.find? b).isSome

/-- Whether no template that a source leads to leads to itself. -/
def Acyclic (lib : Library) (source : Text) : Prop :=
  ∀ path name last, lib.Leads source (path ++ [name]) last → ¬ Relation.TransGen lib.Includes name name

variable {lib : Library} {source : Text}

theorem Leads.find?_last {path : List Text} {last : Text} (h : lib.Leads source path last) {name : Text}
    (hn : name ∈ path.getLast?) : ∃ t, lib.templates.find? name = some t ∧ t.source = last := by
  cases h with
  | here => cases hn
  | @into path last name' t hp hc ht =>
    rw [List.getLast?_concat, Option.mem_some_iff] at hn
    exact ⟨t, hn ▸ ht, rfl⟩

/-- Each name of a path includes the next. -/
theorem Leads.isChain {path : List Text} {last : Text} (h : lib.Leads source path last) :
    path.IsChain lib.Includes := by
  induction h with
  | here => exact .nil
  | @into path last name t hp hc ht ih =>
    refine List.isChain_append.mpr ⟨ih, .singleton name, fun a ha b hb => ?_⟩
    obtain ⟨u, hu, rfl⟩ := hp.find?_last ha
    have hb : b = name := by simpa using hb.symm
    exact ⟨u, hu, hb ▸ hc, by rw [hb, ht]; rfl⟩

/-- A path that repeats its last name ends in a cycle. -/
theorem Leads.transGen {path : List Text} {name last : Text} (h : lib.Leads source (path ++ [name]) last)
    (hn : name ∈ path) : Relation.TransGen lib.Includes name name := by
  have hchain := h.isChain.imp fun _ _ => Relation.TransGen.single
  have hpairs := List.isChain_iff_pairwise.mp hchain
  exact (List.pairwise_append.mp hpairs).2.2 name hn name List.mem_cons_self

end Library

/-! ## Places of a rendering -/

/-- What is safe about the place of a context: the names of the templates that are being included, and the depth. -/
structure SafePlace (lib : Library) (ceiling : Int) (source : Text) (path : List Text) (depth : Nat) : Prop where
  nodup : path.Nodup
  leads : ∃ last, lib.Leads source path last
  length_le : path.length ≤ depth
  depth_le : (depth : Int) ≤ ceiling

/-- What the names of a cycle are: a path without repetitions, and one more step to a name on it. -/
def CycleFound (lib : Library) (source : Text) (names : List Text) : Prop :=
  ∃ path name last, names = path ++ [name] ∧ path.Nodup ∧ name ∈ path ∧ lib.Leads source names last

namespace IncludeStack

variable {lib : Library} {ceiling : Int} {source : Text}

/-- The events of a rendering of `source` that are at a safe place. -/
def SafeEvent (lib : Library) (ceiling : Int) (source : Text) : Event → Prop
  | .entered path depth => SafePlace lib ceiling source path depth
  | _ => True

/-- The failures of a rendering of `source` that are right about a cycle. -/
def SafeFailure (lib : Library) (source : Text) : RenderError → Prop
  | .cyclicInclude names => CycleFound lib source names
  | _ => True

/-- A context inside of the source `last`, to which the include graph leads from `source`. -/
structure Inside (lib : Library) (ceiling : Int) (source last : Text) (ctx : Context) : Prop where
  library : ctx.library = lib
  ceiling : ctx.ceiling = ceiling
  nodup : ctx.path.Nodup
  leads : lib.Leads source ctx.path last
  length_le : ctx.path.length ≤ ctx.depth

theorem permits : Permits (SafeEvent lib ceiling source) (SafeFailure lib source) where
  counted := trivial
  evaluated _ _ := trivial
  tested := trivial
  repeated := trivial
  dropped _ _ := trivial
  included _ _ := trivial
  expression _ := trivial
  display _ := trivial

/-- One level down a context is still inside of the same source. -/
theorem descends_inside {last : Text} :
    Descends (SafeEvent lib ceiling source) (SafeFailure lib source) (Inside lib ceiling source last)
      (Inside lib ceiling source last) where
  stop _ _ _ _ := trivial
  enter ctx scope h hd := by
    have hle : ctx.path.length ≤ ctx.depth + 1 := by have := h.length_le; omega
    refine ⟨⟨h.nodup, ⟨last, h.leads⟩, hle, ?_⟩, ⟨h.library, h.ceiling, h.nodup, h.leads, hle⟩⟩
    rw [← h.ceiling]
    push_cast
    exact hd

/-- Whether `body` is safe in the contexts inside of the source `last`. -/
def Safely (lib : Library) (ceiling : Int) (source last : Text) (body : Context → Rendering Text) : Prop :=
  ∀ ctx, Inside lib ceiling source last ctx →
    (body ctx).Ensures (SafeEvent lib ceiling source) (SafeFailure lib source)

section Source

variable {expand : Text → Context → Rendering Text} {last : Text}

/-- An inclusion is one more step along the include graph. -/
theorem safely_renderInclusion (hexpand : ∀ last, Safely lib ceiling source last (expand last)) {tag : OpenTag}
    {t : Template} (hc : lib.Calls last t.name) (ht : lib.templates.find? t.name = some t) :
    Safely lib ceiling source last (Directive.renderInclusion expand t tag) := by
  intro ctx h
  have hleads : lib.Leads source (ctx.path ++ [t.name]) t.source := h.leads.into hc ht
  have hlen : (ctx.path ++ [t.name]).length ≤ ctx.depth + 1 := by
    rw [List.length_append, List.length_singleton]
    exact Nat.succ_le_succ h.length_le
  refine permits.renderInclusion ?_ (fun _ _ _ => trivial) ?_
  · exact fun hm => ⟨ctx.path, t.name, t.source, rfl, h.nodup, hm, hleads⟩
  · intro hm hd
    have hnodup : (ctx.path ++ [t.name]).Nodup := by
      rw [← List.concat_eq_append]
      exact h.nodup.concat hm
    constructor
    · refine ⟨hnodup, ⟨_, hleads⟩, hlen, ?_⟩
      rw [← h.ceiling]
      push_cast
      exact hd
    · intro inner hlib hceiling hpath hdepth
      refine hexpand t.source inner ⟨hlib.trans h.library, hceiling.trans h.ceiling, ?_, ?_, ?_⟩
      · rw [hpath]; exact hnodup
      · rw [hpath]; exact hleads
      · rw [hpath, hdepth]; exact hlen

/-- What the directives before it leave to an inclusion is safe if the emission is. -/
theorem safely_inclusion (hexpand : ∀ last, Safely lib ceiling source last (expand last))
    {emit : OpenTag → Context → Rendering Text} (hemit : ∀ tag, Safely lib ceiling source last (emit tag))
    {tag : OpenTag}
    (hcalls : tag.selfClosing = true → lib.Calls last (Template.normalName lib.ignoreCase tag.name)) :
    Safely lib ceiling source last (Directive.render expand emit .inclusion tag.afterLoop.afterCondition) := by
  intro ctx h
  rw [Directive.render_inclusion, OpenTag.inclusion?_bare, h.library]
  cases hi : tag.inclusion? lib with
  | none => exact hemit _ ctx h
  | some t =>
    unfold OpenTag.inclusion? at hi
    split at hi
    · rename_i hs
      have hname : t.name = Template.normalName lib.ignoreCase tag.name := by
        simpa using List.find?_some hi
      refine safely_renderInclusion hexpand ?_ ?_ ctx h
      · rw [hname]; exact hcalls hs
      · rw [hname]; exact hi
    · cases hi

mutual

theorem safely_renderNode (hexpand : ∀ last, Safely lib ceiling source last (expand last)) : ∀ (node : Node),
    (∀ tag ∈ node.tags, tag.selfClosing = true → lib.Calls last (Template.normalName lib.ignoreCase tag.name)) →
      Safely lib ceiling source last (renderNode Directive.standard expand node)
  | .text s, _ => fun ctx _ => by
    rw [renderNode]
    exact permits.interpolate s ctx
  | .element tag children closing, hcalls => fun ctx h => by
    rw [Node.tags, List.forall_mem_cons] at hcalls
    rw [renderNode]
    have hemit : ∀ tag : OpenTag, Safely lib ceiling source last fun ctx =>
        (interpolate tag.source ctx).andThen fun front =>
          (renderNodes Directive.standard expand children ctx).map fun inside => front ++ inside ++ closing.getD [] :=
      fun tag ctx h => (permits.interpolate tag.source ctx).andThen fun front =>
        (safely_renderNodes hexpand children hcalls.2 ctx h).map _
    exact permits.renderAll descends_inside descends_inside (fun _ h => h) (fun _ h => h)
      (safely_inclusion hexpand hemit hcalls.1) h

/-- The nodes of a tree whose self-closing elements are those of the source `last` are rendered safely inside of it. -/
theorem safely_renderNodes (hexpand : ∀ last, Safely lib ceiling source last (expand last)) : ∀ (nodes : List Node),
    (∀ tag ∈ Node.tagsOf nodes, tag.selfClosing = true →
      lib.Calls last (Template.normalName lib.ignoreCase tag.name)) →
      Safely lib ceiling source last (renderNodes Directive.standard expand nodes)
  | [], _ => fun ctx _ => by
    rw [renderNodes]
    exact Traced.ensures_done _
  | node :: rest, hcalls => fun ctx h => by
    rw [Node.tagsOf, List.forall_mem_append] at hcalls
    rw [renderNodes]
    exact (safely_renderNode hexpand node hcalls.1 ctx h).andThen fun front =>
      (safely_renderNodes hexpand rest hcalls.2 ctx h).map _

end

end Source

/-- A source to which the include graph leads is rendered safely. -/
theorem safely_renderWithin (levels : Nat) (last : Text) :
    Safely lib ceiling source last (renderWithin Directive.standard levels last) := by
  induction levels generalizing last with
  | zero => exact fun ctx _ => Traced.ensures_fail trivial
  | succ levels ih => exact safely_renderNodes ih _ fun tag hm hs => ⟨tag, hm, hs, rfl⟩

end IncludeStack

/-! ## The whole rendering -/

/-- **Inclusions are safe.** A rendering that starts outside of all templates only ever enters safe places, and starts
at one if the ceiling is not negative; it is refused as cyclic only for a cycle of the include graph, and so never if
the source leads to none. -/
theorem render_includes_safely (source : Text) (ctx : Context) (hpath : ctx.path = []) (hdepth : ctx.depth = 0) :
    (0 ≤ ctx.ceiling → SafePlace ctx.library ctx.ceiling source ctx.path ctx.depth) ∧
      (∀ path depth, .entered path depth ∈ (render source ctx).trace →
        SafePlace ctx.library ctx.ceiling source path depth) ∧
      (∀ names, (render source ctx).result = .error (.cyclicInclude names) → CycleFound ctx.library source names) ∧
      (ctx.library.Acyclic source → ∀ names, (render source ctx).result ≠ .error (.cyclicInclude names)) := by
  have hstart : IncludeStack.Inside ctx.library ctx.ceiling source source ctx :=
    ⟨rfl, rfl, by rw [hpath]; exact .nil, by rw [hpath]; exact .here, by rw [hpath, hdepth]; exact Nat.le_refl 0⟩
  have hsafe : (render source ctx).Ensures (IncludeStack.SafeEvent ctx.library ctx.ceiling source)
      (IncludeStack.SafeFailure ctx.library source) := IncludeStack.safely_renderWithin _ source ctx hstart
  have hcycle : ∀ names, (render source ctx).result = .error (.cyclicInclude names) →
      CycleFound ctx.library source names := fun names h => hsafe.failure _ h
  refine ⟨fun hc => ?_, fun path depth h => hsafe.events _ h, hcycle, fun hacyclic names h => ?_⟩
  · exact ⟨hstart.nodup, ⟨source, hstart.leads⟩, hstart.length_le, by rw [hdepth]; exact hc⟩
  · obtain ⟨path, name, last, rfl, -, hm, hleads⟩ := hcycle names h
    exact hacyclic path name last hleads (hleads.transGen hm)

/-- The start of a rendering with two templates that include each other. -/
def ringContext : Context where
  templates :=
    [⟨"a".text, "<p x-for='rows'><B/></p>".text, none⟩, ⟨"b".text, "<i><a x-if='item'/></i>".text, none⟩]
  ignoreCase := true
  scope := .root (.mapping [("rows".text, .list [.bool true])])
  path := []
  depth := 0
  ceiling := 50
  template := []

theorem render_includes_safely_ring :
    let names := ["a", "b", "a"].map String.text
    (ringContext.path = [] ∧ ringContext.depth = 0) ∧
      (render "<A/>".text ringContext).result = .error (.cyclicInclude names) ∧
      CycleFound ringContext.library "<A/>".text names ∧
      SafePlace ringContext.library 50 "<A/>".text (["a", "b"].map String.text) 4 := by
  have hresult : (render "<A/>".text ringContext).result =
      .error (.cyclicInclude (["a", "b", "a"].map String.text)) := by decide +kernel
  have hentered : .entered (["a", "b"].map String.text) 4 ∈ (render "<A/>".text ringContext).trace := by
    decide +kernel
  obtain ⟨-, hplaces, hcycle, -⟩ := render_includes_safely "<A/>".text ringContext rfl rfl
  exact ⟨⟨rfl, rfl⟩, hresult, hcycle _ hresult, hplaces _ _ hentered⟩

end HtmlTemplate
