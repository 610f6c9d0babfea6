import HtmlTemplate.Proofs.Expr.Names
import HtmlTemplate.Proofs.Interpolation.Segments
import HtmlTemplate.Proofs.Markup.Lossless
import HtmlTemplate.Proofs.Markup.Tags
import HtmlTemplate.Proofs.Render.Basic

/-!
# Markup without directives

Where no directive takes a tag, a tree is rendered like the segments of its texts and open tags, one after the other
(`renderNodes_of_unclaimed`); nothing is lost or put in between. So a source without directives comes out as it is, with
what each region shows in the place of the region, and without regions it comes out unchanged (`render_of_unclaimed`).
-/

namespace HtmlTemplate

/-! ## The segments of a tree -/

namespace Node

mutual

/-- The segments of a node: those of its texts and open tags; a close tag has no regions. -/
def segments : Node → List Segment
  | .text s => HtmlTemplate.segments s
  | .element tag children closing =>
    HtmlTemplate.segments tag.source ++ segmentsOf children ++ (closing.getD []).map .literal

/-- The segments of some nodes, one after the other. -/
def segmentsOf : List Node → List Segment
  | [] => []
  | node :: rest => segments node ++ segmentsOf rest

end

end Node

namespace Segment

theorem sources_segments (s : Text) : sources (HtmlTemplate.segments s) = s := source_segmentsFrom s.length s

theorem sources_literals (s : Text) : sources (s.map .literal) = s := by
  simp [sources, List.flatMap_map, source]

end Segment

namespace Node

mutual

theorem sources_segments : ∀ node : Node, Segment.sources (segments node) = source node
  | .text s => by
    rw [segments, source, Segment.sources_segments]
  | .element tag children closing => by
    rw [segments, source, Segment.sources_append, Segment.sources_append, Segment.sources_segments,
      Segment.sources_literals, sources_segmentsOf children]

/-- The segments of some nodes are how the nodes were written. -/
theorem sources_segmentsOf : ∀ nodes : List Node, Segment.sources (segmentsOf nodes) = sources nodes
  | [] => rfl
  | node :: rest => by
    rw [segmentsOf, sources, Segment.sources_append, sources_segments node, sources_segmentsOf rest]

end

end Node

/-! ## Tags that no directive takes -/

/-- No directive takes the tag: it repeats nothing, tests nothing and is not called like a template. -/
structure OpenTag.Unclaimed (lib : Library) (tag : OpenTag) : Prop where
  loop : Directive.expression? tag Directive.loopName = none
  condition : Directive.expression? tag Directive.conditionName = none
  inclusion : tag.inclusion? lib = none

instance (lib : Library) (tag : OpenTag) : Decidable (tag.Unclaimed lib) :=
  decidable_of_iff (Directive.expression? tag Directive.loopName = none ∧
      Directive.expression? tag Directive.conditionName = none ∧ tag.inclusion? lib = none)
    ⟨fun ⟨loop, condition, inclusion⟩ => ⟨loop, condition, inclusion⟩, fun h => ⟨h.loop, h.condition, h.inclusion⟩⟩

section

variable {expand : Text → Context → Rendering Text} {ctx : Context}

theorem Directive.renderAll_of_unclaimed {tag : OpenTag} (h : tag.Unclaimed ctx.library)
    (emit : OpenTag → Context → Rendering Text) :
    Directive.renderAll expand emit Directive.standard tag ctx = emit tag ctx := by
  rw [Directive.renderAll_of_bare h.loop h.condition, h.inclusion]

theorem renderSegments_literals (s : Text) (ctx : Context) : renderSegments (s.map .literal) ctx = .done s := by
  induction s with
  | nil => rfl
  | cons c rest ih => rw [List.map_cons, renderSegments, ih]; rfl

mutual

theorem renderNode_of_unclaimed : ∀ node : Node, (∀ tag ∈ node.tags, tag.Unclaimed ctx.library) →
    renderNode Directive.standard expand node ctx = renderSegments node.segments ctx
  | .text s, _ => by
    rw [renderNode, Node.segments, interpolate]
  | .element tag children closing, h => by
    rw [Node.tags, List.forall_mem_cons] at h
    rw [renderNode, Directive.renderAll_of_unclaimed h.1, renderNodes_of_unclaimed children h.2, Node.segments,
      renderSegments_append, renderSegments_append, renderSegments_literals, interpolate]
    simp only [Traced.map_done, Traced.andThen_done_eq_map, Traced.map_andThen, Traced.map_map, Function.comp_def]

/-- Nodes of which no directive takes a tag are rendered like their segments. -/
theorem renderNodes_of_unclaimed : ∀ nodes : List Node, (∀ tag ∈ Node.tagsOf nodes, tag.Unclaimed ctx.library) →
    renderNodes Directive.standard expand nodes ctx = renderSegments (Node.segmentsOf nodes) ctx
  | [], _ => by
    rw [renderNodes, Node.segmentsOf, renderSegments]
  | node :: rest, h => by
    rw [Node.tagsOf, List.forall_mem_append] at h
    rw [renderNodes, renderNode_of_unclaimed node h.1, renderNodes_of_unclaimed rest h.2, Node.segmentsOf,
      renderSegments_append]

end

end

/-! ## Regions with what they show -/

namespace Region

/-- The region has a value in the scope, and the value is shown as `shown`. -/
def Displays (r : Region) (scope : Scope) (shown : Text) : Prop :=
  ∃ v text, evaluate r.expression scope = .ok v ∧ v.display = .ok text ∧ shown = r.insertion.insert text

theorem render_of_displays {r : Region} {ctx : Context} {shown : Text} (h : r.Displays ctx.scope shown) :
    r.render ctx = ⟨.ok shown, Event.ofShown r.expression ctx.scope⟩ := by
  obtain ⟨v, text, hv, htext, rfl⟩ := h
  have hdisplay : Rendering.display v = .done text := by rw [Rendering.display, htext]; rfl
  rw [render, Rendering.evaluateCounted, Rendering.evaluate, Event.ofShown, hv]
  simp only [Except.mapError, Traced.ofResult, Traced.andThen_assoc, Traced.done_andThen, hdisplay]
  rfl

/-- The region is read at some place of a text. -/
def IsRead (r : Region) : Prop := ∃ s after, read? s = some (r, after)

theorem isRead_of_mem_segments {r : Region} {s : Text} (h : .region r ∈ segments s) : r.IsRead := by
  obtain ⟨front, back, hsegments⟩ := List.append_of_mem h
  obtain ⟨rest, -, hrest⟩ := Scans.start.of_segments_append hsegments
  obtain ⟨after, hread, -⟩ := segments_eq_region_cons_iff.mp hrest
  exact ⟨rest, after, hread⟩

/-- Two braces open a region. -/
theorem opener_prefix_of_isRead {r : Region} (h : r.IsRead) : Insertion.escaped.opener <+: r.source := by
  obtain ⟨s, after, hread⟩ := h
  obtain ⟨insertion, body, -, -, hsource⟩ := encloses_of_read? hread
  rw [hsource, Insertion.around, List.append_assoc]
  cases insertion with
  | raw => exact ⟨'\x7b' :: (body ++ Insertion.raw.closer), rfl⟩
  | escaped => exact List.prefix_append _ _

end Region

namespace Node

mutual

theorem isRead_of_mem_segments {r : Region} : ∀ node : Node, .region r ∈ segments node → r.IsRead
  | .text s, h => Region.isRead_of_mem_segments h
  | .element tag children closing, h => by
    rw [segments, List.append_assoc, List.mem_append, List.mem_append] at h
    rcases h with h | h | h
    · exact Region.isRead_of_mem_segments h
    · exact isRead_of_mem_segmentsOf children h
    · obtain ⟨c, -, hc⟩ := List.mem_map.mp h
      cases hc

theorem isRead_of_mem_segmentsOf {r : Region} : ∀ nodes : List Node, .region r ∈ segmentsOf nodes → r.IsRead
  | [], h => nomatch h
  | node :: rest, h => by
    rw [segmentsOf, List.mem_append] at h
    rcases h with h | h
    · exact isRead_of_mem_segments node h
    · exact isRead_of_mem_segmentsOf rest h

end

/-- Where no braces open there are no regions. -/
theorem not_region_of_hasMark {nodes : List Node} (h : Text.hasMark Insertion.escaped.opener (sources nodes) = false)
    (r : Region) : .region r ∉ segmentsOf nodes := by
  intro hr
  have hwritten : r.source <:+: sources nodes := by
    obtain ⟨front, back, hsegments⟩ := List.append_of_mem hr
    rw [← sources_segmentsOf, hsegments]
    exact ⟨Segment.sources front, Segment.sources back, by simp [Segment.sources, Segment.source]⟩
  have hopener := Region.opener_prefix_of_isRead (isRead_of_mem_segmentsOf nodes hr)
  exact Text.hasMark_eq_false_iff.mp h (hopener.isInfix.trans hwritten)

end Node

/-- A region, what it shows, and the literal text behind it. -/
structure Filling where
  region : Region
  shown : Text
  behind : Text

namespace Filling

/-- The segments that are filled. -/
def segments (f : Filling) : List Segment := .region f.region :: f.behind.map .literal

/-- The region and the text behind it as they were written. -/
def source (f : Filling) : Text := f.region.source ++ f.behind

/-- What the region shows and the text behind it. -/
def html (f : Filling) : Text := f.shown ++ f.behind

/-- Segments whose regions are all displayed are a literal text and fillings behind it. -/
theorem exists_of_segments (scope : Scope) : ∀ all : List Segment,
    (∀ r, .region r ∈ all → ∃ shown, r.Displays scope shown) →
      ∃ (front : Text) (fillings : List Filling), all = front.map .literal ++ fillings.flatMap segments ∧
        ∀ f ∈ fillings, f.region.Displays scope f.shown
  | [], _ => ⟨[], [], rfl, nofun⟩
  | segment :: rest, h => by
    obtain ⟨front, fillings, rfl, hfillings⟩ :=
      exists_of_segments scope rest fun r hr => h r (List.mem_cons_of_mem _ hr)
    cases segment with
    | literal c => exact ⟨c :: front, fillings, rfl, hfillings⟩
    | region r =>
      obtain ⟨shown, hshown⟩ := h r List.mem_cons_self
      exact ⟨[], ⟨r, shown, front⟩ :: fillings, rfl, List.forall_mem_cons.mpr ⟨hshown, hfillings⟩⟩

theorem sources_segments (fillings : List Filling) :
    Segment.sources (fillings.flatMap segments) = fillings.flatMap source := by
  induction fillings with
  | nil => rfl
  | cons f rest ih =>
    have hfirst : Segment.sources f.segments = f.source := congrArg (f.region.source ++ ·) (Segment.sources_literals _)
    rw [List.flatMap_cons, List.flatMap_cons, Segment.sources_append, ih, hfirst]

/-- Each region is replaced by what it shows. -/
theorem renderSegments_segments {ctx : Context} (fillings : List Filling)
    (h : ∀ f ∈ fillings, f.region.Displays ctx.scope f.shown) :
    renderSegments (fillings.flatMap segments) ctx =
      ⟨.ok (fillings.flatMap html), fillings.flatMap fun f => Event.ofShown f.region.expression ctx.scope⟩ := by
  induction fillings with
  | nil => rfl
  | cons f rest ih =>
    rw [List.forall_mem_cons] at h
    rw [List.flatMap_cons, renderSegments_append, ih h.2, segments, renderSegments, Segment.render,
      Region.render_of_displays h.1, renderSegments_literals]
    rfl

end Filling

/-! ## The whole rendering -/

/-- At most the mark at its front is missing. -/
theorem withoutMark_suffix (s : Text) : withoutMark s <:+ s := by
  cases s with
  | nil => exact List.suffix_refl _
  | cons c rest =>
    rw [withoutMark]
    split
    · exact List.suffix_cons c rest
    · exact List.suffix_refl _

/-- A source whose tags no directive takes comes out with what is shown in the place of each region. -/
theorem render_of_fillings {source front : Text} {ctx : Context} {fillings : List Filling}
    (h : ∀ tag ∈ Node.tagsOf (Markup.parse (withoutMark source)), tag.Unclaimed ctx.library)
    (hsegments : Node.segmentsOf (Markup.parse (withoutMark source)) =
      front.map .literal ++ fillings.flatMap Filling.segments)
    (hfillings : ∀ f ∈ fillings, f.region.Displays ctx.scope f.shown) :
    withoutMark source = front ++ fillings.flatMap Filling.source ∧
      render source ctx =
        ⟨.ok (front ++ fillings.flatMap Filling.html),
          fillings.flatMap fun f => Event.ofShown f.region.expression ctx.scope⟩ := by
  constructor
  · rw [← Filling.sources_segments, ← Segment.sources_literals front, ← Segment.sources_append, ← hsegments,
      Node.sources_segmentsOf, Markup.sources_parse]
  · rw [render, renderBy, renderWithin, renderNodes_of_unclaimed _ h, hsegments, renderSegments_append,
      renderSegments_literals, Traced.done_andThen, Filling.renderSegments_segments fillings hfillings]
    rfl

/-- **Markup passes through.** Let no directive take a tag of a source. If all its regions are displayed, then the
source without a mark at its front is a literal text and regions with literal text behind each, namely the segments of
its texts and open tags; the rendering is the same with what is shown in the place of each region, and what it does is
to evaluate the regions one after the other. Where no braces open, the rendering is the source, and nothing is
counted. -/
theorem render_of_unclaimed (source : Text) (ctx : Context)
    (h : ∀ tag ∈ Node.tagsOf (Markup.parse (withoutMark source)), tag.Unclaimed ctx.library) :
    let nodes := Markup.parse (withoutMark source)
    ((∀ r, .region r ∈ Node.segmentsOf nodes → ∃ shown, r.Displays ctx.scope shown) →
      ∃ (front : Text) (fillings : List Filling),
        Node.segmentsOf nodes = front.map .literal ++ fillings.flatMap Filling.segments ∧
          (∀ f ∈ fillings, f.region.Displays ctx.scope f.shown) ∧
          withoutMark source = front ++ fillings.flatMap Filling.source ∧
          render source ctx =
            ⟨.ok (front ++ fillings.flatMap Filling.html),
              fillings.flatMap fun f => Event.ofShown f.region.expression ctx.scope⟩) ∧
      (Text.hasMark Insertion.escaped.opener source = false →
        (render source ctx).result = .ok (withoutMark source) ∧
          Stats.ofTrace (render source ctx).trace = ⟨0, 0, 0, 0, 0⟩) := by
  intro nodes
  refine ⟨fun hdisplays => ?_, fun hmark => ?_⟩
  · obtain ⟨front, fillings, hsegments, hfillings⟩ := Filling.exists_of_segments ctx.scope _ hdisplays
    exact ⟨front, fillings, hsegments, hfillings, render_of_fillings h hsegments hfillings⟩
  · have hnone : ∀ r, .region r ∉ Node.segmentsOf nodes := by
      refine Node.not_region_of_hasMark ?_
      rw [Markup.sources_parse, Text.hasMark_eq_false_iff]
      rw [Text.hasMark_eq_false_iff] at hmark
      exact fun hopener => hmark (hopener.trans (withoutMark_suffix source).isInfix)
    obtain ⟨front, fillings, hsegments, hfillings⟩ :=
      Filling.exists_of_segments ctx.scope (Node.segmentsOf nodes) fun r hr => absurd hr (hnone r)
    cases fillings with
    | nil =>
      obtain ⟨hsource, hrender⟩ := render_of_fillings h hsegments hfillings
      rw [List.flatMap_nil, List.append_nil] at hsource
      rw [hrender, hsource, List.flatMap_nil, List.append_nil]
      exact ⟨rfl, rfl⟩
    | cons f rest =>
      refine absurd ?_ (hnone f.region)
      rw [hsegments]
      simp [Filling.segments]

/-- Markup that is not well formed, with a blank directive and an element that is called like a template. -/
def leaflet : Text :=
  "\uFEFF<P x-for=' ' title='\x7b\x7bt\x7d\x7d'>a &\x7b\x7b\x7b t \x7d\x7d\x7d<br></p ><Card>".text

/-- The start of a rendering of the leaflet. -/
def leafletContext : Context where
  templates := [⟨"card".text, "<b/>".text, none⟩]
  ignoreCase := true
  scope := ⟨[[(['t'], .string ['<'])]]⟩
  path := []
  depth := 0
  ceiling := 50
  template := []

theorem render_of_unclaimed_leaflet :
    let nodes := Markup.parse (withoutMark leaflet)
    (∀ tag ∈ Node.tagsOf nodes, tag.Unclaimed leafletContext.library) ∧
      (∀ r, .region r ∈ Node.segmentsOf nodes → r.Displays leafletContext.scope (r.insertion.insert ['<'])) ∧
      ∃ (front : Text) (fillings : List Filling),
        Node.segmentsOf nodes = front.map .literal ++ fillings.flatMap Filling.segments ∧
          (∀ f ∈ fillings, f.region.Displays leafletContext.scope f.shown) ∧
          withoutMark leaflet = front ++ fillings.flatMap Filling.source ∧
          render leaflet leafletContext =
            ⟨.ok (front ++ fillings.flatMap Filling.html),
              fillings.flatMap fun f => Event.ofShown f.region.expression leafletContext.scope⟩ := by
  intro nodes
  have hunclaimed : ∀ tag ∈ Node.tagsOf nodes, tag.Unclaimed leafletContext.library := by decide +kernel
  have hall : ∀ segment ∈ Node.segmentsOf nodes, segment ∈ (withoutMark leaflet).map .literal ∨
      segment ∈ [.region ⟨.escaped, ['t'], "\x7b\x7bt\x7d\x7d".text⟩,
        .region ⟨.raw, ['t'], "\x7b\x7b\x7b t \x7d\x7d\x7d".text⟩] := by decide +kernel
  have hname : Expr.nameOf? ['t'] = some (['t'] : Text) := by decide +kernel
  have hdisplays : ∀ r, .region r ∈ Node.segmentsOf nodes →
      r.Displays leafletContext.scope (r.insertion.insert ['<']) := by
    intro r hr
    have hexpression : r.expression = ['t'] := by
      rcases hall _ hr with hliteral | hregion
      · simp at hliteral
      · simp only [List.mem_cons, List.not_mem_nil, or_false, Segment.region.injEq] at hregion
        rcases hregion with rfl | rfl <;> rfl
    refine ⟨.string ['<'], ['<'], ?_, rfl, rfl⟩
    rw [hexpression]
    exact Expr.evaluate_of_nameOf? hname leafletContext.scope
  have hpasses := (render_of_unclaimed leaflet leafletContext hunclaimed).1
  exact ⟨hunclaimed, hdisplays, hpasses fun r hr => ⟨_, hdisplays r hr⟩⟩

end HtmlTemplate
