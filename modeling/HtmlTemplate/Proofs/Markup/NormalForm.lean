import HtmlTemplate.Proofs.Markup.Lossless
import HtmlTemplate.Proofs.Markup.RawText
import HtmlTemplate.Proofs.Render.Ensures
import Mathlib.Data.List.Chain

/-!
# The normal form of trees

In the tree of a source no text is empty and no two texts are neighbours (`Node.Joined`), elements without a close tag
have no children, and elements with raw text have no child but that text (`Node.Normal`). Each piece keeps this of the
nodes that are in the tree already (`Assembly.Sound.add_first`). What has to be kept besides is that no close tag is
left for an open element whose body would be raw text, so that it is never closed and ends up without children.
-/

namespace HtmlTemplate

namespace Node

/-! ## Joined texts -/

/-- Whether no text is empty and no two texts are neighbours. -/
structure Joined (nodes : List Node) : Prop where
  nonempty : ∀ s, .text s ∈ nodes → s ≠ []
  apart : nodes.IsChain fun node next => ∀ s t, node = .text s → next ≠ .text t

theorem joined_nil : Joined [] := ⟨fun _ => nofun, .nil⟩

theorem joined_cons_iff {node : Node} {rest : List Node} :
    Joined (node :: rest) ↔
      node ≠ .text [] ∧ (∀ s t, node = .text s → rest.head? ≠ some (.text t)) ∧ Joined rest := by
  constructor
  · rintro ⟨hne, hapart⟩
    rw [List.isChain_cons] at hapart
    refine ⟨fun h => hne [] (h ▸ List.mem_cons_self) rfl, fun s t hs hhead => hapart.1 _ hhead s t hs rfl, ?_⟩
    exact ⟨fun s hs => hne s (List.mem_cons_of_mem _ hs), hapart.2⟩
  · rintro ⟨hne, hhead, hrest⟩
    refine ⟨fun s hs => ?_, List.isChain_cons.mpr ⟨fun next hnext s t hs ht => ?_, hrest.apart⟩⟩
    · rcases List.mem_cons.mp hs with rfl | hs
      · rintro rfl
        exact hne rfl
      · exact hrest.nonempty s hs
    · exact hhead s t hs (ht ▸ hnext)

theorem Joined.cons {nodes : List Node} (h : Joined nodes) (node : Node) : Joined (cons node nodes) := by
  unfold Node.cons
  split
  · exact h
  · rename_i s t rest hs
    obtain ⟨-, hhead, hrest⟩ := joined_cons_iff.mp h
    refine joined_cons_iff.mpr ⟨fun hnil => ?_, fun _ t' _ => hhead t t' rfl, hrest⟩
    exact hs (List.append_eq_nil_iff.mp (Node.text.inj hnil)).1
  · rename_i hnil hboth
    refine joined_cons_iff.mpr ⟨hnil, fun s t hs hhead => ?_, h⟩
    obtain ⟨rest, hnodes⟩ := List.head?_eq_some_iff.mp hhead
    exact hboth s t rest hs hnodes

/-- Siblings are joined. -/
theorem joined_siblings (nodes : List Node) : Joined (siblings nodes) := by
  induction nodes with
  | nil => exact joined_nil
  | cons node rest ih => exact ih.cons node

/-- What holds of texts and of some nodes holds of them as siblings. -/
theorem forall_mem_siblings {P : Node → Prop} (text : ∀ s, P (.text s)) {nodes : List Node}
    (h : ∀ node ∈ nodes, P node) : ∀ node ∈ siblings nodes, P node := by
  have hcons : ∀ {node rest}, P node → (∀ other ∈ rest, P other) → ∀ other ∈ cons node rest, P other := by
    intro node rest hnode hrest
    unfold cons
    split
    · exact hrest
    · exact List.forall_mem_cons.mpr ⟨text _, fun other hother => hrest other (List.mem_cons_of_mem _ hother)⟩
    · exact List.forall_mem_cons.mpr ⟨hnode, hrest⟩
  induction nodes with
  | nil => exact nofun
  | cons node rest ih =>
    rw [List.forall_mem_cons] at h
    exact hcons h.1 (ih h.2)

/-! ## Normal nodes -/

/-- Whether a node and all that is in it are in normal form. -/
inductive Normal : Node → Prop
  | text (s : Text) : Normal (.text s)
  /-- An element without a close tag. -/
  | bare (tag : OpenTag) : Normal (.element tag [] none)
  | ended {tag : OpenTag} {children : List Node} (closer : Text) :
      tag.name.lower ∉ Markup.rawTextNames → Joined children → (∀ node ∈ children, Normal node) →
      Normal (.element tag children (some closer))
  /-- An element with raw text, up to the first close tag of its name. -/
  | rawText {tag : OpenTag} {body closer : Text} :
      tag.name.lower ∈ Markup.rawTextNames → Markup.rawBody? tag.name (body ++ closer) = some (body, closer, []) →
      Normal (.element tag (siblings [.text body]) (some closer))

theorem Normal.children {tag : OpenTag} {children : List Node} {closing : Option Text}
    (h : Normal (.element tag children closing)) : ∀ child ∈ children, Normal child := by
  cases h with
  | bare _ => exact nofun
  | ended _ _ _ hchildren => exact hchildren
  | @rawText _ body _ _ _ => exact forall_mem_siblings .text (List.forall_mem_singleton.mpr (.text body))

/-- Whether a node is among some nodes or in one of them, with the text `before` in front of it and `after` behind
it. -/
inductive Occurs (node : Node) : Text → List Node → Text → Prop
  | sibling (front back : List Node) : Occurs node (sources front) (front ++ node :: back) (sources back)
  | inside {before after : Text} {children : List Node} (front back : List Node) (tag : OpenTag)
      (closing : Option Text) : Occurs node before children after →
      Occurs node (sources front ++ tag.source ++ before) (front ++ .element tag children closing :: back)
        (after ++ closing.getD [] ++ sources back)

section

variable {node : Node} {before after : Text} {nodes : List Node}

theorem Occurs.sources_eq (h : Occurs node before nodes after) : sources nodes = before ++ node.source ++ after := by
  induction h with
  | sibling front back => rw [sources_append, sources, List.append_assoc]
  | inside front back tag closing _ ih =>
    rw [sources_append, sources, source, ih]
    simp only [List.append_assoc]

theorem Normal.of_occurs (h : Occurs node before nodes after) (hnormal : ∀ other ∈ nodes, Normal other) :
    Normal node := by
  induction h with
  | sibling front back => exact hnormal node (List.mem_append_right _ List.mem_cons_self)
  | @inside _ _ children front back tag closing _ ih =>
    have hparent := hnormal (.element tag children closing) (List.mem_append_right _ List.mem_cons_self)
    exact ih hparent.children

end

theorem siblings_text (s : Text) : s = [] ∧ siblings [.text s] = [] ∨ s ≠ [] ∧ siblings [.text s] = [.text s] := by
  cases s with
  | nil => exact .inl ⟨rfl, rfl⟩
  | cons c s => exact .inr ⟨List.cons_ne_nil c s, rfl⟩

end Node

/-! ## Trees under construction -/

namespace Markup

namespace Assembly

/-- Whether a tree has only nodes in normal form, and no open element whose body would be raw text will be closed in
the text that is left. -/
structure Sound (a : Assembly) (s : Text) : Prop where
  normal : ∀ node ∈ a.all, node.Normal
  unended : ∀ frame ∈ a.frames, frame.tag.name.lower ∈ rawTextNames → Unended frame.tag.name (pieces s)

variable {a : Assembly} {s : Text}

theorem Sound.cons (h : a.Sound s) {node : Node} (hnode : node.Normal) : Sound ⟨node :: a.nodes, a.frames⟩ s where
  normal := by
    rw [all_cons, List.forall_mem_append, List.forall_mem_singleton]
    exact ⟨h.normal, hnode⟩
  unended := h.unended

theorem Sound.opening (h : a.Sound s) {tag : OpenTag}
    (htag : tag.name.lower ∈ rawTextNames → Unended tag.name (pieces s)) : (a.add (.opening tag)).Sound s where
  normal := by
    rw [all_opening, List.forall_mem_append, List.forall_mem_singleton]
    exact ⟨h.normal, .bare tag⟩
  unended := List.forall_mem_cons.mpr ⟨htag, h.unended⟩

theorem Sound.close (h : a.Sound s) {name : Text}
    (hname : ∀ frame ∈ a.frames, frame.tag.isCalled name = true → frame.tag.name.lower ∉ rawTextNames)
    (source : Text) : (a.close name source).Sound s := by
  rcases close_cases a name source with ⟨-, hclose⟩ | ⟨unended, frame, outer, hframes, -, hcalled, hclose⟩
  · rw [hclose]
    exact h.cons (.text source)
  · have hnormal := h.normal
    -- what stands behind the tag of the element becomes its children
    rw [all_of_frames hframes, List.forall_mem_append, List.forall_mem_append] at hnormal
    obtain ⟨houter, -, hinside⟩ := hnormal
    have hsub : ∀ f ∈ frame :: outer, f ∈ a.frames := fun f hf => hframes ▸ List.mem_append_right _ hf
    have hrest : Sound ⟨frame.earlier, outer⟩ s :=
      ⟨houter, fun f hf => h.unended f (hsub f (List.mem_cons_of_mem _ hf))⟩
    rw [hclose]
    refine hrest.cons (.ended source (hname frame (hsub frame List.mem_cons_self) hcalled) ?_ ?_)
    · exact Node.joined_siblings _
    · exact Node.forall_mem_siblings .text hinside

/-- A piece keeps a tree sound for the text behind it. -/
theorem Sound.add_first {c : CodePoint} {rest : Text} (h : a.Sound (c :: rest)) :
    (a.add (first c rest).1).Sound (first c rest).2 := by
  have hpieces := pieces_cons c rest
  have hlater : a.Sound (first c rest).2 := by
    refine ⟨h.normal, fun frame hframe hraw n source hmem => ?_⟩
    exact h.unended frame hframe hraw n source (hpieces ▸ List.mem_cons_of_mem _ hmem)
  rcases first_cases c rest with ⟨s, hfirst⟩ | ⟨n, source, after, -, hfirst⟩ | ⟨tag, after, -, hfirst⟩
  · rw [hfirst]
    exact hlater.cons (.text s)
  · rw [hfirst] at hpieces hlater ⊢
    -- the tag was left for all that was open, so it ends no element whose body would be raw text
    refine hlater.close (fun frame hframe hcalled hraw => ?_) source
    have hmem : Piece.closing n source ∈ pieces (c :: rest) := hpieces ▸ List.mem_cons_self
    exact h.unended frame hframe hraw n source hmem (beq_iff_eq.mp hcalled).symm
  · rw [hfirst] at hlater ⊢
    rcases opened_cases tag after with hopened | ⟨hraw, body, closer, more, hbody, hopened⟩ | ⟨hunraw, hopened⟩
    · rw [hopened] at hlater ⊢
      exact hlater.cons (.bare tag)
    · rw [hopened] at hlater ⊢
      exact hlater.cons (.rawText hraw (rawBody?_append hbody))
    · rw [hopened] at hlater ⊢
      exact hlater.opening fun hraw => unended_of_rawBody? hraw (hunraw hraw)

theorem sound_read (s : Text) : (empty.read s).Sound [] :=
  read_induction (motive := Sound) (fun _ _ _ => Sound.add_first) empty s ⟨nofun, nofun⟩

end Assembly

theorem normal_of_mem_parse {source : Text} : ∀ node ∈ parse source, node.Normal :=
  Node.forall_mem_siblings .text (Assembly.sound_read source).normal

/-- A raw text is interpolated, whatever the directives, and that evaluates its expressions and does nothing else. -/
theorem renderNodes_siblings_text (directives : List Directive) (expand : Text → Context → Rendering Text) (s : Text)
    (ctx : Context) :
    renderNodes directives expand (Node.siblings [.text s]) ctx = interpolate s ctx ∧
      ∀ event ∈ (interpolate s ctx).trace, event = .counted ∨ event.isEvaluated = true := by
  constructor
  · rcases Node.siblings_text s with ⟨rfl, hnil⟩ | ⟨-, hs⟩
    · rw [hnil]
      rfl
    · simp only [hs, renderNodes, renderNode, Traced.map_done, List.append_nil, Traced.andThen_done]
  · have hensures : (interpolate s ctx).Ensures (fun event => event = .counted ∨ event.isEvaluated = true)
        fun _ => True :=
      ensures_interpolate (.inl rfl) (fun _ _ => .inr rfl) (fun _ => trivial) (fun _ => trivial) s ctx
    exact hensures.events

/-- **The normal form of trees.** In the tree of a source no text is empty and no two texts are neighbours. The same
holds of the children of every element in it, wherever it stands in the source. An element without a close tag has no
children. An element whose name is that of a raw text has no close tag, or what is in it is the text from its open tag
to the first close tag of its name; no directive in that text does anything, for it is only interpolated. -/
theorem parse_normal (source : Text) :
    Node.Joined (parse source) ∧
      ∀ before tag children closing after, Node.Occurs (.element tag children closing) before (parse source) after →
        Node.Joined children ∧ (closing = none → children = []) ∧
          (tag.name.lower ∈ rawTextNames → closing = none ∧ children = [] ∨
            ∃ body closer, closing = some closer ∧
              (body = [] ∧ children = [] ∨ body ≠ [] ∧ children = [.text body]) ∧
              source = before ++ (tag.source ++ body ++ closer) ++ after ∧
              rawBody? tag.name (body ++ closer) = some (body, closer, []) ∧
              ∀ directives expand ctx, renderNodes directives expand children ctx = interpolate body ctx ∧
                ∀ event ∈ (interpolate body ctx).trace, event = .counted ∨ event.isEvaluated = true) := by
  refine ⟨Node.joined_siblings _, fun before tag children closing after hoccurs => ?_⟩
  have hsource : source = before ++ (Node.element tag children closing).source ++ after := by
    rw [← hoccurs.sources_eq, sources_parse]
  cases Node.Normal.of_occurs hoccurs normal_of_mem_parse with
  | bare _ => exact ⟨Node.joined_nil, fun _ => rfl, fun _ => .inl ⟨rfl, rfl⟩⟩
  | ended closer hraw hjoined _ => exact ⟨hjoined, nofun, fun h => absurd h hraw⟩
  | @rawText _ body closer hraw hbody =>
    have hwritten : (Node.element tag (Node.siblings [.text body]) (some closer)).source =
        tag.source ++ body ++ closer := by
      rw [Node.source, Node.sources_siblings]
      simp [Node.sources, Node.source]
    rw [hwritten] at hsource
    exact ⟨Node.joined_siblings _, nofun, fun _ => .inr ⟨body, closer, rfl, Node.siblings_text body, hsource, hbody,
      fun directives expand => renderNodes_siblings_text directives expand body⟩⟩

/-- A style sheet in a paragraph, and a title that nothing ends. -/
def styledPage : Text := "<p><Style><b x-if></STYLE ></p><title>a".text

/-- The tag of the paragraph. -/
def paragraphTag : OpenTag := ⟨['p'], [], "<p>".text, false⟩

/-- The tag of the style sheet. -/
def styleTag : OpenTag := ⟨"Style".text, [], "<Style>".text, false⟩

/-- The tag of the title. -/
def titleTag : OpenTag := ⟨"title".text, [], "<title>".text, false⟩

theorem parse_normal_styled :
    Node.Occurs (.element styleTag [.text "<b x-if>".text] (some "</STYLE >".text)) "<p>".text (parse styledPage)
        "</p><title>a".text ∧
      ∀ directives expand ctx, renderNodes directives expand [.text "<b x-if>".text] ctx =
        interpolate "<b x-if>".text ctx := by
  have hpieces : pieces styledPage = [.opening paragraphTag, .rawText styleTag "<b x-if>".text "</STYLE >".text,
      .closing ['p'] "</p>".text, .opening titleTag, .text ['a']] := by decide +kernel
  have hparse : parse styledPage =
      [.element paragraphTag [.element styleTag [.text "<b x-if>".text] (some "</STYLE >".text)]
        (some "</p>".text), .element titleTag [] none, .text ['a']] := by
    rw [parse, hpieces]
    rfl
  have hoccurs : Node.Occurs (.element styleTag [.text "<b x-if>".text] (some "</STYLE >".text)) "<p>".text
      (parse styledPage) "</p><title>a".text := by
    have hinside := Node.Occurs.inside [] [.element titleTag [] none, .text ['a']] paragraphTag (some "</p>".text)
      (.sibling [] [] : Node.Occurs (.element styleTag [.text "<b x-if>".text] (some "</STYLE >".text)) _ _ _)
    simpa [hparse, Node.sources, Node.source, paragraphTag, titleTag, String.text] using hinside
  obtain ⟨-, -, hraw⟩ := (parse_normal styledPage).2 _ _ _ _ _ hoccurs
  refine ⟨hoccurs, fun directives expand ctx => ?_⟩
  rcases hraw (by decide +kernel) with ⟨hnone, -⟩ | ⟨body, closer, -, ⟨-, hchildren⟩ | ⟨-, hchildren⟩, -, -, hrender⟩
  · cases hnone
  · cases hchildren
  · obtain rfl : "<b x-if>".text = body := by cases hchildren; rfl
    exact (hrender directives expand ctx).1

end Markup

end HtmlTemplate
