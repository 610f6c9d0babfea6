import HtmlTemplate.Proofs.Markup.Lossless
import HtmlTemplate.Proofs.Markup.Reader

/-!
# The texts of a tree

A tree, written down in order, is a sequence of parts: tags, and the texts between them (`Node.partsOf`). Each piece
that is added to a tree comes behind what has been read, and a piece of text comes as text (`adds_add`); so where the
reader meets a text in a source, a text of the tree goes through that place (`exists_text_parse`). No two texts of a
tree are neighbours, for the nodes of a source are joined when they are finished (`Node.partsOf_siblings`).
-/

namespace HtmlTemplate

/-- A part of a source: a text of its tree, or a tag. -/
inductive Part where
  | text (s : Text)
  | tag (source : Text)
  deriving DecidableEq, Repr

namespace Part

/-- How a part was written. -/
def source : Part → Text
  | .text s => s
  | .tag source => source

/-- How some parts were written, one after the other. -/
def sources (parts : List Part) : Text := parts.flatMap source

/-- A part in front of others: an empty text vanishes, and a text joins a text that follows. -/
def cons : Part → List Part → List Part
  | .text [], rest => rest
  | .text s, .text t :: rest => .text (s ++ t) :: rest
  | part, rest => part :: rest

/-- Some parts with neighbouring texts joined. -/
def join (parts : List Part) : List Part := parts.foldr cons []

theorem sources_append (front back : List Part) : sources (front ++ back) = sources front ++ sources back :=
  List.flatMap_append

theorem sources_cons (part : Part) (rest : List Part) : sources (part :: rest) = part.source ++ sources rest := rfl

theorem join_cons (part : Part) (rest : List Part) : join (part :: rest) = cons part (join rest) := rfl

@[simp] theorem cons_tag (source : Text) (rest : List Part) : cons (.tag source) rest = .tag source :: rest := by
  cases rest <;> rfl

@[simp] theorem cons_text_nil (rest : List Part) : cons (.text []) rest = rest := by cases rest <;> rfl

theorem cons_text_tag {s : Text} (hs : s ≠ []) (source : Text) (rest : List Part) :
    cons (.text s) (.tag source :: rest) = .text s :: .tag source :: rest := by
  cases s with
  | nil => exact absurd rfl hs
  | cons c s => rfl

@[simp] theorem cons_text_text (s t : Text) (rest : List Part) :
    cons (.text s) (.text t :: rest) = .text (s ++ t) :: rest := by cases s <;> rfl

theorem sources_join_cons (part : Part) (rest : List Part) :
    sources (cons part rest) = part.source ++ sources rest := by
  unfold cons
  split <;> simp [sources, source]

theorem sources_join (parts : List Part) : sources (join parts) = sources parts := by
  induction parts with
  | nil => rfl
  | cons part rest ih => rw [join_cons, sources_join_cons, ih, sources_cons]

/-- Two texts may be joined before they are put in front of others. -/
theorem cons_cons_text (s t : Text) (rest : List Part) :
    cons (.text s) (cons (.text t) rest) = cons (.text (s ++ t)) rest := by
  cases s with
  | nil => simp
  | cons c s =>
    cases t with
    | nil => simp
    | cons d t =>
      cases rest with
      | nil => rfl
      | cons part rest => cases part <;> simp [cons]

/-- What is joined may be joined again with what follows it. -/
theorem join_join_append (front back : List Part) : join (join front ++ back) = join (front ++ back) := by
  have hcons : ∀ (part : Part) (parts : List Part),
      join (cons part parts ++ back) = cons part (join (parts ++ back)) := by
    intro part parts
    cases part with
    | tag source => simp [join_cons]
    | text s =>
      cases parts with
      | nil => cases s <;> simp [cons, join_cons]
      | cons next parts =>
        cases next with
        | tag source => cases s <;> simp [cons, join_cons]
        | text t => simp [join_cons, cons_cons_text]
  induction front with
  | nil => rfl
  | cons part rest ih => rw [join_cons, hcons, ih, List.cons_append, join_cons]

theorem join_join (parts : List Part) : join (join parts) = join parts := by
  simpa using join_join_append parts []

/-- Nothing is joined across a tag. -/
theorem join_append_tag (front back : List Part) (source : Text) :
    join (front ++ .tag source :: back) = join front ++ .tag source :: join back := by
  have hcons : ∀ (part : Part) (parts : List Part),
      cons part (parts ++ .tag source :: join back) = cons part parts ++ .tag source :: join back := by
    intro part parts
    cases part with
    | tag _ => simp
    | text s =>
      cases s with
      | nil => simp
      | cons c s => cases parts with
        | nil => rfl
        | cons next parts => cases next <;> rfl
  induction front with
  | nil => exact cons_tag source (join back)
  | cons part rest ih => rw [List.cons_append, join_cons, ih, hcons, join_cons]

/-- Joining keeps every text, as a part of a longer text maybe. -/
theorem exists_text_join (front back : List Part) {s : Text} (hs : s ≠ []) :
    ∃ (before after : List Part) (left right : Text),
      join (front ++ .text s :: back) = before ++ .text (left ++ (s ++ right)) :: after ∧
        sources before ++ left = sources front ∧ right ++ sources after = sources back := by
  induction front with
  | nil =>
    rw [List.nil_append, join_cons, ← sources_join back]
    cases join back with
    | nil => exact ⟨[], [], [], [], by cases s <;> simp_all [cons], rfl, rfl⟩
    | cons next rest =>
      cases next with
      | tag source => exact ⟨[], .tag source :: rest, [], [], by simp [cons_text_tag hs], rfl, rfl⟩
      | text t => exact ⟨[], rest, [], t, by simp, rfl, rfl⟩
  | cons part front ih =>
    obtain ⟨before, after, left, right, hjoin, hfront, hback⟩ := ih
    rw [List.cons_append, join_cons, hjoin, sources_cons, ← hfront]
    cases part with
    | tag source =>
      exact ⟨.tag source :: before, after, left, right, by simp, by simp [sources_cons, Part.source], hback⟩
    | text t =>
      cases before with
      | nil => exact ⟨[], after, t ++ left, right, by simp, by simp [sources, source], hback⟩
      | cons next before =>
        refine ⟨cons (.text t) (next :: before), after, left, right, ?_, ?_, hback⟩
        · cases t <;> cases next <;> rfl
        · rw [sources_join_cons, List.append_assoc]

end Part

namespace Node

mutual

/-- The parts of a node, in order. -/
def parts : Node → List Part
  | .text s => [.text s]
  | .element tag children closing => .tag tag.source :: (partsOf children ++ (closing.map Part.tag).toList)

/-- The parts of some nodes, one after the other. -/
def partsOf : List Node → List Part
  | [] => []
  | node :: rest => parts node ++ partsOf rest

end

theorem partsOf_append (front back : List Node) : partsOf (front ++ back) = partsOf front ++ partsOf back := by
  induction front with
  | nil => rfl
  | cons node front ih => simp [partsOf, ih]

/-- Whether nothing that follows a node joins a text inside of it, and no text inside of it is left to join. -/
def Firm : Node → Prop
  | .text _ => True
  | .element tag children closing => ∀ rest, Part.join (parts (.element tag children closing) ++ rest) =
      parts (.element tag children closing) ++ Part.join rest

/-- The texts of siblings are joined, as their nodes are. -/
theorem partsOf_siblings {nodes : List Node} (h : ∀ node ∈ nodes, node.Firm) :
    partsOf (siblings nodes) = Part.join (partsOf nodes) := by
  induction nodes with
  | nil => rfl
  | cons node rest ih =>
    have ih := ih fun other ho => h other (List.mem_cons_of_mem _ ho)
    have hsiblings : siblings (node :: rest) = cons node (siblings rest) := rfl
    rw [hsiblings, partsOf]
    cases node with
    | element tag children closing =>
      have hfirm : Firm (.element tag children closing) := h _ List.mem_cons_self
      have hcons : cons (.element tag children closing) (siblings rest) =
        .element tag children closing :: siblings rest := by cases siblings rest <;> rfl
      rw [hcons, partsOf, ih, hfirm]
    | text s =>
      have hjoin : Part.join (parts (.text s) ++ partsOf rest) = Part.cons (.text s) (partsOf (siblings rest)) := by
        rw [ih]; rfl
      rw [hjoin]
      cases s with
      | nil => simp [cons]
      | cons c s =>
        cases siblings rest with
        | nil => rfl
        | cons next others => cases next <;> rfl

theorem firm_bare (tag : OpenTag) : Firm (.element tag [] none) := by
  intro rest
  simp [parts, partsOf, Part.join_cons]

/-- An element that has ended is firm. -/
theorem firm_ended (tag : OpenTag) {nodes : List Node} (h : ∀ node ∈ nodes, node.Firm) (closing : Text) :
    Firm (.element tag (siblings nodes) (some closing)) := by
  intro rest
  have hparts : ∀ back, parts (.element tag (siblings nodes) (some closing)) ++ back =
      .tag tag.source :: (Part.join (partsOf nodes) ++ .tag closing :: back) := by
    intro back
    simp [parts, partsOf_siblings h]
  rw [hparts, hparts, Part.join_cons, Part.cons_tag, Part.join_join_append, Part.join_append_tag]

end Node

namespace Markup.Assembly

/-! ## Adding a piece -/

/-- The parts of what has been read. -/
def parts (a : Assembly) : List Part := Node.partsOf (abandon a.nodes a.frames).reverse

/-- Whether all elements that have ended are firm. -/
def Firm (a : Assembly) : Prop := ∀ node ∈ abandon a.nodes a.frames, node.Firm

/-- The assembly `b` has read what `a` has, and `added` after it. -/
structure Adds (a b : Assembly) (added : List Part) : Prop where
  firm : b.Firm
  parts : Part.join b.parts = Part.join (a.parts ++ added)

variable {a : Assembly}

theorem Adds.trans {b c : Assembly} {front back : List Part} (hb : a.Adds b front) (hc : b.Adds c back) :
    a.Adds c (front ++ back) where
  firm := hc.firm
  parts := by
    rw [hc.parts, ← Part.join_join_append, hb.parts, Part.join_join_append, List.append_assoc]

theorem adds_node (ha : a.Firm) {node : Node} (hnode : node.Firm) :
    a.Adds ⟨node :: a.nodes, a.frames⟩ node.parts := by
  have hall : abandon (node :: a.nodes) a.frames = node :: abandon a.nodes a.frames := abandon_append [node] _ _
  constructor
  · intro other ho
    simp only [hall, List.mem_cons] at ho
    rcases ho with rfl | ho
    · exact hnode
    · exact ha other ho
  · simp [parts, hall, Node.partsOf_append, Node.partsOf]

/-- A close tag is a tag if it ends an element, and a text if not. -/
theorem adds_close (ha : a.Firm) (name source : Text) :
    ∃ added, a.Adds (a.close name source) added ∧ Part.sources added = source := by
  rcases close_cases a name source with ⟨-, hclose⟩ | ⟨unended, frame, outer, hf, -, -, hclose⟩
  · rw [hclose]
    exact ⟨_, adds_node ha trivial, by simp [Node.parts, Part.sources, Part.source]⟩
  · rw [hclose]
    have hall : abandon a.nodes a.frames =
        abandon a.nodes unended ++ .element frame.tag [] none :: abandon frame.earlier outer := by
      rw [hf, abandon_frames_append, abandon_cons]
    -- what was inside of the element becomes its children
    have hinside : ∀ node ∈ (abandon a.nodes unended).reverse, node.Firm := by
      intro node hn
      exact ha node (by rw [hall]; exact List.mem_append_left _ (List.mem_reverse.mp hn))
    have houtside : ∀ node ∈ abandon frame.earlier outer, node.Firm := by
      intro node hn
      exact ha node (by rw [hall]; exact List.mem_append_right _ (List.mem_cons_of_mem _ hn))
    have hnew : ∀ element : Node,
        abandon (element :: frame.earlier) outer = element :: abandon frame.earlier outer :=
      fun element => abandon_append [element] _ _
    refine ⟨[.tag source], ⟨?_, ?_⟩, by simp [Part.sources, Part.source]⟩
    · intro node hn
      simp only [hnew, List.mem_cons] at hn
      rcases hn with rfl | hn
      · exact Node.firm_ended _ hinside _
      · exact houtside node hn
    · have hparts : Node.partsOf (Node.siblings (abandon a.nodes unended).reverse) =
          Part.join (Node.partsOf (abandon a.nodes unended).reverse) := Node.partsOf_siblings hinside
      simp only [parts, hall, hnew, List.reverse_cons, List.reverse_append, Node.partsOf_append, Node.partsOf,
        Node.parts, hparts, Option.map_none, Option.map_some, Option.toList_none, Option.toList_some, List.append_nil,
        List.append_assoc, List.cons_append, List.nil_append, Part.join_append_tag, Part.join_join]

/-- A piece comes behind what has been read; a text comes as a text. -/
theorem adds_add (ha : a.Firm) (piece : Piece) :
    ∃ added, a.Adds (a.add piece) added ∧ Part.sources added = piece.source ∧
      ∀ s, piece = .text s → added = [.text s] := by
  cases piece with
  | text s => exact ⟨_, adds_node ha trivial, by simp [Node.parts, Part.sources, Part.source, Piece.source],
      fun t ht => by cases ht; rfl⟩
  | leaf tag =>
    exact ⟨_, adds_node ha (Node.firm_bare tag),
      by simp [Node.parts, Node.partsOf, Part.sources, Part.source, Piece.source], fun _ h => by cases h⟩
  | rawText tag body closer =>
    have hfirm : ∀ node ∈ [Node.text body], node.Firm := by simp [Node.Firm]
    refine ⟨_, adds_node ha (Node.firm_ended tag hfirm closer), ?_, fun _ h => by cases h⟩
    have hbody : Part.sources (Node.partsOf (Node.siblings [.text body])) = body := by
      rw [Node.partsOf_siblings hfirm, Part.sources_join]
      simp [Node.partsOf, Node.parts, Part.sources, Part.source]
    simp only [Node.parts, Part.sources_cons, Part.sources_append, hbody]
    simp [Part.sources, Part.source, Piece.source]
  | opening tag =>
    have hall : abandon [] (⟨tag, a.nodes⟩ :: a.frames) = .element tag [] none :: abandon a.nodes a.frames :=
      abandon_cons _ _ _
    refine ⟨[.tag tag.source], ⟨?_, ?_⟩, by simp [Part.sources, Part.source, Piece.source], fun _ h => by cases h⟩
    · intro node hn
      simp only [add, hall, List.mem_cons] at hn
      rcases hn with rfl | hn
      · exact Node.firm_bare tag
      · exact ha node hn
    · simp [parts, add, hall, Node.partsOf_append, Node.partsOf, Node.parts]
  | closing name source =>
    obtain ⟨added, hadds, hsource⟩ := adds_close ha name source
    exact ⟨added, hadds, hsource, fun _ h => by cases h⟩

/-- Some pieces come behind what has been read, one after the other. -/
theorem adds_foldl_add (ps : List Piece) (ha : a.Firm) :
    ∃ added, a.Adds (ps.foldl add a) added ∧ Part.sources added = ps.flatMap Piece.source := by
  induction ps generalizing a with
  | nil => exact ⟨[], ⟨ha, by simp⟩, rfl⟩
  | cons piece ps ih =>
    obtain ⟨front, hfront, hs, -⟩ := adds_add ha piece
    obtain ⟨back, hback, ht⟩ := ih hfront.firm
    exact ⟨front ++ back, hfront.trans hback, by rw [Part.sources_append, hs, ht, List.flatMap_cons]⟩

theorem partsOf_finish (ha : a.Firm) : Node.partsOf a.finish = Part.join a.parts :=
  Node.partsOf_siblings fun node hn => ha node (List.mem_reverse.mp hn)

end Markup.Assembly

/-! ## The texts of a source -/

namespace Markup

open Assembly in
/-- Where the reader meets a text in a source, a text of the tree goes through that place: what it has in front of the
place is the end of what has been read, and what it has from there on is the front of what is left. -/
theorem exists_text_parse {source : Text} {read : List Piece} {c : CodePoint} {rest : Text} {s : Text}
    (h : Stands source read (c :: rest)) (hs : (first c rest).1 = .text s) :
    ∃ (before after : List Part) (left right : Text),
      Node.partsOf (parse source) = before ++ .text (left ++ (s ++ right)) :: after ∧
        Part.sources before ++ left = read.flatMap Piece.source ∧
          s ++ right ++ Part.sources after = c :: rest := by
  have hne : s ≠ [] := by
    have := first_source_ne_nil c rest
    rwa [hs] at this
  have hempty : Assembly.empty.Firm := fun node hn => by cases hn
  obtain ⟨front, hfront, hread⟩ := adds_foldl_add read hempty
  obtain ⟨middle, hmiddle, -, htext⟩ := adds_add hfront.firm (.text s)
  obtain ⟨back, hback, hleft⟩ := adds_foldl_add (pieces (first c rest).2) hmiddle.firm
  cases htext s rfl
  have hparts : Node.partsOf (parse source) = Part.join (front ++ .text s :: back) := by
    have hpieces : pieces source = read ++ .text s :: pieces (first c rest).2 := by
      rw [h.pieces_eq, pieces_cons, hs]
    have hall := (hfront.trans hmiddle).trans hback
    rw [parse, hpieces, List.foldl_append, List.foldl_cons, partsOf_finish hall.firm, hall.parts, List.append_assoc]
    rfl
  obtain ⟨before, after, left, right, hjoin, hbefore, hafter⟩ := Part.exists_text_join front back hne
  refine ⟨before, after, left, right, hparts.trans hjoin, hbefore.trans hread, ?_⟩
  have hsource := source_first c rest
  rw [hs] at hsource
  rw [List.append_assoc, hafter, hleft, source_pieces]
  exact hsource

end Markup

end HtmlTemplate
