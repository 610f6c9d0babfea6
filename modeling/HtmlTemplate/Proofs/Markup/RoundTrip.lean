import HtmlTemplate.Proofs.Markup.Reader
import HtmlTemplate.Proofs.Markup.WrittenTag
import HtmlTemplate.Proofs.Text.Cut
import Mathlib.Data.List.TakeDrop

/-!
# Well-formed trees are recovered

A forest is well-formed if its texts hold nothing that the reader looks for and no two of them are neighbours, and if
its elements are ordinary ones with their close tag and well-formed children, void ones, or self-closing ones
(`Node.Forest`). Reading the source of such a forest adds its nodes to the tree under construction and leaves the open
elements as they were, whatever follows (`read_forest`): a close tag then ends the element that has just been opened,
also inside of elements of the same name. So the source of a well-formed forest is read back as the forest
(`parse_sources`).
-/

namespace HtmlTemplate

/-! ## Well-formed trees -/

namespace Node

/-- Whether a node is a text. -/
def isText : Node → Bool
  | .text _ => true
  | .element _ _ _ => false

mutual

/-- The nodes that are read back. -/
inductive WellFormed : Node → Prop
  | text {s : Text} : s ≠ [] → ('<' : CodePoint) ∉ s → Text.hasMark Markup.opener s = false → WellFormed (.text s)
  | ordinary {tag : OpenTag} {children : List Node} :
      tag.WellFormed → tag.selfClosing = false → tag.name.lower ∉ Markup.voidNames →
        tag.name.lower ∉ Markup.rawTextNames → Forest children →
          WellFormed (.element tag children (some (Tag.closer tag.name)))
  | void {tag : OpenTag} :
      tag.WellFormed → tag.selfClosing = false → tag.name.lower ∈ Markup.voidNames →
        WellFormed (.element tag [] none)
  | selfClosing {tag : OpenTag} : tag.WellFormed → tag.selfClosing = true → WellFormed (.element tag [] none)

/-- Well-formed nodes, no two texts side by side. -/
inductive Forest : List Node → Prop
  | nil : Forest []
  | cons {node : Node} {rest : List Node} :
      WellFormed node → Forest rest → (node.isText = true → ∀ next ∈ rest.head?, next.isText = false) →
        Forest (node :: rest)

end

/-! ## Texts, letter by letter -/

/-- The reader adds a text to the tree letter by letter. -/
def letters : Node → List Node
  | .text s => s.map fun c => .text [c]
  | .element tag children closing => [.element tag children closing]

theorem cons_letter (c : CodePoint) (s : Text) (rest : List Node) (hs : s ≠ []) :
    cons (.text [c]) (cons (.text s) rest) = cons (.text (c :: s)) rest := by
  obtain ⟨d, s, rfl⟩ := List.exists_cons_of_ne_nil hs
  cases rest with
  | nil => rfl
  | cons next rest => cases next <;> rfl

/-- The letters of a text join to the text. -/
theorem foldr_cons_letters {s : Text} (hs : s ≠ []) (rest : List Node) :
    (letters (.text s)).foldr cons rest = cons (.text s) rest := by
  induction s with
  | nil => exact absurd rfl hs
  | cons c s ih =>
    cases s with
    | nil => rfl
    | cons d s => exact (congrArg (cons (.text [c])) (ih (List.cons_ne_nil d s))).trans (cons_letter c _ rest (by simp))

/-- A node stands as it is in front of siblings that it does not join. -/
theorem cons_of_wellFormed {node : Node} {rest : List Node} (h : node.WellFormed)
    (hnext : node.isText = true → ∀ next ∈ rest.head?, next.isText = false) : cons node rest = node :: rest := by
  cases h with
  | text hs _ _ =>
    obtain ⟨c, s, rfl⟩ := List.exists_cons_of_ne_nil hs
    cases rest with
    | nil => rfl
    | cons next rest =>
      cases next with
      | text t => exact absurd (hnext rfl _ rfl) (by simp [isText])
      | element tag children closing => rfl
  | ordinary => rfl
  | void => rfl
  | selfClosing => rfl

theorem siblings_letters {nodes : List Node} (h : Forest nodes) : siblings (nodes.flatMap letters) = nodes := by
  induction nodes with
  | nil => rfl
  | cons node rest ih =>
    cases h with
    | cons hnode hrest hnext =>
      have hcons : (letters node).foldr cons rest = cons node rest := by
        cases hnode with
        | text hs _ _ => exact foldr_cons_letters hs rest
        | ordinary => rfl
        | void => rfl
        | selfClosing => rfl
      rw [List.flatMap_cons, siblings, List.foldr_append, ← siblings, ih hrest, hcons]
      exact cons_of_wellFormed hnode hnext

end Node

/-! ## Reading a well-formed tree -/

namespace Markup

/-- A letter that begins neither a tag nor an expression is a piece of its own. -/
theorem first_letter {c : CodePoint} {rest : Text} (hc : c ≠ '<') (hp : opener.isPrefixOf? (c :: rest) = none) :
    first c rest = (.text [c], rest) := by
  unfold first
  rw [if_neg hc, hp]

/-- What begins with a letter or a slash is no comment, declaration or instruction. -/
theorem remark?_eq_none {c : CodePoint} (hbang : c ≠ '!') (hmark : c ≠ '?') (rest : Text) :
    remark? ('<' :: c :: rest) = none := by
  simp [remark?, through?, List.isPrefixOf?, hbang.symm, hmark.symm]

namespace Assembly

variable (a : Assembly)

/-- The tree with some more nodes. -/
def push (nodes : List Node) : Assembly := ⟨(nodes.flatMap Node.letters).reverse ++ a.nodes, a.frames⟩

theorem push_cons (node : Node) (rest : List Node) : a.push (node :: rest) = (a.push [node]).push rest := by
  simp [push]

theorem read_text {s : Text} (hlt : ('<' : CodePoint) ∉ s) (hmark : Text.hasMark opener s = false) {tail : Text}
    (ht : ∀ c ∈ tail.head?, c = '<') : a.read (s ++ tail) = (a.push [.text s]).read tail := by
  induction s generalizing a with
  | nil => rfl
  | cons c s ih =>
    obtain ⟨hp, hmark⟩ := Text.hasMark_cons_eq_false_iff.mp hmark
    rw [List.mem_cons, not_or] at hlt
    have hopener : opener.isPrefixOf? (c :: (s ++ tail)) = none := by
      cases s with
      | cons d s => simpa [opener, List.isPrefixOf?] using hp
      | nil =>
        cases tail with
        | nil => simpa using hp
        | cons d tail =>
          obtain rfl : d = '<' := ht d rfl
          simp [opener, List.isPrefixOf?]
    rw [List.cons_append, read_cons, first_letter (Ne.symm hlt.1) hopener, ih _ hlt.2 hmark]
    simp [push, add, Node.letters]

/-- An open tag is read as the piece that it begins. -/
theorem read_open {tag : OpenTag} (h : tag.WellFormed) (after : Text) :
    a.read (tag.source ++ after) = (a.add (opened tag after).1).read (opened tag after).2 := by
  obtain ⟨c, name, hname, hc, -⟩ := h.name
  have hopen := Tag.open?_source h after
  have hslash : c ≠ '/' := by rintro rfl; exact absurd hc (by decide)
  have hremark : ∀ rest, remark? ('<' :: c :: rest) = none := by
    refine remark?_eq_none ?_ ?_
    · rintro rfl; exact absurd hc (by decide)
    · rintro rfl; exact absurd hc (by decide)
  rw [h.source, hname] at hopen ⊢
  simp only [List.cons_append, List.append_assoc] at hopen ⊢
  have hclose : ∀ rest, Tag.close? ('<' :: c :: rest) = none := by
    intro rest
    unfold Tag.close?
    split
    · next heq => cases heq; exact absurd rfl hslash
    · rfl
  rw [read_cons]
  simp only [first, if_true, hremark, hclose, hopen]

/-- A close tag is read as such. -/
theorem read_closer {name : Text} (h : Tag.IsName name) (after : Text) :
    a.read (Tag.closer name ++ after) = (a.close name (Tag.closer name)).read after := by
  have hclose := Tag.close?_closer h after
  simp only [Tag.closer, List.cons_append, List.append_assoc] at hclose ⊢
  rw [read_cons]
  simp only [first, if_true, remark?_eq_none (c := '/') (by decide) (by decide), hclose]
  rfl

/-- The close tag of the element that has just been opened ends it, and its children are the nodes inside. -/
theorem close_push {tag : OpenTag} {children : List Node} (h : Node.Forest children) (source : Text) :
    ((a.add (.opening tag)).push children).close tag.name source =
      a.push [.element tag children (some source)] := by
  have hcalled : tag.isCalled tag.name = true := by simp [OpenTag.isCalled]
  simp [close, push, add, List.span, List.span.loop, hcalled, abandon, Node.siblings_letters h, Node.letters]

end Assembly

/-- A well-formed node begins with a tag unless it is a text. -/
theorem head?_source {node : Node} (h : node.WellFormed) (ht : node.isText = false) (tail : Text) :
    ∀ c ∈ (node.source ++ tail).head?, c = '<' := by
  have hsource : ∀ tag : OpenTag, tag.WellFormed → ∀ s, ∀ c ∈ (tag.source ++ s).head?, c = '<' := by
    intro tag htag s c hc
    rw [htag.source] at hc
    cases hc
    rfl
  cases h with
  | text => cases ht
  | ordinary htag =>
    rw [Node.source, List.append_assoc, List.append_assoc]
    exact hsource _ htag _
  | void htag =>
    rw [Node.source, List.append_assoc, List.append_assoc]
    exact hsource _ htag _
  | selfClosing htag =>
    rw [Node.source, List.append_assoc, List.append_assoc]
    exact hsource _ htag _

mutual

theorem read_node : ∀ (node : Node), node.WellFormed → ∀ (a : Assembly) (tail : Text),
    (node.isText = true → ∀ c ∈ tail.head?, c = '<') → a.read (node.source ++ tail) = (a.push [node]).read tail
  | .text s, h => fun a tail ht => by
    cases h with
    | text _ hlt hmark => exact a.read_text hlt hmark (ht rfl)
  | .element tag children closing, h => fun a tail _ => by
    rw [Node.source, List.append_assoc, List.append_assoc]
    cases h with
    | ordinary htag hself hvoid hraw hchildren =>
      have hopened : ∀ after, opened tag after = (.opening tag, after) := fun after => by
        simp [opened, hself, hvoid, hraw]
      have hcloser : ∀ c ∈ (Tag.closer tag.name ++ tail).head?, c = '<' := fun c hc => by
        cases hc
        rfl
      rw [a.read_open htag, hopened, Option.getD_some, read_forest children hchildren _ _ hcloser,
        Assembly.read_closer _ htag.name, a.close_push hchildren]
    | void htag hself hvoid =>
      have hopened : ∀ after, opened tag after = (.leaf tag, after) := fun after => by simp [opened, hvoid]
      rw [a.read_open htag, hopened]
      rfl
    | selfClosing htag hself =>
      have hopened : ∀ after, opened tag after = (.leaf tag, after) := fun after => by simp [opened, hself]
      rw [a.read_open htag, hopened]
      rfl

/-- A well-formed forest is added to the tree, whatever tag follows it. -/
theorem read_forest : ∀ (nodes : List Node), Node.Forest nodes → ∀ (a : Assembly) (tail : Text),
    (∀ c ∈ tail.head?, c = '<') → a.read (Node.sources nodes ++ tail) = (a.push nodes).read tail
  | [], _ => fun a tail _ => rfl
  | node :: rest, h => fun a tail ht => by
    cases h with
    | cons hnode hrest hnext =>
      have hhead : node.isText = true → ∀ c ∈ (Node.sources rest ++ tail).head?, c = '<' := fun htext => by
        cases hrest with
        | nil => exact ht
        | @cons next rest hwell _ _ =>
          rw [Node.sources, List.append_assoc]
          exact head?_source hwell (hnext htext next rfl) _
      rw [Node.sources, List.append_assoc, read_node node hnode a _ hhead, read_forest rest hrest _ _ ht,
        a.push_cons node rest]

end

/-- **Well-formed trees are recovered.** The source of a well-formed forest is read back as the forest. -/
theorem parse_sources (nodes : List Node) (h : Node.Forest nodes) : parse (Node.sources nodes) = nodes := by
  have hread := read_forest nodes h Assembly.empty [] (by simp)
  rw [List.append_nil, Assembly.read_nil] at hread
  have hparse : parse (Node.sources nodes) = (Assembly.empty.read (Node.sources nodes)).finish := rfl
  rw [hparse, hread]
  simp [Assembly.finish, Assembly.push, Assembly.empty, Assembly.abandon, Node.siblings_letters h]

/-- A tag without attributes. -/
def bareTag (name : Text) : OpenTag := ⟨name, [], ('<' : CodePoint) :: name ++ (['>'] : Text), false⟩

/-- A tag with an attribute that looks like markup and one without a value. -/
def cardTag : OpenTag where
  name := "Card".text
  attributes :=
    [⟨"title".text, some "</div>\x7b\x7b a".text, "title=\"</div>\x7b\x7b a\"".text⟩,
      ⟨"wide".text, none, "wide".text⟩]
  source := "<Card title=\"</div>\x7b\x7b a\" wide/>".text
  selfClosing := true

/-- Elements of one name inside of each other, a void one, a self-closing one, and texts between them. -/
def nestedForest : List Node :=
  let div := bareTag "div".text
  [.element div
    [.element div [.text "a > b".text] (some "</div>".text), .text "\x7b".text, .element cardTag [] none]
    (some "</div>".text),
   .element (bareTag "BR".text) [] none, .text "c".text]

theorem parse_sources_nested :
    Node.Forest nestedForest ∧
      Node.sources nestedForest =
        "<div><div>a > b</div>\x7b<Card title=\"</div>\x7b\x7b a\" wide/></div><BR>c".text ∧
      parse (Node.sources nestedForest) = nestedForest := by
  have htext : ∀ s : Text, s ≠ [] ∧ ('<' : CodePoint) ∉ s ∧ Text.hasMark opener s = false → Node.WellFormed (.text s) :=
    fun s h => .text h.1 h.2.1 h.2.2
  have hdiv : (bareTag "div".text).WellFormed := by
    refine ⟨⟨'d', "iv".text, rfl, by decide, List.all_eq_true.mp (by decide)⟩, by simp [bareTag], rfl⟩
  have hbr : (bareTag "BR".text).WellFormed := by
    refine ⟨⟨'B', "R".text, rfl, by decide, List.all_eq_true.mp (by decide)⟩, by simp [bareTag], rfl⟩
  have hcard : cardTag.WellFormed := by
    refine ⟨⟨'C', "ard".text, rfl, by decide, List.all_eq_true.mp (by decide)⟩, ?_, rfl⟩
    intro a ha
    simp only [cardTag, List.mem_cons, List.not_mem_nil, or_false] at ha
    rcases ha with rfl | rfl
    · exact ⟨by decide, List.all_eq_true.mp (by decide), .inr ⟨_, rfl, by decide, rfl⟩⟩
    · exact ⟨by decide, List.all_eq_true.mp (by decide), .inl ⟨rfl, rfl⟩⟩
  have hinner : Node.WellFormed (.element (bareTag "div".text) [.text "a > b".text] (some "</div>".text)) :=
    .ordinary hdiv rfl (by decide +kernel) (by decide +kernel) (.cons (htext _ (by decide)) .nil (by simp))
  have hchildren : Node.Forest
      [.element (bareTag "div".text) [.text "a > b".text] (some "</div>".text), .text "\x7b".text,
        .element cardTag [] none] :=
    .cons hinner (.cons (htext _ (by decide)) (.cons (.selfClosing hcard rfl) .nil (by simp)) (by simp [Node.isText]))
      (by simp [Node.isText])
  have hforest : Node.Forest nestedForest :=
    .cons (.ordinary hdiv rfl (by decide +kernel) (by decide +kernel) hchildren)
      (.cons (.void hbr rfl (by decide +kernel)) (.cons (htext _ (by decide)) .nil (by simp)) (by simp [Node.isText]))
      (by simp [Node.isText])
  exact ⟨hforest, by decide +kernel, parse_sources nestedForest hforest⟩

end Markup

end HtmlTemplate
