import HtmlTemplate.Proofs.Markup.Reader
import HtmlTemplate.Proofs.Markup.Readout

/-!
# The tags of a tree

The open tags of a tree, in the order of the source, are those of its pieces (`tagsOf_parse`). So each of them has been
read at some place of the source (`exists_open?_of_mem_tagsOf`), and what the reader of tags ensures holds of every
element of a tree.
-/

namespace HtmlTemplate

namespace Node

mutual

/-- The open tags of a node, in order. -/
def tags : Node → List OpenTag
  | .text _ => []
  | .element tag children _ => tag :: tagsOf children

/-- The open tags of some nodes, one after the other. -/
def tagsOf : List Node → List OpenTag
  | [] => []
  | node :: rest => tags node ++ tagsOf rest

end

theorem tagsOf_append (front back : List Node) : tagsOf (front ++ back) = tagsOf front ++ tagsOf back := by
  induction front with
  | nil => rfl
  | cons node front ih => simp only [List.cons_append, tagsOf, ih, List.append_assoc]

theorem tagsOf_cons (node : Node) (rest : List Node) : tagsOf (cons node rest) = tags node ++ tagsOf rest := by
  unfold cons
  split <;> rfl

theorem tagsOf_siblings (nodes : List Node) : tagsOf (siblings nodes) = tagsOf nodes := by
  induction nodes with
  | nil => rfl
  | cons node rest ih => exact (tagsOf_cons node _).trans (congrArg (tags node ++ ·) ih)

theorem readout_tagsOf : Readout tagsOf where
  append := tagsOf_append
  siblings := tagsOf_siblings
  ended tag children closer := by simp [tagsOf_append, tagsOf, tags]

end Node

namespace Markup

/-- The open tag of the first piece of a text is read at the front of the text. -/
theorem open?_of_mem_first {c : CodePoint} {rest : Text} {tag : OpenTag}
    (h : tag ∈ Node.tagsOf (first c rest).1.nodes) : ∃ after, Tag.open? (c :: rest) = some (tag, after) := by
  rcases first_cases c rest with ⟨s, hfirst⟩ | ⟨name, source, after, -, hfirst⟩ | ⟨t, after, hopen, hfirst⟩
  · rw [hfirst] at h
    cases h
  · rw [hfirst] at h
    cases h
  · have htags : Node.tagsOf (first c rest).1.nodes = [t] := by
      rw [hfirst]
      rcases opened_cases t after with hopened | ⟨-, body, closer, more, -, hopened⟩ | ⟨-, hopened⟩ <;>
        rw [hopened] <;> rfl
    rw [htags, List.mem_singleton] at h
    exact ⟨after, h ▸ hopen⟩

/-- The tags of a tree are those of its pieces, in the order of the source. -/
theorem tagsOf_parse (source : Text) :
    Node.tagsOf (parse source) = Node.tagsOf ((pieces source).flatMap Piece.nodes) := Node.readout_tagsOf.parse source

/-- Every tag of a tree was read at some place of the source. -/
theorem exists_open?_of_mem_tagsOf {source : Text} {tag : OpenTag} (h : tag ∈ Node.tagsOf (parse source)) :
    ∃ s after, s <:+ source ∧ Tag.open? s = some (tag, after) := by
  have hpieces : ∀ ps : List Piece, tag ∈ Node.tagsOf (ps.flatMap Piece.nodes) →
      ∃ piece ∈ ps, tag ∈ Node.tagsOf piece.nodes := by
    intro ps
    induction ps with
    | nil => exact nofun
    | cons piece ps ih =>
      rw [List.flatMap_cons, Node.tagsOf_append, List.mem_append]
      rintro (h | h)
      · exact ⟨piece, List.mem_cons_self, h⟩
      · obtain ⟨found, hfound, h⟩ := ih h
        exact ⟨found, List.mem_cons_of_mem _ hfound, h⟩
  rw [tagsOf_parse] at h
  obtain ⟨piece, hmem, htag⟩ := hpieces _ h
  obtain ⟨c, rest, hsuffix, rfl⟩ := exists_first_of_mem_pieces hmem
  obtain ⟨after, hopen⟩ := open?_of_mem_first htag
  exact ⟨_, after, hsuffix, hopen⟩

end Markup

end HtmlTemplate
