import HtmlTemplate.Proofs.Markup.Readout

/-!
# The tree of a source loses nothing

How a tree was written is a readout of it (`Node.readout_sources`): every piece that is added to a tree is written
behind what has been read, whatever the piece ends or abandons. So the tree of a source, written down again, is the
source (`sources_parse`).
-/

namespace HtmlTemplate

theorem Node.readout_sources : Node.Readout Node.sources where
  append := sources_append
  siblings := sources_siblings
  ended tag children closer := by
    simp only [sources_append, sources, source, Option.getD_some, Option.getD_none, List.append_nil]

namespace Markup

namespace Assembly

/-- What an assembly has read. -/
def written (a : Assembly) : Text := Node.sources a.all

/-- Some pieces are written behind what has been read, one after the other. -/
theorem written_foldl_add (ps : List Piece) (a : Assembly) :
    (ps.foldl add a).written = a.written ++ ps.flatMap Piece.source := by
  have hpieces : ∀ ps : List Piece, Node.sources (ps.flatMap Piece.nodes) = ps.flatMap Piece.source := by
    intro ps
    induction ps with
    | nil => rfl
    | cons piece ps ih =>
      rw [List.flatMap_cons, Node.sources_append, ih, List.flatMap_cons]
      cases piece <;> simp [Piece.nodes, Piece.source, Node.sources, Node.source]
  rw [written, Node.readout_sources.foldl_add, hpieces]
  rfl

/-- The finished nodes are what has been read. -/
theorem sources_finish (a : Assembly) : Node.sources a.finish = a.written := Node.sources_siblings _

end Assembly

/-! ## The whole source -/

/-- The nodes of a source, written down in order, are the source. -/
theorem sources_parse (source : Text) : Node.sources (parse source) = source := by
  have h : pieces source = piecesFrom source.length source := rfl
  rw [parse, Assembly.sources_finish, Assembly.written_foldl_add, h, source_piecesFrom]
  rfl

end Markup

end HtmlTemplate
