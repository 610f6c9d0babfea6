import HtmlTemplate.Markup.Piece

/-!
# Nodes

The tree of a source: texts, and elements with their children. An element ends at the close tag of its own name. A
close tag that ends nothing is text; an element that nothing ends has no children, and what would have been its
children follows it.
-/

namespace HtmlTemplate

/-- A node of a tree. -/
inductive Node where
  | text (s : Text)
  /-- An element: its open tag, its children, and its close tag if it has one. -/
  | element (tag : OpenTag) (children : List Node) (closing : Option Text)
  deriving Repr

namespace Node

mutual

/-- How a node was written. -/
def source : Node → Text
  | .text s => s
  | .element tag children closing => tag.source ++ sources children ++ closing.getD []

/-- How some nodes were written, one after the other. -/
def sources : List Node → Text
  | [] => []
  | node :: rest => source node ++ sources rest

end

/-- A node in front of its siblings: an empty text vanishes, and a text joins a text that follows. -/
def cons : Node → List Node → List Node
  | .text [], rest => rest
  | .text s, .text t :: rest => .text (s ++ t) :: rest
  | node, rest => node :: rest

/-- Some nodes as siblings, with neighbouring texts joined. -/
def siblings (nodes : List Node) : List Node := nodes.foldr cons []

theorem sources_append (a b : List Node) : sources (a ++ b) = sources a ++ sources b := by
  induction a with
  | nil => simp [sources]
  | cons node a ih => simp [sources, ih]

theorem sources_cons (node : Node) (rest : List Node) : sources (cons node rest) = source node ++ sources rest := by
  unfold cons
  split <;> simp [sources, source]

theorem sources_siblings (nodes : List Node) : sources (siblings nodes) = sources nodes := by
  induction nodes with
  | nil => rfl
  | cons node rest ih => simpa [siblings, sources, sources_cons] using ih

end Node

namespace Markup

/-- An element that is open: its tag, and the nodes in front of it, the latest first. -/
structure Frame where
  tag : OpenTag
  earlier : List Node

/-- A tree under construction: the nodes of the innermost open element, the latest first, and the open elements,
the innermost first. -/
structure Assembly where
  nodes : List Node
  frames : List Frame

namespace Assembly

/-- The tree before its first piece. -/
def empty : Assembly := ⟨[], []⟩

/-- The nodes, the latest first, once some open elements turn out to have no end: each is left without children,
and what is inside follows it. -/
def abandon (nodes : List Node) (frames : List Frame) : List Node :=
  frames.foldl (fun inside frame => inside ++ .element frame.tag [] none :: frame.earlier) nodes

/-- Ends the innermost open element called `name`. -/
def close (a : Assembly) (name source : Text) : Assembly :=
  match a.frames.span (fun frame => !frame.tag.isCalled name) with
  | (_, []) => ⟨.text source :: a.nodes, a.frames⟩
  | (unended, frame :: outer) =>
    let children := Node.siblings (abandon a.nodes unended).reverse
    ⟨.element frame.tag children (some source) :: frame.earlier, outer⟩

/-- Adds a piece to the tree. -/
def add (a : Assembly) : Piece → Assembly
  | .text s => ⟨.text s :: a.nodes, a.frames⟩
  | .leaf tag => ⟨.element tag [] none :: a.nodes, a.frames⟩
  | .rawText tag body closer => ⟨.element tag (Node.siblings [.text body]) (some closer) :: a.nodes, a.frames⟩
  | .opening tag => ⟨[], ⟨tag, a.nodes⟩ :: a.frames⟩
  | .closing name source => a.close name source

/-- The nodes of the tree, in order, when no piece is left. -/
def finish (a : Assembly) : List Node := Node.siblings (abandon a.nodes a.frames).reverse

end Assembly

/-- The nodes of a source. -/
def parse (source : Text) : List Node := ((pieces source).foldl Assembly.add Assembly.empty).finish

end Markup

end HtmlTemplate
