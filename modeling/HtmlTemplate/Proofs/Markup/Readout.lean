import HtmlTemplate.Markup.Node
import Mathlib.Data.List.TakeDrop
import Mathlib.Data.List.TakeWhile

/-!
# Reading a tree out

How a tree was written and which tags it has is read out of its nodes one after the other. In a readout the children of
an element stand between its tags, a close tag reads like a text, and texts read the same when they are joined
(`Node.Readout`). Whatever a piece ends or abandons, it is read out behind the pieces before it (`Readout.add`), so a
tree reads like the pieces that it was made from, none of them inside of another (`Readout.parse`).
-/

namespace HtmlTemplate

/-- A list that is read out of nodes, one after the other. -/
structure Node.Readout {α : Type} (out : List Node → List α) : Prop where
  append : ∀ front back, out (front ++ back) = out front ++ out back
  siblings : ∀ nodes, out (Node.siblings nodes) = out nodes
  ended : ∀ tag children closer,
    out [.element tag children (some closer)] = out ([.element tag [] none] ++ children ++ [.text closer])

/-- The nodes of a piece side by side: a tag without children, a text for a close tag. -/
def Piece.nodes : Piece → List Node
  | .text s => [.text s]
  | .opening tag => [.element tag [] none]
  | .leaf tag => [.element tag [] none]
  | .rawText tag body closer => [.element tag [] none, .text body, .text closer]
  | .closing _ source => [.text source]

namespace Markup

/-! ## Abandoned elements -/

namespace Assembly

/-- The nodes of the innermost element stay in front of what its abandonment uncovers. -/
theorem abandon_append (front nodes : List Node) (frames : List Frame) :
    abandon (front ++ nodes) frames = front ++ abandon nodes frames := by
  induction frames generalizing nodes with
  | nil => rfl
  | cons frame frames ih =>
    have h := ih (nodes ++ .element frame.tag [] none :: frame.earlier)
    simpa only [abandon, List.foldl_cons, List.append_assoc] using h

/-- To abandon an element and those around it is to open up its frame and to abandon the rest. -/
theorem abandon_cons (nodes : List Node) (frame : Frame) (frames : List Frame) :
    abandon nodes (frame :: frames) = nodes ++ .element frame.tag [] none :: abandon frame.earlier frames := by
  show abandon (nodes ++ .element frame.tag [] none :: frame.earlier) frames = _
  rw [abandon_append, ← List.singleton_append, abandon_append, List.singleton_append]

/-- Frames are abandoned from the inside to the outside. -/
theorem abandon_frames_append (nodes : List Node) (inner outer : List Frame) :
    abandon nodes (inner ++ outer) = abandon (abandon nodes inner) outer := by
  simp only [abandon, List.foldl_append]

/-- The nodes in order, as they are if nothing follows. -/
def all (a : Assembly) : List Node := (abandon a.nodes a.frames).reverse

theorem all_cons (node : Node) (nodes : List Node) (frames : List Frame) :
    all ⟨node :: nodes, frames⟩ = all ⟨nodes, frames⟩ ++ [node] := by
  have h : abandon (node :: nodes) frames = node :: abandon nodes frames := abandon_append [node] nodes frames
  simp only [all, h, List.reverse_cons]

theorem all_opening (a : Assembly) (tag : OpenTag) :
    all (a.add (.opening tag)) = a.all ++ [.element tag [] none] := by
  rw [add, all, abandon_cons]
  simp [all]

/-- An open element stands behind what is in front of it, and what is inside of it behind its tag. -/
theorem all_of_frames {a : Assembly} {inner outer : List Frame} {frame : Frame}
    (h : a.frames = inner ++ frame :: outer) :
    a.all = all ⟨frame.earlier, outer⟩ ++ ([.element frame.tag [] none] ++ (abandon a.nodes inner).reverse) := by
  rw [all, h, abandon_frames_append, abandon_cons]
  simp [all]

/-- A close tag is a text if no open element has its name, and else it ends the innermost one that has. -/
theorem close_cases (a : Assembly) (name source : Text) :
    ((∀ frame ∈ a.frames, frame.tag.isCalled name = false) ∧
      a.close name source = ⟨.text source :: a.nodes, a.frames⟩) ∨
    ∃ unended frame outer, a.frames = unended ++ frame :: outer ∧
      (∀ inner ∈ unended, inner.tag.isCalled name = false) ∧ frame.tag.isCalled name = true ∧
      a.close name source =
        ⟨.element frame.tag (Node.siblings (abandon a.nodes unended).reverse) (some source) :: frame.earlier,
          outer⟩ := by
  have hsplit := List.takeWhile_append_dropWhile (p := fun frame : Frame => !frame.tag.isCalled name) (l := a.frames)
  have hunended : ∀ frame ∈ a.frames.takeWhile fun frame => !frame.tag.isCalled name,
      frame.tag.isCalled name = false := fun frame hframe => by simpa using List.mem_takeWhile_imp hframe
  unfold Assembly.close
  rw [List.span_eq_takeWhile_dropWhile]
  cases hdrop : a.frames.dropWhile fun frame => !frame.tag.isCalled name with
  | nil =>
    rw [hdrop, List.append_nil] at hsplit
    rw [hsplit] at hunended
    exact .inl ⟨hunended, rfl⟩
  | cons frame outer =>
    have hcalled := List.head?_dropWhile_not (fun frame : Frame => !frame.tag.isCalled name) a.frames
    rw [hdrop] at hcalled hsplit
    exact .inr ⟨_, frame, outer, hsplit.symm, hunended, by simpa using hcalled, rfl⟩

end Assembly

end Markup

/-! ## Pieces one after the other -/

namespace Node.Readout

open Markup Markup.Assembly

variable {α : Type} {out : List Node → List α} (R : Node.Readout out)

include R

theorem nil : out [] = [] := by
  have h : out [] = out [] ++ out [] := R.append [] []
  rwa [List.self_eq_append_right] at h

/-- A close tag is read out behind all that it ends. -/
theorem close (a : Assembly) (name source : Text) :
    out (a.close name source).all = out a.all ++ out [.text source] := by
  rcases close_cases a name source with ⟨-, hclose⟩ | ⟨unended, frame, outer, hframes, -, -, hclose⟩
  · rw [hclose, all_cons, R.append]
  · rw [hclose, all_cons, R.append, R.ended, R.append, R.append, R.siblings, all_of_frames hframes, R.append, R.append]
    simp only [List.append_assoc]

/-- A piece is read out behind what has been read. -/
theorem add (a : Assembly) (piece : Piece) : out (a.add piece).all = out a.all ++ out piece.nodes := by
  cases piece with
  | text s => exact (congrArg out (all_cons _ _ _)).trans (R.append _ _)
  | leaf tag => exact (congrArg out (all_cons _ _ _)).trans (R.append _ _)
  | rawText tag body closer =>
    have hbody : out [.element tag (Node.siblings [.text body]) (some closer)] =
        out [.element tag [] none, .text body, .text closer] := by
      rw [R.ended, R.append, R.append, R.siblings, ← R.append, ← R.append]
      rfl
    rw [Assembly.add, all_cons, R.append, hbody]
    rfl
  | opening tag => exact (congrArg out (all_opening a tag)).trans (R.append _ _)
  | closing name source => exact R.close a name source

/-- Some pieces are read out behind what has been read, one after the other. -/
theorem foldl_add (ps : List Piece) (a : Assembly) :
    out (ps.foldl Assembly.add a).all = out a.all ++ out (ps.flatMap Piece.nodes) := by
  induction ps generalizing a with
  | nil => rw [List.flatMap_nil, R.nil, List.append_nil, List.foldl_nil]
  | cons piece ps ih => rw [List.foldl_cons, ih, R.add, List.flatMap_cons, R.append, List.append_assoc]

/-- A tree reads like its pieces, none of them inside of another. -/
theorem parse (source : Text) : out (Markup.parse source) = out ((pieces source).flatMap Piece.nodes) := by
  have hempty : out Assembly.empty.all = [] := R.nil
  calc out (Markup.parse source) = out ((pieces source).foldl Assembly.add Assembly.empty).all := R.siblings _
    _ = out ((pieces source).flatMap Piece.nodes) := by rw [R.foldl_add, hempty, List.nil_append]

end Node.Readout

end HtmlTemplate
