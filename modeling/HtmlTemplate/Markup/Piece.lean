import HtmlTemplate.Markup.Braces
import HtmlTemplate.Text.Fold

/-!
# Pieces of markup

A source is a sequence of pieces: tags, and texts between them. Comments, declarations, instructions and shielded
expressions are text, and so is everything that is no tag. `pieces` cuts a source into its pieces and loses nothing:
the sources of the pieces, one after the other, are the source.
-/

namespace HtmlTemplate

/-- A piece of markup. -/
inductive Piece where
  | text (s : Text)
  /-- An open tag whose element may have children. -/
  | opening (tag : OpenTag)
  /-- An open tag whose element has no children. -/
  | leaf (tag : OpenTag)
  /-- An element whose body is text whatever is in it, up to the close tag. -/
  | rawText (tag : OpenTag) (body closer : Text)
  /-- A close tag: its name, and how it was written. -/
  | closing (name source : Text)
  deriving DecidableEq, Repr

namespace Piece

/-- How a piece was written. -/
def source : Piece → Text
  | .text s => s
  | .opening tag => tag.source
  | .leaf tag => tag.source
  | .rawText tag body closer => tag.source ++ body ++ closer
  | .closing _ source => source

end Piece

namespace Markup

/-- The names of the elements that never have children. -/
def voidNames : List Text :=
  ["area", "base", "br", "col", "embed", "hr", "img", "input", "keygen", "link", "meta", "param", "source", "track",
    "wbr"].map String.text

/-- The names of the elements whose body is text. -/
def rawTextNames : List Text := ["script", "style", "textarea", "title"].map String.text

/-- The text after `name` at the front of a text, in any case of the letters. -/
def afterName? : Text → Text → Option Text
  | [], s => some s
  | _ :: _, [] => none
  | c :: name, d :: s => if sameIgnoringCase c d then afterName? name s else none

/-- The text after the close tag of the element `name` at the front of a text. -/
def afterCloser? (name : Text) : Text → Option Text
  | '<' :: '/' :: s =>
    match afterName? name s with
    | none => none
    | some rest =>
      match rest.dropWhile isBlank with
      | '>' :: after => some after
      | _ => none
  | _ => none

/-- The body in front of the first close tag of the element `name`, that tag, and the text after it. -/
def rawBody? (name : Text) : Text → Option (Text × Text × Text)
  | [] => none
  | c :: rest =>
    match afterCloser? name (c :: rest) with
    | some after => some ([], (c :: rest).take ((c :: rest).length - after.length), after)
    | none => (rawBody? name rest).map fun (body, closing, after) => (c :: body, closing, after)

/-- The text from the front through the first `mark`, once `opening` has been read; and the text after it. -/
def through? (opening mark s : Text) : Option (Text × Text) :=
  match opening.isPrefixOf? s with
  | none => none
  | some inside => (Text.cut? mark inside).map fun (body, after) => (opening ++ body ++ mark, after)

/-- A comment, a declaration or an instruction at the front of a text, and the text after it. -/
def remark? (s : Text) : Option (Text × Text) :=
  (through? ['<', '!', '-', '-'] ['-', '-', '>'] s).or
    ((through? ['<', '!'] ['>'] s).or (through? ['<', '?'] ['?', '>'] s))

/-- What an open tag in front of `after` begins: the piece, and the text after it. -/
def opened (tag : OpenTag) (after : Text) : Piece × Text :=
  if tag.selfClosing || voidNames.contains tag.name.lower then (.leaf tag, after)
  else if rawTextNames.contains tag.name.lower then
    match rawBody? tag.name after with
    | some (body, closing, rest) => (.rawText tag body closing, rest)
    | none => (.opening tag, after)
  else (.opening tag, after)

/-- The first piece of the text that begins with `c`, and the text after it. -/
def first (c : CodePoint) (rest : Text) : Piece × Text :=
  if c = '<' then
    match remark? (c :: rest) with
    | some (source, after) => (.text source, after)
    | none =>
      match Tag.close? (c :: rest) with
      | some (name, source, after) => (.closing name source, after)
      | none =>
        match Tag.open? (c :: rest) with
        | some (tag, after) => opened tag after
        | none => (.text [c], rest)
  else
    match opener.isPrefixOf? (c :: rest) with
    | none => (.text [c], rest)
    | some inside =>
      match shielded? (c :: rest) with
      | some (source, after) => (.text source, after)
      | none => (.text opener, inside)

/-- The pieces of a text, if they are at most `steps`. -/
def piecesFrom : Nat → Text → List Piece
  | _, [] => []
  | 0, c :: rest => [.text (c :: rest)]
  | steps + 1, c :: rest => (first c rest).1 :: piecesFrom steps (first c rest).2

/-- The pieces of a source. -/
def pieces (source : Text) : List Piece := piecesFrom source.length source

theorem append_of_rawBody? {name s body closing after : Text} (h : rawBody? name s = some (body, closing, after)) :
    s = body ++ closing ++ after := by
  have suffix : ∀ {s after : Text}, afterCloser? name s = some after → after <:+ s := by
    intro s after h
    have named : ∀ {name s after : Text}, afterName? name s = some after → after <:+ s := by
      intro name
      induction name with
      | nil => intro s after h; simp [afterName?] at h; simp [h]
      | cons c name ih =>
        intro s after h
        cases s with
        | nil => simp [afterName?] at h
        | cons d s =>
          rw [afterName?] at h
          split at h
          · exact (ih h).trans (List.suffix_cons d s)
          · simp at h
    unfold afterCloser? at h
    split at h
    · next s =>
      split at h
      · simp at h
      · next rest hr =>
        split at h
        · next hd =>
          cases h
          have h1 : after <:+ rest.dropWhile isBlank := hd ▸ List.suffix_cons _ _
          exact ((h1.trans (List.dropWhile_suffix isBlank)).trans (named hr)).trans
            ((List.suffix_cons _ _).trans (List.suffix_cons _ _))
        · simp at h
    · simp at h
  induction s generalizing body with
  | nil => simp [rawBody?] at h
  | cons c rest ih =>
    rw [rawBody?] at h
    split at h
    · next after' ha =>
      simp only [Option.some.injEq, Prod.mk.injEq] at h
      obtain ⟨rfl, rfl, rfl⟩ := h
      obtain ⟨front, hf⟩ := suffix ha
      rw [← hf]
      simp
    · simp only [Option.map_eq_some_iff, Prod.mk.injEq, Prod.exists] at h
      obtain ⟨b, cl, a, hb, rfl, rfl, rfl⟩ := h
      simp [ih hb]

theorem append_of_through? {opening mark s source after : Text}
    (h : through? opening mark s = some (source, after)) : s = source ++ after := by
  rw [through?] at h
  split at h
  · simp at h
  · next inside hp =>
    simp only [Option.map_eq_some_iff, Prod.mk.injEq, Prod.exists] at h
    obtain ⟨b, a, hc, rfl, rfl⟩ := h
    rw [Text.append_of_isPrefixOf? hp, Text.append_of_cut? hc]
    simp

theorem append_of_remark? {s source after : Text} (h : remark? s = some (source, after)) : s = source ++ after := by
  simp only [remark?, Option.or_eq_some_iff] at h
  rcases h with h | ⟨-, h | ⟨-, h⟩⟩ <;> exact append_of_through? h

theorem source_opened (tag : OpenTag) (after : Text) :
    (opened tag after).1.source ++ (opened tag after).2 = tag.source ++ after := by
  unfold opened
  split
  · rfl
  · split
    · split
      · next h => simp [Piece.source, append_of_rawBody? h]
      · rfl
    · rfl

/-- The first piece and the text after it are the text. -/
theorem source_first (c : CodePoint) (rest : Text) : (first c rest).1.source ++ (first c rest).2 = c :: rest := by
  unfold first
  split
  · split
    · next h => exact (append_of_remark? h).symm
    · split
      · next h => exact (Tag.append_of_close? h).symm
      · split
        · next h => rw [source_opened]; exact (Tag.append_of_open? h).symm
        · rfl
  · split
    · rfl
    · next h =>
      split
      · next h => exact (append_of_shielded? h).symm
      · exact (Text.append_of_isPrefixOf? h).symm

/-- The pieces lose nothing of the source. -/
theorem source_piecesFrom (steps : Nat) (s : Text) : (piecesFrom steps s).flatMap Piece.source = s := by
  induction steps generalizing s with
  | zero => cases s <;> simp [piecesFrom, Piece.source]
  | succ steps ih =>
    cases s with
    | nil => simp [piecesFrom]
    | cons c rest => simp only [piecesFrom, List.flatMap_cons, ih]; exact source_first c rest

end Markup

end HtmlTemplate
