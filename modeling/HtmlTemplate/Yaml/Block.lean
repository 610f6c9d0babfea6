import HtmlTemplate.Text.Figure
import HtmlTemplate.Yaml.Cursor
import HtmlTemplate.Yaml.Fault

/-!
# Scalars in blocks

A block is lines of text that stand deeper than what is around them. It is literal, or folded: then the line end
between two lines that begin with no blank counts as a space. A header says how many line ends are kept at the end of
the block, and may say how deep it stands.
-/

namespace HtmlTemplate.Yaml

/-- Which line ends are kept at the end of a block. -/
inductive Chomping where
  | none
  | one
  | all
  deriving DecidableEq, Repr

/-- The header of a block. -/
structure BlockHeader where
  chomping : Chomping
  /-- By how much the block stands deeper than what is around it, if that is told. -/
  indent? : Option Nat

/-- The chomping that a character writes. -/
def chomping? (c : CodePoint) : Option Chomping :=
  if c = '+' then some .all else if c = '-' then some .none else none

/-- The header of a block after its mark, and the place after it. The two parts may come in either order. -/
def blockHeader (p : Cursor) : Except Fault (BlockHeader × Cursor) :=
  let figure? (p : Cursor) : Option Nat := (p.rest.head?.filter isFigure).map fun c => c.toNat - 48
  let mark? (p : Cursor) : Option Chomping := p.rest.head?.bind chomping?
  let (header, q) : BlockHeader × Cursor :=
    match mark? p, figure? p with
    | some chomping, _ =>
      match figure? p.next with
      | some n => (⟨chomping, some n⟩, p.next.next)
      | none => (⟨chomping, none⟩, p.next)
    | none, some n =>
      match mark? p.next with
      | some chomping => (⟨chomping, some n⟩, p.next.next)
      | none => (⟨.one, some n⟩, p.next)
    | none, none => (⟨.one, none⟩, p)
  if header.indent? = some 0 || !atSpaceOrLineEnd q.rest then .error .malformed else .ok (header, q)

/-- The line ends in front of a block whose depth is not told, the place after them and the spaces between them, and
the greatest number of spaces on a line. -/
def leadingBreaks : Nat → Cursor → Text × Nat × Cursor
  | 0, p => ([], 0, p)
  | steps + 1, p =>
    let p := p.skipSpaces
    match p.lineBreak? with
    | some (c, q) =>
      let (breaks, deepest, q) := leadingBreaks steps q
      (c :: breaks, max p.column deepest, q)
    | none => ([], p.column, p)

/-- The place after the spaces in front, up to a column. -/
def Cursor.skipIndent (column : Nat) (p : Cursor) : Cursor :=
  p.after (min (column - p.column) (p.rest.takeWhile (· = (' ' : CodePoint))).length)

/-- The line ends in front of a line of a block that stands at a column, and the place after them and the spaces
between them. -/
def blockBreaks (column : Nat) : Nat → Cursor → Text × Cursor
  | 0, p => ([], p)
  | steps + 1, p =>
    let p := p.skipIndent column
    match p.lineBreak? with
    | some (c, p) =>
      let (breaks, p) := blockBreaks column steps p
      (c :: breaks, p)
    | none => ([], p)

/-- Whether a line begins with a blank. -/
def beginsBlank (p : Cursor) : Bool := p.rest.head?.any isBlankInLine

/-- The lines of a block at a column, from a place at the front of one of them. `done` is what was read before, in
reverse order, and `breaks` the line ends in front of the place. The answer is the text, the last line end of the block
and the line ends after that, and the place after them. -/
def blockLines (isFolded : Bool) (column : Nat) : Nat → Text → Text → Cursor → Text × Text × Text × Cursor
  | 0, done, breaks, p => (done.reverse, [], breaks, p)
  | steps + 1, done, breaks, p =>
    if p.column ≠ column || p.rest.isEmpty then (done.reverse, [], breaks, p)
    else
      let (line, q) := p.takeWhile fun c => !isBreak c
      let done := line.reverse ++ (breaks.reverse ++ done)
      let (ending, q) : Text × Cursor :=
        match q.lineBreak? with
        | some (c, q) => ([c], q)
        | none => ([], q)
      let (breaks, q) := blockBreaks column (q.left + 1) q
      if q.column = column && !q.rest.isEmpty then
        let between :=
          if isFolded && ending = "\n".text && !beginsBlank p && !beginsBlank q then
            (if breaks.isEmpty then " ".text else [])
          else ending
        blockLines isFolded column steps (between ++ done) breaks q
      else (done.reverse, ending, breaks, q)

/-- The scalar in a block that begins at a place with its mark, and the place after it. It stands at least at the
column `least`. -/
def block (isFolded : Bool) (least : Nat) (p : Cursor) : Except Fault (Text × Cursor) := do
  let (header, p) ← blockHeader p.next
  let least := max least 1
  match p.endLine? with
  | none => throw .malformed
  | some p =>
    let (column, breaks, p) : Nat × Text × Cursor :=
      match header.indent? with
      | some n =>
        let column := least + n - 1
        (column, blockBreaks column (p.left + 1) p)
      | none =>
        let (breaks, deepest, p) := leadingBreaks (p.left + 1) p
        (max least deepest, breaks, p)
    let (body, ending, further, p) := blockLines isFolded column (p.left + 1) [] breaks p
    let kept :=
      match header.chomping with
      | .none => []
      | .one => ending
      | .all => ending ++ further
    return (body ++ kept, p)

end HtmlTemplate.Yaml
