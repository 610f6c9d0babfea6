import HtmlTemplate.Yaml.Cursor

/-!
# Plain scalars

A scalar without quotes ends in front of a colon or a comment, and between brackets also in front of a mark of the
brackets. It goes on over the lines that stand deep enough; between brackets all do.
-/

namespace HtmlTemplate.Yaml

/-- The marks of lists and mappings between brackets. -/
def isFlowMark (c : CodePoint) : Bool := ",[]\x7b\x7d".text.contains c

/-- The characters that begin no plain scalar, save that some of them do in front of a character that is no gap. -/
def isIndicator (c : CodePoint) : Bool := isFlowMark c || "-?:#&*!|>\x27\x22%@\x60".text.contains c

/-- Whether a plain scalar begins in front of a text. -/
def startsPlain (inFlow : Bool) : Text → Bool
  | [] => false
  | c :: rest =>
    !(isBlankInLine c || isBreak c || isIndicator c) ||
      (!atGap rest && (c = '-' || (!inFlow && (c = '?' || c = ':'))))

/-- Whether a colon in front of a text ends a plain scalar. -/
def endsAtColon (inFlow : Bool) (rest : Text) : Bool :=
  atGap rest || (inFlow && rest.head?.any isFlowMark)

/-- How many characters the word at the front of a text has, after `count` others. -/
def plainLength (inFlow : Bool) : Nat → Text → Nat
  | count, [] => count
  | count, c :: rest =>
    if isBlankInLine c || isBreak c then count
    else if c = ':' && endsAtColon inFlow rest then count
    else if inFlow && (isFlowMark c || c = '?') then count
    else plainLength inFlow (count + 1) rest

/-- The line ends that follow a line end in a plain scalar, and the place after them and the spaces between them;
nothing in place of them if a line that separates documents follows. -/
def plainBreaks : Nat → Cursor → Option Text × Cursor
  | 0, p => (some [], p)
  | steps + 1, p =>
    if atSeparator p.rest then (none, p)
    else
      let p := p.skipSpaces
      match p.lineBreak? with
      | some (c, p) =>
        let (further, p) := plainBreaks steps p
        (further.map (c :: ·), p)
      | none => (some [], p)

/-- What lies between two words of a plain scalar. -/
structure PlainGap where
  /-- What the gap stands for; nothing if there is none or the scalar ends at it. -/
  between : Text
  /-- Whether the gap has a line end. -/
  hasBreak : Bool
  place : Cursor

/-- The gap after a word of a plain scalar. -/
def plainGap (p : Cursor) : PlainGap :=
  let (spaces, q) := p.takeWhile (· = ' ')
  match q.lineBreak? with
  | some (first, q) =>
    match plainBreaks (q.left + 1) q with
    | (some further, q) => ⟨folded first further, true, q⟩
    | (none, q) => ⟨[], true, q⟩
  | none => ⟨spaces, false, q⟩

/-- A plain scalar: its text, the place after it, and whether a line end lies between its last word and that place. -/
structure Plain where
  text : Text
  place : Cursor
  endsLine : Bool

/-- The rest of a plain scalar after a gap, on lines of at least a column. What was read before the gap is `done`, in
reverse order. -/
def plainFrom (inFlow : Bool) (column : Nat) : Nat → Text → PlainGap → Plain
  | 0, done, gap => ⟨done.reverse, gap.place, gap.hasBreak⟩
  | steps + 1, done, gap =>
    let s := gap.place.rest
    let length := plainLength inFlow 0 s
    if length = 0 then ⟨done.reverse, gap.place, gap.hasBreak⟩
    else
      let done := (s.take length).reverse ++ (gap.between.reverse ++ done)
      let gap := plainGap (gap.place.after length)
      let p := gap.place
      if gap.between.isEmpty || p.rest.head? = some '#' || (!inFlow && p.column < column) then
        ⟨done.reverse, p, gap.hasBreak⟩
      else plainFrom inFlow column steps done gap

/-- The plain scalar that begins at a place, on lines of at least a column. -/
def plain (inFlow : Bool) (column : Nat) (p : Cursor) : Plain :=
  plainFrom inFlow column (p.left + 1) [] ⟨[], false, p⟩

end HtmlTemplate.Yaml
