import HtmlTemplate.Text.Basic

/-!
# Places in a text of lines

A cursor is a place in a text, with its line and its column. Lines end at a line feed, and at three further
characters; a byte order mark takes no column.
-/

namespace HtmlTemplate.Yaml

/-- The characters that end a line. -/
def isBreak (c : CodePoint) : Bool := c = '\n' || c = '\x85' || c = '\u2028' || c = '\u2029'

/-- The blanks inside a line. -/
def isBlankInLine (c : CodePoint) : Bool := c = ' ' || c = '\t'

/-- Whether a line ends in front of a text. -/
def atLineEnd : Text → Bool
  | [] => true
  | c :: _ => isBreak c

/-- Whether a word ends in front of a text: at a blank, or with the line. -/
def atGap : Text → Bool
  | [] => true
  | c :: _ => isBlankInLine c || isBreak c

/-- Whether a text begins with a space, or a line ends in front of it. -/
def atSpaceOrLineEnd : Text → Bool
  | ' ' :: _ => true
  | s => atLineEnd s

/-- Whether the line that begins a document is in front of a text. -/
def atDocumentStart : Text → Bool
  | '-' :: '-' :: '-' :: rest => atGap rest
  | _ => false

/-- Whether the line that ends a document is in front of a text. -/
def atDocumentEnd : Text → Bool
  | '.' :: '.' :: '.' :: rest => atGap rest
  | _ => false

/-- Whether a line that separates documents is in front of a text. -/
def atSeparator (s : Text) : Bool := atDocumentStart s || atDocumentEnd s

/-- A place in a text: what follows it, how many characters these are, and its line and column. -/
structure Cursor where
  rest : Text
  left : Nat
  line : Nat
  column : Nat

namespace Cursor

/-- The place in front of a text. -/
def start (s : Text) : Cursor := ⟨s, s.length, 0, 0⟩

/-- The place after the next character. -/
def next (p : Cursor) : Cursor :=
  match p.rest with
  | [] => p
  | c :: rest =>
    if isBreak c then ⟨rest, p.left - 1, p.line + 1, 0⟩
    else ⟨rest, p.left - 1, p.line, if c = '\ufeff' then p.column else p.column + 1⟩

/-- The place some characters further on. -/
def after : Nat → Cursor → Cursor
  | 0, p => p
  | n + 1, p => after n p.next

/-- The characters up to the first one that `f` does not hold of, and the place after them. -/
def takeWhile (f : CodePoint → Bool) (p : Cursor) : Text × Cursor :=
  let taken := p.rest.takeWhile f
  (taken, p.after taken.length)

/-- The place after the characters that `f` holds of. -/
def skipWhile (f : CodePoint → Bool) (p : Cursor) : Cursor := (p.takeWhile f).2

/-- The place after the spaces. A tab is no space. -/
def skipSpaces (p : Cursor) : Cursor := p.skipWhile (· = ' ')

/-- The place after a comment, if one begins here. -/
def skipComment (p : Cursor) : Cursor :=
  match p.rest with
  | '#' :: _ => p.skipWhile fun c => !isBreak c
  | _ => p

/-- The line end in front, as it counts in a text, and the place after it. -/
def lineBreak? (p : Cursor) : Option (CodePoint × Cursor) :=
  match p.rest with
  | [] => none
  | c :: _ => if isBreak c then some (if c = '\x85' then '\n' else c, p.next) else none

/-- The place after a line end, if one is in front. -/
def skipBreak (p : Cursor) : Cursor :=
  match p.lineBreak? with
  | some (_, q) => q
  | none => p

/-- The place on the next line, if nothing but spaces and a comment is on this one. -/
def endLine? (p : Cursor) : Option Cursor :=
  let q := p.skipSpaces.skipComment
  if atLineEnd q.rest then some q.skipBreak else none

end Cursor

/-- What line ends inside a scalar stand for: the first one for a space if it stands alone and for nothing if not,
unless it separates lines by itself. -/
def folded (first : CodePoint) (further : Text) : Text :=
  if first ≠ '\n' then first :: further else if further.isEmpty then [' '] else further

end HtmlTemplate.Yaml
