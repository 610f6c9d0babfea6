import HtmlTemplate.Text.Figure
import HtmlTemplate.Yaml.Cursor
import HtmlTemplate.Yaml.Fault

/-!
# Scalars in quotes

A scalar in single quotes has one escape, the quote written twice; one in double quotes has escapes after backslashes.
Both may go on over several lines, which are folded, but not over a line that separates documents.
-/

namespace HtmlTemplate.Yaml

/-- The character that `c` writes after a backslash. -/
def escape? (c : CodePoint) : Option CodePoint :=
  match c with
  | '0' => some '\x00'
  | 'a' => some '\x07'
  | 'b' => some '\x08'
  | 't' => some '\t'
  | '\t' => some '\t'
  | 'n' => some '\n'
  | 'v' => some '\x0b'
  | 'f' => some '\x0c'
  | 'r' => some '\r'
  | 'e' => some '\x1b'
  | ' ' => some ' '
  | '\x22' => some '\x22'
  | '\\' => some '\\'
  | '/' => some '/'
  | 'N' => some '\x85'
  | '_' => some '\xa0'
  | 'L' => some '\u2028'
  | 'P' => some '\u2029'
  | _ => none

/-- How many hexadecimal digits follow a backslash and `c`. -/
def escapeWidth? (c : CodePoint) : Option Nat :=
  match c with
  | 'x' => some 2
  | 'u' => some 4
  | 'U' => some 8
  | _ => none

/-- The character of a code. -/
def charOfCode (code : Nat) : Except Fault CodePoint :=
  if code < 0x110000 then .ok (CodePoint.ofNat code)
  else if code < 0x80000000 then .error .noCharacter
  else .error .codeTooLarge

/-- The line ends that follow a line end, and the place after them and the blanks between them. -/
def quotedBreaks : Nat → Cursor → Except Fault (Text × Cursor)
  | 0, _ => .error .malformed
  | steps + 1, p =>
    if atSeparator p.rest then .error .malformed
    else
      let p := p.skipWhile isBlankInLine
      match p.lineBreak? with
      | some (c, p) => (quotedBreaks steps p).map fun (further, p) => (c :: further, p)
      | none => .ok ([], p)

/-- What a backslash and the text after it write, and the place after that. -/
def quotedEscape (p : Cursor) : Except Fault (Text × Cursor) :=
  match p.rest with
  | [] => .error .malformed
  | c :: rest =>
    match escape? c, escapeWidth? c with
    | some d, _ => .ok ([d], p.next)
    | none, some width =>
      let digits := rest.take width
      if digits.length < width then .error .malformed
      else
        match hexNumber? digits with
        | some code => (charOfCode code).map fun d => ([d], p.after (width + 1))
        | none => .error .malformed
    | none, none =>
      match p.lineBreak? with
      | some (_, p) => quotedBreaks (p.left + 1) p
      | none => .error .malformed

/-- The rest of a scalar in quotes, and the place after the closing one. What was read before is `done`, in reverse
order. -/
def quotedFrom (double : Bool) : Nat → Text → Cursor → Except Fault (Text × Cursor)
  | 0, _, _ => .error .malformed
  | steps + 1, done, p =>
    match p.rest with
    | [] => .error .malformed
    | c :: rest =>
      if isBlankInLine c || isBreak c then
        let (blanks, q) := p.takeWhile isBlankInLine
        match q.lineBreak? with
        | some (first, q) =>
          match quotedBreaks (q.left + 1) q with
          | .error e => .error e
          | .ok (further, q) => quotedFrom double steps ((folded first further).reverse ++ done) q
        | none => quotedFrom double steps (blanks.reverse ++ done) q
      else if double then
        if c = '\x22' then .ok (done.reverse, p.next)
        else if c = '\\' then
          match quotedEscape p.next with
          | .error e => .error e
          | .ok (written, q) => quotedFrom double steps (written.reverse ++ done) q
        else quotedFrom double steps (c :: done) p.next
      else if c = '\x27' then
        if rest.head? = some '\x27' then quotedFrom double steps ('\x27' :: done) (p.after 2)
        else .ok (done.reverse, p.next)
      else quotedFrom double steps (c :: done) p.next

/-- The scalar in quotes that begins at a place with its opening quote, and the place after the closing one. -/
def quoted (p : Cursor) : Except Fault (Text × Cursor) :=
  quotedFrom (p.rest.head? = some ('\x22' : CodePoint)) (p.left + 1) [] p.next

end HtmlTemplate.Yaml
