import HtmlTemplate.Charset.Unicode
import HtmlTemplate.Text.Figure
import HtmlTemplate.Yaml.Cursor
import HtmlTemplate.Yaml.Fault

/-!
# Names, tags and directives

What a text says about its parts: a name for a part, the tag of a part, and the directives in front of a document. A
tag is written with a handle, which directives may bring in, or in full.
-/

namespace HtmlTemplate.Yaml

/-- The characters of names. -/
def isNameChar (c : CodePoint) : Bool := c.any Char.isAlphanum || c = '-' || c = '_'

/-- The characters of tags. -/
def isTagChar (c : CodePoint) : Bool := c.any Char.isAlphanum || "-;/?:@&=+$,_.!~*\x27()[]%".text.contains c

/-- A name, and the place after it. A few marks may follow it at once. -/
def propertyName (p : Cursor) : Except Fault (Text × Cursor) :=
  let (name, q) := p.takeWhile isNameChar
  if name.isEmpty || !(atGap q.rest || q.rest.head?.any "?:,]\x7d%@\x60".text.contains) then .error .malformed
  else .ok (name, q)

/-- The bytes that escapes of a percent sign and two figures write, and the place after them. -/
def tagBytes : Nat → Cursor → Except Fault (Bytes × Cursor)
  | 0, _ => .error .malformed
  | steps + 1, p =>
    match p.rest with
    | '%' :: a :: b :: _ =>
      match hexNumber? [a, b] with
      | some n => (tagBytes steps (p.after 3)).map fun (bytes, p) => (UInt8.ofNat n :: bytes, p)
      | none => .error .malformed
    | '%' :: _ => .error .malformed
    | _ => .ok ([], p)

/-- The text of a tag, in which characters may be escaped, and the place after it. -/
def tagText : Nat → Cursor → Except Fault (Text × Cursor)
  | 0, _ => .error .malformed
  | steps + 1, p =>
    match p.rest with
    | '%' :: _ => do
      let (bytes, p) ← tagBytes (p.left + 1) p
      match Charset.decodeUtf8 bytes with
      | .error _ => throw .malformed
      | .ok s =>
        let (more, p) ← tagText steps p
        return (s ++ more, p)
    | c :: _ => if isTagChar c then (tagText steps p.next).map fun (more, p) => (c :: more, p) else .ok ([], p)
    | [] => .ok ([], p)

/-- The text of a tag that is not empty, and the place after it. -/
def tagText1 (p : Cursor) : Except Fault (Text × Cursor) :=
  match p.rest with
  | [] => .error .malformed
  | c :: _ => if isTagChar c then tagText (p.left + 1) p else .error .malformed

/-- The handle of a tag, between exclamation marks, and the place after it. One mark alone is a handle in front of a
space. -/
def tagHandle (p : Cursor) : Except Fault (Text × Cursor) :=
  match p.rest with
  | '!' :: rest =>
    if rest.head? = some (' ' : CodePoint) then .ok (['!'], p.next)
    else
      let name := rest.takeWhile isNameChar
      match rest.drop name.length with
      | '!' :: _ => .ok ("!".text ++ name ++ "!".text, p.after (name.length + 2))
      | _ => .error .malformed
  | _ => .error .malformed

/-- A tag as it is written: its handle, if it has one, and the text after that. -/
structure WrittenTag where
  handle? : Option Text
  suffix : Text

/-- The tag that begins at a place, and the place after it, which must be a space or the end of the line. -/
def writtenTag (p : Cursor) : Except Fault (WrittenTag × Cursor) := do
  let (tag, q) ←
    match p.next.rest with
    | '<' :: _ =>
      let (suffix, q) ← tagText1 (p.after 2)
      if q.rest.head? = some ('>' : CodePoint) then pure (WrittenTag.mk none suffix, q.next) else throw .malformed
    | s =>
      if atGap s then pure (WrittenTag.mk none ['!'], p.next)
      else if (s.takeWhile fun c : CodePoint => !(c = ' ' || isBreak c)).contains '!' then
        let (handle, q) ← tagHandle p
        let (suffix, q) ← tagText1 q
        pure (WrittenTag.mk (some handle) suffix, q)
      else
        let (suffix, q) ← tagText1 p.next
        pure (WrittenTag.mk (some ['!']) suffix, q)
  if atSpaceOrLineEnd q.rest then return (tag, q) else throw .malformed

/-- A directive. -/
inductive Directive where
  | version (major : Nat)
  /-- The tags with a handle stand for those that begin so. -/
  | handle (handle beginning : Text)
  | other

/-- A number of a version, and the place after it. -/
def versionNumber (p : Cursor) : Except Fault (Nat × Cursor) :=
  let (figures, q) := p.takeWhile isFigure
  if figures.isEmpty then .error .malformed
  else if maxIntegerDigits < figures.length then .error (.numeralTooLong figures.length)
  else .ok (figures.foldl (fun n c => 10 * n + (c.toNat - 48)) 0, q)

/-- The directive that begins at a place, and the place on the line after it. -/
def directive (p : Cursor) : Except Fault (Directive × Cursor) := do
  let (name, p) := p.next.takeWhile isNameChar
  if name.isEmpty || !atSpaceOrLineEnd p.rest then throw .malformed
  let (found, p) ←
    if name = "YAML".text then
      let (major, p) ← versionNumber p.skipSpaces
      if p.rest.head? ≠ some ('.' : CodePoint) then throw .malformed
      let (_, p) ← versionNumber p.next
      pure (Directive.version major, p)
    else if name = "TAG".text then
      let (handle, p) ← tagHandle p.skipSpaces
      if p.rest.head? ≠ some (' ' : CodePoint) then throw .malformed
      let (beginning, p) ← tagText1 p.skipSpaces
      pure (Directive.handle handle beginning, p)
    else pure (Directive.other, p.skipWhile fun c => !isBreak c)
  if !atSpaceOrLineEnd p.rest then throw .malformed
  match p.endLine? with
  | some p => return (found, p)
  | none => throw .malformed

end HtmlTemplate.Yaml
