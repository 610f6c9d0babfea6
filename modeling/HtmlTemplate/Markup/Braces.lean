import HtmlTemplate.Markup.Tag

/-!
# Braces that shield an expression from the markup reader

The characters between two or three opening braces and as many closing ones are an expression, so that `a<b` in it
opens no tag. Braces shield nothing if they are never closed, if other braces open before they are closed, or if
real markup stands between: a close tag, or an open tag with a quoted value.
-/

namespace HtmlTemplate.Markup

/-- Whether a close tag, or an open tag with a quoted value, is in the text. -/
def hasTag : Text → Bool
  | [] => false
  | c :: rest =>
    (Tag.close? (c :: rest)).isSome ||
      (match Tag.open? (c :: rest) with
        | some (tag, _) => tag.attributes.any (·.isQuoted)
        | none => false) ||
      hasTag rest

/-- The mark that opens an expression. -/
def opener : Text := ['\x7b', '\x7b']

/-- The marks that open and close the expression at the front of a text. -/
def delimiters (s : Text) : Text × Text :=
  if (('\x7b' : CodePoint) :: opener).isPrefixOf s then ('\x7b' :: opener, ['\x7d', '\x7d', '\x7d'])
  else (opener, ['\x7d', '\x7d'])

/-- The braces at the front of a text with what they shield, and the text after them. -/
def shielded? (s : Text) : Option (Text × Text) :=
  let (opening, closing) := delimiters s
  match opening.isPrefixOf? s with
  | none => none
  | some inside =>
    match Text.cut? closing inside with
    | none => none
    | some (body, after) =>
      if Text.hasMark opener body || hasTag body then none else some (opening ++ body ++ closing, after)

/-- Shielding loses nothing of the text. -/
theorem append_of_shielded? {s source after : Text} (h : shielded? s = some (source, after)) :
    s = source ++ after := by
  simp only [shielded?] at h
  split at h
  · simp at h
  · next inside hp =>
    split at h
    · simp at h
    · next body rest hc =>
      split at h
      · simp at h
      · simp only [Option.some.injEq, Prod.mk.injEq] at h
        obtain ⟨rfl, rfl⟩ := h
        rw [List.append_assoc, List.append_assoc, ← List.append_assoc body, ← Text.append_of_cut? hc]
        exact Text.append_of_isPrefixOf? hp

end HtmlTemplate.Markup
