import HtmlTemplate.Text.Basic

/-!
# Escaping for HTML

The five characters that mean something in HTML become entities. The ampersand goes first, so that the ampersands of
the other entities are left alone.
-/

namespace HtmlTemplate

/-- The characters that mean something in HTML and the entities that stand for them. -/
def entities : List (CodePoint × Text) :=
  [('&', ['&', 'a', 'm', 'p', ';']), ('\x22', ['&', 'q', 'u', 'o', 't', ';']), ('\x27', ['&', '#', '3', '9', ';']),
   ('<', ['&', 'l', 't', ';']), ('>', ['&', 'g', 't', ';'])]

/-- The text with an entity for each character that means something in HTML. -/
def escapeHtml (s : Text) : Text := entities.foldl (fun s (c, entity) => Text.replaceChar c entity s) s

end HtmlTemplate
