import HtmlTemplate.Text.Basic

/-!
# Blanks

The blank characters are those that Unicode calls white space together with the four separators from U+001C to
U+001F. Trimming a text removes them at its ends.
-/

namespace HtmlTemplate

/-- The blank characters. -/
def blankTable : CharTable :=
  [(0x9, 0xD), (0x1C, 0x20), (0x85, 0x85), (0xA0, 0xA0), (0x1680, 0x1680), (0x2000, 0x200A), (0x2028, 0x2029),
   (0x202F, 0x202F), (0x205F, 0x205F), (0x3000, 0x3000)]

/-- Whether a character is a blank. -/
def isBlank (c : CodePoint) : Bool := blankTable.has c

namespace Text

/-- The text without its leading blanks. -/
def trimLeft (s : Text) : Text := s.dropWhile isBlank

/-- The text without its trailing blanks. -/
def trimRight (s : Text) : Text := (s.reverse.dropWhile isBlank).reverse

/-- The text without the blanks at its two ends. -/
def trim (s : Text) : Text := s.trimLeft.trimRight

/-- Whether nothing but blanks is in the text. -/
def allBlank (s : Text) : Bool := s.all isBlank

end Text

end HtmlTemplate
