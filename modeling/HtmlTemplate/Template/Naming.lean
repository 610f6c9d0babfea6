import HtmlTemplate.Template.Basic

/-!
# Names of templates

A template has the name that its source declares, and else the name of its file without the extension. Of the
configured extensions the longest one that fits is taken off.
-/

namespace HtmlTemplate

namespace Text

/-- The first `n` characters of a text; for a negative `n`, all but the last `-n`. -/
def takeUpTo (n : Int) (s : Text) : Text :=
  match n with
  | .ofNat n => s.take n
  | .negSucc n => s.take (s.length - (n + 1))

/-- Whether a text ends in an extension that is not empty, in any case of the letters. -/
def hasExtension (s ext : Text) : Bool := !ext.isEmpty && ext.lower.isSuffixOf s.lower

/-- The text before the last dot, if it is not empty; else the text. -/
def withoutLastPart (s : Text) : Text :=
  match s.reverse.dropWhile (· ≠ ('.' : CodePoint)) with
  | [] => s
  | [_] => s
  | _ :: stem => stem.reverse

end Text

namespace Template

/-- The name of a template in a file that declares none. -/
def nameOfFile (extensions : List Text) (fileName : Text) : Text :=
  match (extensions.mergeSort fun a b => b.length ≤ a.length).find? fileName.hasExtension with
  | some ext => Text.takeUpTo ((fileName.length : Int) - ext.length) fileName
  | none => fileName.withoutLastPart

end Template

end HtmlTemplate
