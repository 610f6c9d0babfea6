import HtmlTemplate.Text.Quoted

/-!
# Texts that cannot be written

No encoding writes a surrogate. A name in the file system may hold some of them all the same: those that stand for the
bytes of names that are no text.
-/

namespace HtmlTemplate

/-- Why a text cannot be written: the surrogates at a position, up to the next character. -/
structure Unwritable where
  position : Nat
  surrogates : Text
  deriving DecidableEq, Repr

namespace Unwritable

/-- The message about a text that cannot be written. -/
def message (e : Unwritable) : Text :=
  let place :=
    match e.surrogates with
    | [c] => "character ".text ++ Text.quoted [c] ++ " in position ".text ++ Text.ofNat e.position
    | cs =>
      "characters in position ".text ++ Text.ofNat e.position ++ "-".text ++ Text.ofNat (e.position + cs.length - 1)
  "'utf-8' codec can't encode ".text ++ place ++ ": surrogates not allowed".text

end Unwritable

/-- Whether a code point is a surrogate that stands for a byte of `0x80` or above. -/
def CodePoint.isByte (c : CodePoint) : Bool := 0xDC80 ≤ c.toNat && c.toNat < 0xDD00

/-- Why a text can be the name of nothing in a file system. -/
inductive Unnameable where
  | surrogates (e : Unwritable)
  | nullByte
  deriving DecidableEq, Repr

/-- The message about a text that can be the name of nothing. -/
def Unnameable.message : Unnameable → Text
  | .surrogates e => e.message
  | .nullByte => "embedded null byte".text

namespace Text

/-- Why a text cannot be written, if a code point in it is refused. -/
def unwritable? (refused : CodePoint → Bool) (s : Text) : Option Unwritable :=
  let before := s.takeWhile fun c => !refused c
  match s.dropWhile fun c => !refused c with
  | [] => none
  | rest => some ⟨before.length, rest.takeWhile CodePoint.isSurrogate⟩

/-- Why a text cannot be written in UTF-8. -/
def unencodable? (s : Text) : Option Unwritable := s.unwritable? CodePoint.isSurrogate

/-- Why a text can be the name of nothing in a file system. -/
def unnameable? (s : Text) : Option Unnameable :=
  match s.unwritable? fun c => c.isSurrogate && !c.isByte with
  | some e => some (.surrogates e)
  | none => if s.contains '\x00' then some .nullByte else none

end Text

end HtmlTemplate
