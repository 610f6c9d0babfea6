import HtmlTemplate.Charset.Decoder
import HtmlTemplate.Text.Figure
import HtmlTemplate.Writing.CharName.Reader

/-!
# Escaped characters

In these encodings a byte is a character of Latin-1, but a backslash may begin an escape, which tells a character by a
letter, by its code point, or by its name.
-/

namespace HtmlTemplate.Charset

/-- The character of a byte in Latin-1. -/
def latin1Char (b : UInt8) : CodePoint := CodePoint.ofNat b.toNat

/-- The character for which a letter after a backslash stands. -/
def escapedChar? : CodePoint → Option Text
  | '\n' => some []
  | '\\' => some ['\\']
  | '\x27' => some ['\x27']
  | '\x22' => some ['\x22']
  | 'b' => some ['\x08']
  | 'f' => some ['\x0c']
  | 't' => some ['\t']
  | 'n' => some ['\n']
  | 'r' => some ['\r']
  | 'v' => some ['\x0b']
  | 'a' => some ['\x07']
  | _ => none

/-- How many digits an escape with a letter has. -/
def escapeWidth? : CodePoint → Option Nat
  | 'x' => some 2
  | 'u' => some 4
  | 'U' => some 8
  | _ => none

/-- The escape with a letter and `width` hexadecimal digits, of which `rest` comes after the letter. -/
def hexEscape (tooLarge : Misreading.Cause) (letter : CodePoint) (width : Nat) (rest : Bytes) :
    Except Snag (Text × Nat) :=
  let digits := ((rest.take width).map latin1Char).takeWhile fun c => (hexValue? c).isSome
  if digits.length < width then .error ⟨2 + digits.length, .cutEscape letter width⟩
  else
    match hexNumber? digits with
    | some code =>
      if code < 0x110000 then .ok ([CodePoint.ofNat code], 2 + width) else .error ⟨2 + width, tooLarge⟩
    | none => .error ⟨2 + width, tooLarge⟩

/-- The escape with the name of a character, of which `rest` comes after the letter. -/
def nameEscape (rest : Bytes) : Except Snag (Text × Nat) :=
  match rest with
  | [] => .error ⟨2, .badNameEscape⟩
  | 0x7B :: rest =>
    let name := rest.takeWhile (· ≠ 0x7D)
    if name.length = rest.length then .error ⟨3 + name.length, .badNameEscape⟩
    else if name.isEmpty then .error ⟨3, .badNameEscape⟩
    else
      match CharName.code? (name.map latin1Char) with
      | some code => .ok ([CodePoint.ofNat code], 4 + name.length)
      | none => .error ⟨4 + name.length, .unknownName⟩
  | _ => .error ⟨2, .badNameEscape⟩

/-- Reads a character or an escape. -/
def escapedStep (bytes : Bytes) : Except Snag (Text × Nat) :=
  match bytes with
  | [] => .ok ([], 0)
  | [0x5C] => .error ⟨1, .loneBackslash⟩
  | 0x5C :: b :: rest =>
    let c := latin1Char b
    match escapedChar? c, escapeWidth? c with
    | some chars, _ => .ok (chars, 2)
    | none, some width => hexEscape .escapeBeyondUnicode c width rest
    | none, none =>
      if c = 'N' then nameEscape rest
      else if '0' ≤ c && c ≤ '7' then
        let digits := c :: ((rest.take 2).map latin1Char).takeWhile fun c => '0' ≤ c && c ≤ '7'
        .ok ([CodePoint.ofNat (digits.foldl (fun n c => 8 * n + (c.toNat - 48)) 0)], 1 + digits.length)
      else .ok (['\\', c], 2)
  | b :: _ => .ok ([latin1Char b], 1)

/-- Reads a character or an escape with a code point, which is the only kind here. -/
def rawEscapedStep (bytes : Bytes) : Except Snag (Text × Nat) :=
  match bytes with
  | [] => .ok ([], 0)
  | 0x5C :: b :: rest =>
    let c := latin1Char b
    if c = 'u' then hexEscape .rawEscapeBeyondUnicode c 4 rest
    else if c = 'U' then hexEscape .rawEscapeBeyondUnicode c 8 rest
    else .ok (['\\', c], 2)
  | b :: _ => .ok ([latin1Char b], 1)

end HtmlTemplate.Charset
