import HtmlTemplate.Text.Unwritable
import HtmlTemplate.Charset.Decoder

/-!
# Encodings of all characters

UTF-8 writes a character as one to four bytes. UTF-16 writes it as one or two units of two bytes, UTF-32 as one unit of
four, and the bytes of a unit may come in either order.
-/

namespace HtmlTemplate

/-- Which of the bytes of a number comes first. -/
inductive ByteOrder where
  | little
  | big
  deriving DecidableEq, Repr

namespace Charset

/-- The six bits of a continuation byte. -/
def payload (b : UInt8) : Nat := b.toNat - 0x80

/-- How many bytes follow a byte that begins a character, the bits of it that count, and the values that the byte
after it may have; nothing for a byte that begins none. -/
def lead? (b : UInt8) : Option (Nat × Nat × UInt8 × UInt8) :=
  if b < 0x80 then some (0, b.toNat, 0x80, 0xBF)
  else if b < 0xC2 then none
  else if b < 0xE0 then some (1, b.toNat - 0xC0, 0x80, 0xBF)
  else if b < 0xF0 then
    some (2, b.toNat - 0xE0, (if b = 0xE0 then 0xA0 else 0x80), (if b = 0xED then 0x9F else 0xBF))
  else if b < 0xF5 then
    some (3, b.toNat - 0xF0, (if b = 0xF0 then 0x90 else 0x80), (if b = 0xF4 then 0x8F else 0xBF))
  else none

/-- The continuation bytes of a character: how many are missing, the bits so far, and the bounds of the next byte.
The answer is the code point, or how many bytes were read and why they do not do. -/
def continue? : Nat → Nat → UInt8 → UInt8 → Bytes → Except Snag Nat
  | 0, code, _, _, _ => .ok code
  | _ + 1, _, _, _, [] => .error ⟨0, .endOfData⟩
  | missing + 1, code, low, high, b :: rest =>
    if low ≤ b && b ≤ high then
      (continue? missing (0x40 * code + payload b) 0x80 0xBF rest).mapError fun snag =>
        ⟨snag.length + 1, snag.cause⟩
    else .error ⟨0, .badContinuation⟩

/-- Reads a character in UTF-8. -/
def utf8Step (bytes : Bytes) : Except Snag (Text × Nat) :=
  match bytes with
  | [] => .ok ([], 0)
  | b :: rest =>
    match lead? b with
    | none => .error ⟨1, .badStart⟩
    | some (missing, code, low, high) =>
      match continue? missing code low high rest with
      | .ok code => .ok ([CodePoint.ofNat code], missing + 1)
      | .error snag => .error ⟨snag.length + 1, snag.cause⟩

/-- The characters that bytes in UTF-8 stand for. -/
def decodeUtf8 (bytes : Bytes) : Except Misreading Text :=
  (readAll utf8Step bytes).mapError (Halt.misreading "utf-8".text bytes)

/-- The bytes in UTF-8 that stand for a code point. None stand for a surrogate. -/
def utf8Bytes : CodePoint → Bytes
  | .char c => String.utf8EncodeChar c
  | .surrogate _ => []

/-- The bytes in UTF-8 that stand for a text. -/
def encodeUtf8 (s : Text) : Except Unwritable Bytes :=
  match s.unencodable? with
  | some e => .error e
  | none => .ok (s.flatMap utf8Bytes)

/-- Reads a character in ASCII. -/
def asciiStep (bytes : Bytes) : Except Snag (Text × Nat) :=
  match bytes with
  | [] => .ok ([], 0)
  | b :: _ => if b < 0x80 then .ok ([CodePoint.ofNat b.toNat], 1) else .error ⟨1, .beyondAscii⟩

/-- The number that bytes write. -/
def number (order : ByteOrder) (bytes : Bytes) : Nat :=
  let ordered : Bytes :=
    match order with
    | .little => bytes.reverse
    | .big => bytes
  ordered.foldl (fun n b => 0x100 * n + b.toNat) 0

/-- Whether a unit is the first half of a character of two units. -/
def isFirstHalf (unit : Nat) : Bool := 0xD800 ≤ unit && unit < 0xDC00

/-- Whether a unit is the second half of a character of two units. -/
def isSecondHalf (unit : Nat) : Bool := 0xDC00 ≤ unit && unit < 0xE000

/-- The character of two halves. -/
def joined (first second : Nat) : CodePoint := CodePoint.ofNat (0x10000 + (first - 0xD800) * 0x400 + (second - 0xDC00))

/-- Reads a character in UTF-16. A character of two units has the first half in front. -/
def utf16Step (order : ByteOrder) (bytes : Bytes) : Except Snag (Text × Nat) :=
  match bytes with
  | [] => .ok ([], 0)
  | [_] => .error ⟨1, .truncated⟩
  | a :: b :: rest =>
    let unit := number order [a, b]
    if isSecondHalf unit then .error ⟨2, .loneHalf⟩
    else if !isFirstHalf unit then .ok ([CodePoint.ofNat unit], 2)
    else
      match rest with
      | c :: d :: _ =>
        let second := number order [c, d]
        if isSecondHalf second then .ok ([joined unit second], 4) else .error ⟨2, .missingHalf⟩
      | _ => .error ⟨2 + rest.length, .endOfData⟩

/-- Reads a character in UTF-32. -/
def utf32Step (order : ByteOrder) (bytes : Bytes) : Except Snag (Text × Nat) :=
  match bytes with
  | [] => .ok ([], 0)
  | a :: b :: c :: d :: _ =>
    let code := number order [a, b, c, d]
    if 0x110000 ≤ code then .error ⟨4, .beyondUnicode⟩
    else if 0xD800 ≤ code && code < 0xE000 then .error ⟨4, .surrogate⟩
    else .ok ([CodePoint.ofNat code], 4)
  | bytes => .error ⟨bytes.length, .truncated⟩

end Charset

end HtmlTemplate
