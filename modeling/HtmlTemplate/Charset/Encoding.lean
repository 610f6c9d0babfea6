import HtmlTemplate.Charset.Escaped
import HtmlTemplate.Charset.HostName
import HtmlTemplate.Charset.Shifting
import HtmlTemplate.Charset.Utf7
import HtmlTemplate.Writing.Charset.Single

/-!
# Encodings

An encoding says which bytes stand for which characters. Bytes that stand for none are a fault, which tells the bytes
and why they stand for nothing.
-/

namespace HtmlTemplate

/-- The encodings. -/
inductive Encoding where
  | utf8
  /-- A byte order mark in front does not count. -/
  | utf8Marked
  | utf7
  | ascii
  | latin1
  /-- Without an order the bytes are in that of a byte order mark in front, or else in the little one. -/
  | utf16 (order? : Option ByteOrder)
  | utf32 (order? : Option ByteOrder)
  | single (set : CharacterSet)
  | eastAsian (encoding : EastAsian)
  | iso2022 (encoding : Iso2022)
  | hz
  | escaped
  | rawEscaped
  | punycode
  | hostName
  /-- The encoding in which no bytes stand for anything. -/
  | undefined
  deriving DecidableEq, Repr

namespace Encoding

/-- The name of an encoding in messages. -/
def name : Encoding → Text
  | .utf8 => "utf-8".text
  | .utf8Marked => "utf-8".text
  | .utf7 => "utf7".text
  | .ascii => "ascii".text
  | .latin1 => "latin-1".text
  | .utf16 none => "utf-16".text
  | .utf16 (some .little) => "utf-16-le".text
  | .utf16 (some .big) => "utf-16-be".text
  | .utf32 none => "utf-32".text
  | .utf32 (some .little) => "utf-32-le".text
  | .utf32 (some .big) => "utf-32-be".text
  | .single _ => "charmap".text
  | .eastAsian encoding => encoding.name
  | .iso2022 encoding => encoding.name
  | .hz => "hz".text
  | .escaped => "unicodeescape".text
  | .rawEscaped => "rawunicodeescape".text
  | .punycode => "ascii".text
  | .hostName => "ascii".text
  | .undefined => "undefined".text

/-- What is wrong with some bytes: a few of them stand for no character, or all of them together are no text. -/
inductive Fault where
  | misreading (misreading : Misreading)
  | unfit (why : Charset.Unfit)
  deriving DecidableEq, Repr

/-- What is wrong with bytes that cannot be read. -/
def fault (encoding : Encoding) : Charset.Unreadable → Fault
  | .halt within halt => .misreading (halt.misreading encoding.name within)
  | .unfit why => .unfit why

/-- The encoding of bytes that tell the order by the first of them, and how many these are. -/
def settled : Encoding → Bytes → Encoding × Nat
  | .utf16 none, 0xFF :: 0xFE :: _ => (.utf16 (some .little), 2)
  | .utf16 none, 0xFE :: 0xFF :: _ => (.utf16 (some .big), 2)
  | .utf16 none, _ => (.utf16 (some .little), 0)
  | .utf32 none, 0xFF :: 0xFE :: 0 :: 0 :: _ => (.utf32 (some .little), 4)
  | .utf32 none, 0 :: 0 :: 0xFE :: 0xFF :: _ => (.utf32 (some .big), 4)
  | .utf32 none, _ => (.utf32 (some .little), 0)
  | encoding, _ => (encoding, 0)

/-- Reads a character of a set. -/
def singleStep (set : CharacterSet) (bytes : Bytes) : Except Snag (Text × Nat) :=
  match bytes with
  | [] => .ok ([], 0)
  | b :: _ =>
    match set.char? b with
    | some c => .ok ([c], 1)
    | none => .error ⟨1, .unmapped⟩

/-- Reads bytes step by step with a state. -/
def readStated {σ : Type} (step : σ → Bytes → Except Snag (Step σ)) (start : σ) (bytes : Bytes) :
    Except Charset.Unreadable Text :=
  ((readSteps step bytes.length 0 start [] bytes).map Prod.fst).mapError (.halt bytes)

open Charset in
/-- Reads bytes from a position on, which is that of the first byte but for a byte order mark. -/
def read (start : Nat) : Encoding → Bytes → Except Unreadable Text
  | .utf8, bytes => readFrom utf8Step start bytes
  | .utf8Marked, 0xEF :: 0xBB :: 0xBF :: bytes => readFrom utf8Step start bytes
  | .utf8Marked, bytes => readFrom utf8Step start bytes
  | .utf7, bytes => (readUtf7 0 none [] bytes).mapError (.halt bytes)
  | .ascii, bytes => readAscii bytes
  | .latin1, bytes => .ok (bytes.map latin1Char)
  | .utf16 order?, bytes => readFrom (utf16Step (order?.getD .little)) start bytes
  | .utf32 order?, bytes => readFrom (utf32Step (order?.getD .little)) start bytes
  | .single set, bytes => readFrom (singleStep set) start bytes
  | .eastAsian encoding, bytes => readFrom encoding.step start bytes
  | .iso2022 encoding, bytes => readStated encoding.step Shift.start bytes
  | .hz, bytes => readStated hzStep false bytes
  | .escaped, bytes => readFrom escapedStep start bytes
  | .rawEscaped, bytes => readFrom rawEscapedStep start bytes
  | .punycode, bytes => readPunycode bytes
  | .hostName, bytes => readHostName bytes
  | .undefined, _ => .error (.unfit .undefined)

/-- The characters that bytes stand for. -/
def decode (encoding : Encoding) (bytes : Bytes) : Except Fault Text :=
  let (encoding, start) := encoding.settled bytes
  (encoding.read start bytes).mapError encoding.fault

end Encoding

end HtmlTemplate
