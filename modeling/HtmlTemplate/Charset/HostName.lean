import HtmlTemplate.Charset.Punycode
import HtmlTemplate.Charset.Unicode

/-!
# Names of hosts

A name of a host is made of labels with points between them. A label with a mark in front is in Punycode, and any other
one is in ASCII.
-/

namespace HtmlTemplate.Charset

/-- Why bytes are no text as a whole. -/
inductive Unfit where
  | numbers (fault : PunycodeFault)
  | labelNumbers (fault : PunycodeFault)
  /-- A label in Punycode is not of the length that labels have. -/
  | labelLength
  /-- A label is in Punycode without need, or is written in another way than the one that its text has. -/
  | otherLabel (label written : Text)
  /-- A label in Punycode has a character that labels do not have. -/
  | labelCharacter (c : CodePoint)
  /-- No bytes are a text in the encoding. -/
  | undefined
  deriving DecidableEq, Repr

namespace Unfit

/-- A message inside another one, which tells what was to be done with which encoding. -/
def wrapped (encoding words : Text) : Text :=
  "decoding with '".text ++ encoding ++ "' codec failed (UnicodeError: ".text ++ words ++ ")".text

/-- The message about what is wrong with bytes in an encoding of some name. -/
def message (encoding : Text) : Unfit → Text
  | .numbers fault => wrapped encoding fault.message
  | .labelNumbers fault => wrapped encoding (wrapped "punycode".text fault.message)
  | .labelLength => wrapped encoding "label empty or too long".text
  | .otherLabel label written =>
    "('IDNA does not round-trip', b".text ++ Text.quoted label ++ ", b".text ++ Text.quoted written ++ ")".text
  | .labelCharacter c => wrapped encoding ("Invalid character ".text ++ Text.quoted [c])
  | .undefined => wrapped encoding "undefined encoding".text

end Unfit

/-- Why bytes cannot be read as a text: some of them, within a part of them, stand for nothing, or all of them together
are no text. -/
inductive Unreadable where
  | halt (within : Bytes) (halt : Halt)
  | unfit (why : Unfit)
  deriving DecidableEq, Repr

/-- Reads bytes step by step from a position on. -/
def readFrom (step : Bytes → Except Snag (Text × Nat)) (start : Nat) (bytes : Bytes) : Except Unreadable Text :=
  (readAll step (bytes.drop start)).mapError fun halt =>
    .halt bytes { halt with position := halt.position + start }

/-- Reads ASCII. -/
def readAscii (bytes : Bytes) : Except Unreadable Text := readFrom asciiStep 0 bytes

/-- The bytes before the last hyphen, and those after it. Without a hyphen all bytes are after it. -/
def splitAtHyphen (bytes : Bytes) : Bytes × Bytes :=
  let after := (bytes.reverse.takeWhile (· ≠ 0x2D)).reverse
  (bytes.take (bytes.length - after.length - 1), after)

/-- Reads Punycode. -/
def readPunycode (bytes : Bytes) : Except Unreadable Text := do
  let (base, extended) := splitAtHyphen bytes
  let base ← readAscii base
  let extended ← readAscii extended
  (punycode base extended).mapError fun fault => .unfit (.numbers fault)

/-- The mark in front of a label in Punycode. -/
def labelMark : Bytes := "xn--".text.map fun c => UInt8.ofNat c.toNat

/-- A label has fewer bytes than this. -/
def labelLimit : Nat := 64

/-- What is wrong with a label that is wrong in Punycode. -/
def inLabel : Unreadable → Unreadable
  | .unfit (.numbers fault) => .unfit (.labelNumbers fault)
  | e => e

/-- Reads a label. A text that is ASCII needs no label in Punycode. -/
def readLabel (label : Bytes) : Except Unreadable Text := do
  if !labelMark.isPrefixOf label then readAscii label
  else
    let text ← (readPunycode (label.drop labelMark.length)).mapError inLabel
    let written ← readAscii label
    if let some c := text.find? CodePoint.isSurrogate then throw (.unfit (.labelCharacter c))
    else if text.any fun c => 0x80 ≤ c.toNat then return text
    else if text.isEmpty || labelLimit ≤ text.length then throw (.unfit .labelLength)
    else throw (.unfit (.otherLabel written text))

/-- The parts of some bytes between points. -/
def betweenPoints : Bytes → List Bytes
  | [] => [[]]
  | b :: rest =>
    if b = 0x2E then [] :: betweenPoints rest
    else
      match betweenPoints rest with
      | [] => [[b]]
      | part :: parts => (b :: part) :: parts

/-- Whether a label mark is somewhere in some bytes. -/
def hasLabelMark : Bytes → Bool
  | [] => false
  | b :: rest => labelMark.isPrefixOf (b :: rest) || hasLabelMark rest

/-- Reads the name of a host. A point after the last label stays where it is. -/
def readHostName (bytes : Bytes) : Except Unreadable Text :=
  if bytes.isEmpty then .ok []
  else
    match hasLabelMark bytes, readAscii bytes with
    | false, .ok text => .ok text
    | _, _ => do
      let labels := betweenPoints bytes
      let isEnded := labels.getLast?.any List.isEmpty
      let texts ← (if isEnded then labels.dropLast else labels).mapM readLabel
      let name := Text.join ".".text texts
      return if isEnded then name ++ ".".text else name

end HtmlTemplate.Charset
