import HtmlTemplate.Charset.Decoder
import HtmlTemplate.Text.Quoted

/-!
# Punycode

The characters of ASCII of a text come first, then a hyphen, and then numbers that tell where the other characters
belong and which they are. The digits of a number are letters and figures, and a digit below a threshold, which
adapts to what has been read, ends it.
-/

namespace HtmlTemplate.Charset

/-- Why numbers tell nothing. -/
inductive PunycodeFault where
  | incomplete
  | badDigit (c : CodePoint)
  | beyondUnicode (code : Nat)
  deriving DecidableEq, Repr

namespace PunycodeFault

/-- The hexadecimal digits of a number. -/
def hexText (n : Nat) : Text := Text.digits 16 n

/-- The words for a fault. -/
def message : PunycodeFault → Text
  | .incomplete => "incomplete punicode string".text
  | .badDigit c => "Invalid extended code point '".text ++ [c, '\x27']
  | .beyondUnicode code => "Invalid character U+".text ++ hexText code

end PunycodeFault

/-- The value of a digit. -/
def digit36? (c : CodePoint) : Option Nat :=
  if 'A' ≤ c && c ≤ 'Z' then some (c.toNat - 0x41)
  else if '0' ≤ c && c ≤ '9' then some (c.toNat - 0x30 + 26)
  else none

/-- The threshold of the digit with the number `k`. -/
def threshold (bias k : Nat) : Nat :=
  let t := 36 * (k + 1) - bias
  if t < 1 then 1 else if 26 < t then 26 else t

/-- The number in front of some digits, and what follows it. -/
def variableNumber (bias : Nat) : Nat → Nat → Nat → Text → Except PunycodeFault (Nat × Text)
  | _, _, _, [] => .error .incomplete
  | k, value, weight, c :: rest =>
    match digit36? c with
    | none => .error (.badDigit c)
    | some digit =>
      let t := threshold bias k
      let value := value + digit * weight
      if digit < t then .ok (value, rest) else variableNumber bias (k + 1) value (weight * (36 - t)) rest

/-- Divides a distance by 35 until it is small; the answer counts 36 for each division. -/
def scaled : Nat → Nat → Nat → Nat × Nat
  | 0, delta, k => (delta, k)
  | steps + 1, delta, k => if 455 < delta then scaled steps (delta / 35) (k + 36) else (delta, k)

/-- The bias after a distance. -/
def adapt (delta : Nat) (isFirst : Bool) (count : Nat) : Nat :=
  let delta := if isFirst then delta / 700 else delta / 2
  let (delta, k) := scaled delta (delta + delta / count) 0
  k + 36 * delta / (delta + 38)

/-- Puts the characters that numbers tell into a text. `code` is the latest of them, and `place` is after it. -/
def insertChars : Nat → Nat → Nat → Nat → Bool → Text → Text → Except PunycodeFault Text
  | 0, _, _, _, _, base, _ => .ok base
  | _, _, _, _, _, base, [] => .ok base
  | steps + 1, code, place, bias, isFirst, base, c :: rest => do
    let (delta, rest) ← variableNumber bias 0 0 1 (c :: rest)
    let far := place + delta
    let code := code + far / (base.length + 1)
    if 0x10FFFF < code then throw (.beyondUnicode code)
    let place := far % (base.length + 1)
    let base := base.take place ++ CodePoint.ofNat code :: base.drop place
    insertChars steps code (place + 1) (adapt delta isFirst base.length) false base rest

/-- The text of which the numbers are in `extended`. -/
def punycode (base extended : Text) : Except PunycodeFault Text :=
  insertChars (extended.length + 1) 0x80 0 72 true base (extended.map (·.map Char.toUpper))

end HtmlTemplate.Charset
