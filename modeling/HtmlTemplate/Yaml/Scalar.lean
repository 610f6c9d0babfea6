import HtmlTemplate.Expr.Numeral
import HtmlTemplate.Text.Blank
import HtmlTemplate.Text.Case
import HtmlTemplate.Yaml.Fault
import HtmlTemplate.Yaml.Tag

/-!
# Data of scalars

What the text of a scalar stands for under a tag: a boolean, a number, bytes, a day or a moment. A text with a tag need
not look like what the tag says, and then has a fault.
-/

namespace HtmlTemplate.Yaml

/-- The boolean of a word, in whatever case. -/
def boolOf (s : Text) : Except Fault Bool :=
  let word := s.lower
  if (["yes", "true", "on"].map String.text).contains word then .ok true
  else if (["no", "false", "off"].map String.text).contains word then .ok false
  else .error (.noBoolean word)

/-- The value of a digit to a base up to sixteen. -/
def figureOf? (base : Nat) (c : CodePoint) : Option Nat :=
  ((digitValue? c).or (hexValue? c)).filter (· < base)

/-- The sign at the front of a text, and the text after it. -/
def signOf : Text → Bool × Text
  | '-' :: rest => (true, rest)
  | '+' :: rest => (false, rest)
  | s => (false, s)

/-- The integer with or without a minus sign. -/
def signed (negative : Bool) (n : Int) : Int := if negative then -n else n

/-- The mark of a base in front of a number. -/
def baseMark? (base : Nat) : Option CodePoint :=
  if base = 2 then some 'b' else if base = 8 then some 'o' else if base = 16 then some 'x' else none

/-- The integer to a base that a text writes. Blanks around it, a sign and the mark of the base do not count. To the
base ten it has at most 4300 digits. -/
def integerOf (base : Nat) (s : Text) : Except Fault Int :=
  let (negative, u) := signOf s.trim
  let u :=
    match u with
    | '0' :: mark :: rest => if baseMark? base = some (mark.map Char.toLower) then rest else u
    | u => u
  let figures := u.takeWhile fun c => (figureOf? base c).isSome
  if base = 10 && maxIntegerDigits < figures.length then .error (.numeralTooLong figures.length)
  else if figures.isEmpty || figures.length < u.length then .error (.noInteger base s)
  else .ok (signed negative (figures.foldl (fun n c => base * n + (figureOf? base c).getD 0) 0 : Nat))

/-- The number of double precision that a text writes. Blanks around it do not count. -/
def decimalOf (s : Text) : Except Fault Double :=
  let (negative, u) := signOf s.trim
  let word := u.map (·.map Char.toLower)
  if word = "inf".text || word = "infinity".text then .ok (.infinity negative)
  else if word = "nan".text then .ok (.nan .computed)
  else
    let (whole, rest) := (u.takeWhile isDigit, u.dropWhile isDigit)
    let (fraction, rest) :=
      match rest with
      | '.' :: rest => (rest.takeWhile isDigit, rest.dropWhile isDigit)
      | rest => ([], rest)
    let isExponent :=
      match rest with
      | [] => true
      | mark :: rest =>
        let (_, figures) := signOf rest
        (mark = 'e' || mark = 'E') && !figures.isEmpty && figures.all isDigit
    if (whole ++ fraction).isEmpty || !isExponent then .error (.noDecimal s)
    else
      let x := Expr.doubleOf u
      .ok (if negative then x.neg else x)

/-- A text without the low lines between its digits. -/
def withoutLines (s : Text) : Text := s.filter (· ≠ '_')

/-- The integer of a scalar: to the base two after `0b`, sixteen after `0x`, eight after `0`, sixty between colons, else
ten. -/
def integer (s : Text) : Except Fault Int := do
  let s := withoutLines s
  if s.isEmpty then throw .emptyNumeral
  let (negative, u) := signOf s
  let n ←
    match u with
    | [] => throw .emptyNumeral
    | ['0'] => pure 0
    | '0' :: 'b' :: figures => integerOf 2 figures
    | '0' :: 'x' :: figures => integerOf 16 figures
    | '0' :: _ => integerOf 8 u
    | u =>
      if u.contains ':' then do
        let digits ← (Tag.places u).mapM (integerOf 10)
        pure (digits.foldl (fun n digit => 60 * n + digit) 0)
      else integerOf 10 u
  return signed negative n

/-- The sum of places to the base sixty, the last one first, of which the first counts `unit`. -/
def sumOfPlaces : Nat → Double → List Double → Except Fault Double
  | _, sum, [] => .ok sum
  | unit, sum, x :: rest =>
    match Double.ofInt unit with
    | .infinity _ => .error .placesTooMany
    | y => sumOfPlaces (60 * unit) (sum.add (x.mul y)) rest

/-- The number of double precision of a scalar, maybe to the base sixty. -/
def decimal (s : Text) : Except Fault Double := do
  let s := (withoutLines s).lower
  if s.isEmpty then throw .emptyNumeral
  let (negative, u) := signOf s
  if u = ".nan".text then return .nan (.given 1)
  let x ←
    if u = ".inf".text then pure (Double.infinity false)
    else if u.contains ':' then do
      let digits ← (Tag.places u).mapM decimalOf
      sumOfPlaces 1 (Double.nought false) digits.reverse
    else decimalOf u
  return if negative then x.neg else x

/-- The six bits of a character of base64. -/
def sextet? (c : CodePoint) : Option Nat :=
  if 'A' ≤ c && c ≤ 'Z' then some (c.toNat - 65)
  else if 'a' ≤ c && c ≤ 'z' then some (c.toNat - 71)
  else if isFigure c then some (c.toNat + 4)
  else if c = '+' then some 62
  else if c = '/' then some 63
  else none

/-- The bytes that the rest of a text in base64 writes. `count` of the characters of a group of four have been read,
of which `bits` are left, and after them `pads` signs of an unfinished group. Other characters do not count, and
neither does what follows a group that is finished by such signs. -/
def base64From (count bits pads : Nat) : Text → Except Fault Bytes
  | [] => if count = 0 then .ok [] else .error .malformed
  | c :: rest =>
    if c = '=' then
      if 2 ≤ count && 4 ≤ count + (pads + 1) then .ok [] else base64From count bits (pads + 1) rest
    else
      match sextet? c with
      | none => base64From count bits pads rest
      | some n =>
        match count with
        | 0 => base64From 1 n 0 rest
        | 1 => (base64From 2 (n % 16) 0 rest).map (UInt8.ofNat (bits * 4 + n / 16) :: ·)
        | 2 => (base64From 3 (n % 4) 0 rest).map (UInt8.ofNat (bits * 16 + n / 4) :: ·)
        | _ => (base64From 0 0 0 rest).map (UInt8.ofNat (bits * 64 + n) :: ·)

/-- The bytes of a scalar in base64. -/
def binary (s : Text) : Except Fault Bytes :=
  if s.all fun c => c.toNat < 128 then base64From 0 0 0 s else .error .malformed

/-- The day or the moment of a scalar. A line end at its end does not count. -/
def timestamp (s : Text) : Except Fault Datum :=
  match Stamp.ofText? (if s.getLast? = some ('\n' : CodePoint) then s.dropLast else s) with
  | none => .error .noMoment
  | some stamp => stamp.toDatum.mapError Fault.calendar

/-- The datum of a scalar, if the tag is one of scalars. -/
def scalarOf (tag : Tag) (s : Text) : Except Fault Datum :=
  match tag with
  | .null => .ok .null
  | .bool => (boolOf s).map Datum.bool
  | .int => (integer s).map Datum.ofInt
  | .float => (decimal s).map fun x => .number (.float x)
  | .binary => (binary s).map Datum.bytes
  | .timestamp => timestamp s
  | .str => .ok (.text s)
  | _ => .error .malformed

end HtmlTemplate.Yaml
