import HtmlTemplate.Expr.Numeral
import HtmlTemplate.Text.Figure

/-!
# Reading JSON

Data for templates are written in JSON; besides its values there are `NaN`, `Infinity` and `-Infinity`. Of two
entries of an object with one key the later one counts. A text that is no JSON has a fault, at a position.
-/

namespace HtmlTemplate.Json

/-- What is wrong with a text that is no JSON. -/
inductive Cause where
  | byteOrderMark
  | expectedValue
  | expectedName
  | expectedColon
  | expectedComma
  | unterminatedString
  | controlCharacter
  | badEscape
  | badUnicodeEscape
  | extraData
  deriving DecidableEq, Repr

namespace Cause

/-- The words for a cause. -/
def message : Cause → Text
  | .byteOrderMark => "Unexpected UTF-8 BOM (decode using utf-8-sig)".text
  | .expectedValue => "Expecting value".text
  | .expectedName => "Expecting property name enclosed in double quotes".text
  | .expectedColon => "Expecting ':' delimiter".text
  | .expectedComma => "Expecting ',' delimiter".text
  | .unterminatedString => "Unterminated string starting at".text
  | .controlCharacter => "Invalid control character at".text
  | .badEscape => "Invalid \\escape".text
  | .badUnicodeEscape => "Invalid \\uXXXX escape".text
  | .extraData => "Extra data".text

end Cause

/-- Why a text cannot be read. -/
inductive Fault where
  | malformed (cause : Cause) (position : Nat)
  | numeralTooLong (digits : Nat)
  deriving DecidableEq, Repr

/-- The place of a position in a text, as messages tell it. -/
def place (source : Text) (position : Nat) : Text :=
  let before := source.take position
  "line ".text ++ Text.ofNat (before.count ('\n' : CodePoint) + 1) ++ " column ".text ++
    Text.ofNat ((before.reverse.takeWhile (· ≠ ('\n' : CodePoint))).length + 1) ++ " (char ".text ++
    Text.ofNat position ++ ")".text

/-- The message about a fault at a position of the text `source`. -/
def Cause.messageAt (source : Text) (position : Nat) (cause : Cause) : Text :=
  cause.message ++ ": ".text ++ place source position

/-- Blanks between the parts of JSON. -/
def isSpace (c : CodePoint) : Bool := c = ' ' || c = '\t' || c = '\n' || c = '\r'

/-- The text after the blanks at its front. -/
def skipSpace (s : Text) : Text := s.dropWhile isSpace

/-- The number that four hexadecimal digits write at the front of a text, and the text after them, which must not be
empty. -/
def unit? : Text → Option (Nat × Text)
  | a :: b :: c :: d :: e :: rest => do
    let n ← hexNumber? [a, b, c, d]
    return (n, e :: rest)
  | _ => none

/-- The character that a backslash and `c` write. -/
def escape? (c : CodePoint) : Option CodePoint :=
  match c with
  | '\x22' => some '\x22'
  | '\\' => some '\\'
  | '/' => some '/'
  | 'b' => some '\x08'
  | 'f' => some '\x0c'
  | 'n' => some '\n'
  | 'r' => some '\r'
  | 't' => some '\t'
  | _ => none

/-- The second half of a pair of units, if the first half `high` is in front of one. -/
def lowHalf? (high : Nat) : Text → Option (Nat × Text)
  | '\\' :: 'u' :: rest => do
    let (low, rest) ← unit? rest
    if 0xD800 ≤ high && high < 0xDC00 && 0xDC00 ≤ low && low < 0xE000 then
      return (0x10000 + (high - 0xD800) * 0x400 + (low - 0xDC00), rest)
    else none
  | _ => none

/-- The string after its opening quote, and the text after the closing one. Of the text `total` characters were there
at the start, and the opening quote is at `start`. -/
def stringFrom (total start : Nat) : Nat → Text → Except Fault (Text × Text)
  | 0, _ => .error (.malformed .unterminatedString start)
  | steps + 1, s => do
    match s with
    | [] => throw (.malformed .unterminatedString start)
    | '\x22' :: rest => return ([], rest)
    | ['\\'] => throw (.malformed .unterminatedString start)
    | '\\' :: 'u' :: rest =>
      match unit? rest with
      | none => throw (.malformed .badUnicodeEscape (total - rest.length - 1))
      | some (high, after) =>
        let (code, after) := (lowHalf? high after).getD (high, after)
        let (body, rest) ← stringFrom total start steps after
        return (CodePoint.ofNat code :: body, rest)
    | '\\' :: c :: rest =>
      match escape? c with
      | none => throw (.malformed .badEscape (total - rest.length - 2))
      | some d =>
        let (body, rest) ← stringFrom total start steps rest
        return (d :: body, rest)
    | c :: rest =>
      if c.toNat ≤ 0x1F then throw (.malformed .controlCharacter (total - rest.length - 1))
      let (body, rest) ← stringFrom total start steps rest
      return (c :: body, rest)

/-- The digits at the front of a text after `mark`, with the mark; nothing if there is no mark or no digit. -/
def fraction (s : Text) : Text × Text :=
  match s with
  | '.' :: rest =>
    let digits := rest.takeWhile isFigure
    if digits.isEmpty then ([], s) else ('.' :: digits, rest.dropWhile isFigure)
  | s => ([], s)

/-- The exponent at the front of a text; nothing if there is none. -/
def exponent (s : Text) : Text × Text :=
  match s with
  | e :: rest =>
    if e = 'e' || e = 'E' then
      let sign := (rest.take 1).filter fun c : CodePoint => c = '+' || c = '-'
      let after := rest.drop sign.length
      let digits := after.takeWhile isFigure
      if digits.isEmpty then ([], s) else (e :: sign ++ digits, after.dropWhile isFigure)
    else ([], s)
  | [] => ([], s)

/-- The digits of the whole part of a number: a nought, or digits that begin with none. -/
def wholePart? (s : Text) : Option (Text × Text) :=
  match s with
  | '0' :: rest => some (['0'], rest)
  | s =>
    let digits := s.takeWhile isFigure
    if digits.isEmpty then none else some (digits, s.dropWhile isFigure)

/-- The number at the front of a text, without its sign. -/
def number (negative : Bool) (position : Nat) (s : Text) : Except Fault (Value × Text) :=
  match wholePart? s with
  | none => .error (.malformed .expectedValue position)
  | some (whole, rest) =>
    let (decimals, rest) := fraction rest
    let (power, rest) := exponent rest
    if decimals.isEmpty && power.isEmpty then
      if maxIntegerDigits < whole.length then .error (.numeralTooLong whole.length)
      else .ok (.ofInt (if negative then -(digitsValue whole : Int) else digitsValue whole), rest)
    else
      let x := Expr.doubleOf (whole ++ decimals ++ power)
      .ok (.ofFloat (if negative then x.neg else x), rest)

/-- The names that stand for values. -/
def constants : List (Text × Value) :=
  [("null".text, .null), ("true".text, .bool true), ("false".text, .bool false),
   ("NaN".text, .ofFloat (.nan (.given 1))), ("Infinity".text, .ofFloat (.infinity false)),
   ("-Infinity".text, .ofFloat (.infinity true))]

/-- The named value at the front of a text, and the text after it. -/
def constant? (s : Text) : Option (Value × Text) :=
  constants.findSome? fun (name, v) => (name.isPrefixOf? s).map fun rest => (v, rest)

mutual

/-- The value at the front of a text, and the text after it. -/
def value (total : Nat) : Nat → Text → Except Fault (Value × Text)
  | 0, s => .error (.malformed .expectedValue (total - s.length))
  | steps + 1, s => do
    match s with
    | [] => throw (.malformed .expectedValue total)
    | '\x22' :: rest =>
      let (body, rest) ← stringFrom total (total - s.length) (rest.length + 1) rest
      return (.string body, rest)
    | '\x7b' :: rest =>
      match skipSpace rest with
      | '\x7d' :: rest => return (.mapping [], rest)
      | rest =>
        let (pairs, rest) ← entries total steps rest
        return (.mapping (Entries.ofPairs pairs), rest)
    | '[' :: rest =>
      match skipSpace rest with
      | ']' :: rest => return (.list [], rest)
      | rest =>
        let (values, rest) ← items total steps rest
        return (.list values, rest)
    | c :: rest =>
      match constant? s with
      | some found => return found
      | none => if c = '-' then number true (total - s.length) rest else number false (total - s.length) s

/-- The entries of an object up to the closing brace, and the text after it. -/
def entries (total : Nat) : Nat → Text → Except Fault (List (Text × Value) × Text)
  | 0, s => .error (.malformed .expectedName (total - s.length))
  | steps + 1, s => do
    match s with
    | '\x22' :: inside =>
      let (key, rest) ← stringFrom total (total - s.length) (inside.length + 1) inside
      match skipSpace rest with
      | ':' :: rest =>
        let (v, rest) ← value total steps (skipSpace rest)
        match skipSpace rest with
        | '\x7d' :: rest => return ([(key, v)], rest)
        | ',' :: rest =>
          let (others, rest) ← entries total steps (skipSpace rest)
          return ((key, v) :: others, rest)
        | rest => throw (.malformed .expectedComma (total - rest.length))
      | rest => throw (.malformed .expectedColon (total - rest.length))
    | s => throw (.malformed .expectedName (total - s.length))

/-- The items of an array up to the closing bracket, and the text after it. -/
def items (total : Nat) : Nat → Text → Except Fault (List Value × Text)
  | 0, s => .error (.malformed .expectedValue (total - s.length))
  | steps + 1, s => do
    let (v, rest) ← value total steps s
    match skipSpace rest with
    | ']' :: rest => return ([v], rest)
    | ',' :: rest =>
      let (others, rest) ← items total steps (skipSpace rest)
      return (v :: others, rest)
    | rest => throw (.malformed .expectedComma (total - rest.length))

end

/-- The value that a text writes. -/
def read (source : Text) : Except Fault Value := do
  match source with
  | '\uFEFF' :: _ => throw (.malformed .byteOrderMark 0)
  | source =>
    let (v, rest) ← value source.length (2 * source.length + 2) (skipSpace source)
    match skipSpace rest with
    | [] => return v
    | rest => throw (.malformed .extraData (source.length - rest.length))

end HtmlTemplate.Json
