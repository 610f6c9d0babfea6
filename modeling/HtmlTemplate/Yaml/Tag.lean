import HtmlTemplate.Text.Figure
import HtmlTemplate.Yaml.Stamp

/-!
# Tags

The tag of a part says what the part stands for. A plain scalar without a tag has the one that its text looks like.
-/

namespace HtmlTemplate.Yaml

/-- What a part stands for. -/
inductive Tag where
  | null
  | bool
  | int
  | float
  | binary
  | timestamp
  | omap
  | pairs
  | set
  | str
  | seq
  | map
  /-- The key whose datum is merged into the mapping around it. -/
  | merge
  /-- The key whose datum a mapping stands for where a scalar is wanted. -/
  | value
  | other
  deriving DecidableEq, Repr

namespace Tag

/-- How the tags of this module begin. -/
def beginning : Text := "tag:yaml.org,2002:".text

/-- The tags by the ends of their texts. -/
def endings : List (String × Tag) :=
  [("null", .null), ("bool", .bool), ("int", .int), ("float", .float), ("binary", .binary),
   ("timestamp", .timestamp), ("omap", .omap), ("pairs", .pairs), ("set", .set), ("str", .str), ("seq", .seq),
   ("map", .map), ("merge", .merge), ("value", .value)]

/-- The tag that a text writes in full. -/
def ofText (s : Text) : Tag :=
  match endings.find? fun entry => beginning ++ entry.1.text = s with
  | some (_, tag) => tag
  | none => .other

/-- The words for booleans. -/
def boolWords : List Text :=
  ["yes", "Yes", "YES", "no", "No", "NO", "true", "True", "TRUE", "false", "False", "FALSE", "on", "On", "ON",
    "off", "Off", "OFF"].map String.text

/-- The words for null. -/
def nullWords : List Text := ["~", "null", "Null", "NULL", ""].map String.text

/-- A decimal digit or a low line, which may stand between digits. -/
def isDigitOrLine (c : CodePoint) : Bool := isFigure c || c = '_'

/-- Whether a text is a digit, and then digits and low lines. -/
def isDigits : Text → Bool
  | c :: rest => isFigure c && rest.all isDigitOrLine
  | [] => false

/-- Whether a text is a number below sixty, without more noughts in front than one. -/
def isSixtieth : Text → Bool
  | [c] => isFigure c
  | [c, d] => '0' ≤ c && c ≤ '5' && isFigure d
  | _ => false

/-- The parts of a text between colons. -/
def places : Text → List Text
  | [] => [[]]
  | ':' :: rest => [] :: places rest
  | c :: rest =>
    match places rest with
    | [] => [[c]]
    | part :: parts => (c :: part) :: parts

/-- A text without the sign at its front. -/
def unsigned : Text → Text
  | '+' :: rest => rest
  | '-' :: rest => rest
  | s => s

/-- Whether a text is empty, or a mark, a sign and figures. -/
def isExponent : Text → Bool
  | [] => true
  | mark :: sign :: figures =>
    (mark = 'e' || mark = 'E') && (sign = '+' || sign = '-') && !figures.isEmpty && figures.all isFigure
  | [_] => false

/-- Whether the text around the first point of a number fits: digits in front of it, or places to the base sixty, and
behind it digits and an exponent. Only a number without a sign may begin with its point. -/
def looksLikeFloat (s : Text) : Bool :=
  let u := unsigned s
  match Text.cut? ['.'] u with
  | none => false
  | some (whole, rest) =>
    let fraction := rest.takeWhile isDigitOrLine
    let exponent := rest.dropWhile isDigitOrLine
    (isDigits whole && isExponent exponent) ||
      (s.head? = some ('.' : CodePoint) && isDigits fraction && isExponent exponent) ||
      (isPlaces isDigits whole && exponent.isEmpty) ||
      (whole.isEmpty && (["inf", "Inf", "INF"].map String.text).contains rest) ||
      (s.head? = some ('.' : CodePoint) && (["nan", "NaN", "NAN"].map String.text).contains rest)
where
  /-- Whether a text is at least two places to the base sixty, of which `f` holds of the first. -/
  isPlaces (f : Text → Bool) (whole : Text) : Bool :=
    match places whole with
    | first :: rest => f first && !rest.isEmpty && rest.all isSixtieth
    | [] => false

/-- Whether a text is digits and low lines, at least one, of which `f` holds of the digits. -/
def isFiguresOf (f : CodePoint → Bool) (s : Text) : Bool := !s.isEmpty && s.all fun c => f c || c = '_'

/-- Whether a text is a digit that is no nought, and then digits and low lines. -/
def isWhole (s : Text) : Bool := isDigits s && s.head? ≠ some ('0' : CodePoint)

/-- Whether a text is a number to the base two, sixteen, eight, ten, or sixty. -/
def looksLikeInt (s : Text) : Bool :=
  match unsigned s with
  | ['0'] => true
  | '0' :: 'b' :: figures => isFiguresOf (fun c => c = '0' || c = '1') figures
  | '0' :: 'x' :: figures => isFiguresOf (fun c => (hexValue? c).isSome) figures
  | '0' :: figures => isFiguresOf (fun c => '0' ≤ c && c ≤ '7') figures
  | u => isWhole u || looksLikeFloat.isPlaces isWhole u

/-- The tag that the text of a plain scalar looks like. A line end at the end of the text does not count. -/
def ofPlain (s : Text) : Tag :=
  let s := if 1 < s.length && s.getLast? = some ('\n' : CodePoint) then s.dropLast else s
  if boolWords.contains s then .bool
  else if looksLikeFloat s then .float
  else if looksLikeInt s then .int
  else if s = "<<".text then .merge
  else if nullWords.contains s then .null
  else if (Stamp.ofText? s).any Stamp.isClear then .timestamp
  else if s = "=".text then .value
  else .str

end Tag

end HtmlTemplate.Yaml
