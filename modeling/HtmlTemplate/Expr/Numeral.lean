import HtmlTemplate.Text.Word
import HtmlTemplate.Value.Display

/-!
# Values of numerals

A numeral with a point or an exponent is of double precision, every other one is an integer. An integer of more than
4300 digits is refused.
-/

namespace HtmlTemplate.Expr

/-- An integer that is written with too many digits. -/
structure NumeralTooLong where
  digits : Nat
  deriving DecidableEq, Repr

/-- The parts of a numeral: the digits before the point, those after it, and the exponent. -/
def decimalParts (s : Text) : Text × Text × Int :=
  let whole := s.takeWhile isDigit
  let rest := s.drop whole.length
  let (fraction, rest) :=
    match rest with
    | '.' :: more => (more.takeWhile isDigit, more.dropWhile isDigit)
    | rest => ([], rest)
  let exponent : Int :=
    match rest with
    | _ :: '-' :: digits => -(digitsValue digits : Int)
    | _ :: '+' :: digits => digitsValue digits
    | _ :: digits => digitsValue digits
    | [] => 0
  (whole, fraction, exponent)

/-- The number of double precision that a numeral stands for. -/
def doubleOf (s : Text) : Double :=
  let (whole, fraction, exponent) := decimalParts s
  .ofDecimal false (digitsValue (whole ++ fraction)) (exponent - fraction.length)

/-- Whether a numeral has a point or an exponent. -/
def isDecimal (s : Text) : Bool := s.any fun c => c = '.' || c = 'e' || c = 'E'

/-- The value of a numeral. -/
def numeralValue (s : Text) : Except NumeralTooLong Value :=
  if isDecimal s then .ok (.ofFloat (doubleOf s))
  else if maxIntegerDigits < s.length then .error ⟨s.length⟩
  else .ok (.ofInt (digitsValue s))

end HtmlTemplate.Expr
