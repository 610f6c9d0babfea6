import HtmlTemplate.Number.Double
import HtmlTemplate.Text.Basic

/-!
# Decimal text of numbers

A number of double precision is written with the fewest decimal digits that read back as the number; of the
numerals with that many digits the nearest to the number is taken. The digits stand in positional notation where the
leading one counts from `10 ^ -4` to `10 ^ 15`, and in scientific notation elsewhere.
-/

namespace HtmlTemplate

/-- A decimal numeral: its digits, of which the first counts `10 ^ exponent`. -/
structure Decimal where
  digits : Text
  exponent : Int
  deriving DecidableEq, Repr

namespace Double

/-- A fraction times `10 ^ p`. -/
def timesTen (num den : Nat) (p : Int) : Nat × Nat :=
  if 0 ≤ p then (num * tenTo p.toNat, den) else (num, den * tenTo (-p).toNat)

/-- The exponent of the leading decimal digit of a positive fraction. -/
def leadingExponent (num den : Nat) : Int :=
  if den ≤ num then (Nat.toDigits 10 (num / den)).length - 1
  else
    match (List.range 400).find? fun j => den ≤ num * tenTo j with
    | some j => -j
    | none => 0

/-- Whether the fraction `a` lies between `lo` and `hi`, the ends counted in if `closed`. -/
def between (closed : Bool) (lo a hi : Nat × Nat) : Bool :=
  let x := lo.1 * a.2
  let y := a.1 * lo.2
  let z := a.1 * hi.2
  let w := hi.1 * a.2
  if closed then x ≤ y && z ≤ w else x < y && z < w

/-- The numeral `c * 10 ^ p` without trailing noughts. -/
def decimalOf (c : Nat) (p : Int) : Decimal :=
  let digits := Text.ofNat c
  let kept := (digits.reverse.dropWhile (· == ('0' : CodePoint))).reverse
  ⟨if kept = [] then ['0'] else kept, digits.length - 1 + p⟩

/-- Among the numerals with last digit at `10 ^ p`, the one nearest to `v` that lies in the interval. -/
def numeralAt? (closed : Bool) (lo v hi : Nat × Nat) (p : Int) : Option Nat :=
  let (a, b) := timesTen v.1 v.2 (-p)
  let c := a / b
  let inside (n : Nat) : Bool := between closed lo (timesTen n 1 p) hi
  let lowerNearer := 2 * (a % b) < b || (2 * (a % b) == b && c % 2 == 0)
  if inside c && (lowerNearer || !inside (c + 1)) then some c
  else if inside (c + 1) then some (c + 1)
  else none

/-- The shortest numeral that reads back as `significand * 2 ^ exponent`. -/
def shortest (significand : Nat) (exponent : Int) : Decimal :=
  let quarter (n : Nat) : Nat × Nat := scale n 1 (2 - exponent)
  let v := quarter (4 * significand)
  let hi := quarter (4 * significand + 2)
  let lo := quarter (if significand = twoTo 52 && minExponent < exponent then 4 * significand - 1
    else 4 * significand - 2)
  let lead := leadingExponent v.1 v.2
  let found := (List.range 18).findSome? fun (n : Nat) =>
    let p := lead - (n : Int)
    (numeralAt? (significand % 2 == 0) lo v hi p).map fun c => decimalOf c p
  found.getD ⟨['0'], 0⟩

end Double

namespace Decimal

/-- The numeral in positional notation, with at least one digit after the point. -/
def positional (d : Decimal) : Text :=
  if d.exponent < 0 then
    "0.".text ++ List.replicate (-d.exponent - 1).toNat ('0' : CodePoint) ++ d.digits
  else
    let whole := (d.exponent + 1).toNat
    let fraction := d.digits.drop whole
    d.digits.take whole ++ List.replicate (whole - d.digits.length) ('0' : CodePoint) ++ ".".text ++
      (if fraction = [] then "0".text else fraction)

/-- The numeral in scientific notation; the exponent has a sign and at least two digits. -/
def scientific (d : Decimal) : Text :=
  let power := Text.ofNat d.exponent.natAbs
  d.digits.take 1 ++ (if d.digits.drop 1 = [] then [] else ".".text ++ d.digits.drop 1) ++
    (if d.exponent < 0 then "e-" else "e+").text ++ List.replicate (2 - power.length) ('0' : CodePoint) ++ power

/-- The numeral in the notation that its size calls for. -/
def text (d : Decimal) : Text :=
  if -4 ≤ d.exponent && d.exponent < 16 then d.positional else d.scientific

end Decimal

/-- The text of a number of double precision. -/
def Double.text : Double → Text
  | .nan _ => ['n', 'a', 'n']
  | .infinity s => (if s then "-inf" else "inf").text
  | .finite s m e =>
    (if s then "-".text else []) ++ (if m = 0 then "0.0".text else (Double.shortest m e).text)

end HtmlTemplate
