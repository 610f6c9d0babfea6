import HtmlTemplate.Text.Basic

/-!
# Numbers of double precision

A number of double precision is a sign, a significand below `2 ^ 53` and a power of two, or an infinity, or not a
number. Every operation is computed exactly on fractions of natural numbers and then rounded once, to the nearest
such number, a half going to the even neighbour.
-/

namespace HtmlTemplate

/-- Two to a power. -/
def twoTo (n : Nat) : Nat := Nat.pow 2 n

/-- Ten to a power. -/
def tenTo (n : Nat) : Nat := Nat.pow 10 n

/-- What tells a `nan` from others. -/
inductive NanIdentity where
  /-- It was computed, and is bound to no name: it is like no other. -/
  | computed
  /-- It stands in given data, as the datum of that number. -/
  | given (datum : Nat)
  /-- It was computed and then bound to a name, at a level of a rendering; `place` leads to it in the bound value, the
  innermost position first. -/
  | bound (level : Nat) (name : Text) (place : List Nat)
  deriving DecidableEq, Repr

/-- A number of double precision. -/
inductive Double where
  | nan (identity : NanIdentity)
  | infinity (negative : Bool)
  | finite (negative : Bool) (significand : Nat) (exponent : Int)
  deriving DecidableEq, Repr

namespace Double

/-- The exponent of the smallest numbers. -/
def minExponent : Int := -1074

/-- The exponent of the largest numbers. -/
def maxExponent : Int := 971

/-- The natural number nearest to `num / den`, a half going to the even neighbour. -/
def nearest (num den : Nat) : Nat :=
  let q := num / den
  let r := num % den
  if 2 * r < den then q
  else if den < 2 * r then q + 1
  else if q % 2 = 0 then q
  else q + 1

/-- The fraction `num / den` divided by `2 ^ e`. -/
def scale (num den : Nat) (e : Int) : Nat × Nat :=
  if 0 ≤ e then (num, den <<< e.toNat) else (num <<< (-e).toNat, den)

/-- Nought, with a sign. -/
def nought (negative : Bool) : Double := .finite negative 0 minExponent

/-- The exponent at which `num / den` has 53 binary digits, or the smallest exponent if it has fewer there. -/
def exponentFor (num den : Nat) : Int :=
  let guess : Int := (num.log2 : Int) - (den.log2 : Int) - 52
  let (a, b) := scale num den guess
  max (if a / b < twoTo 52 then guess - 1 else guess) minExponent

/-- The number nearest to `num / den`; an infinity if that is beyond the largest number. -/
def ofRatio (negative : Bool) (num den : Nat) : Double :=
  if num = 0 then nought negative
  else
    let e := exponentFor num den
    let (a, b) := scale num den e
    let q := nearest a b
    let (q, e) := if q = twoTo 53 then (twoTo 52, e + 1) else (q, e)
    if maxExponent < e then .infinity negative else .finite negative q e

/-- The number nearest to the integer `n`. -/
def ofInt (n : Int) : Double := ofRatio (n < 0) n.natAbs 1

/-- The number nearest to `n * 10 ^ e`. -/
def ofDecimal (negative : Bool) (n : Nat) (e : Int) : Double :=
  let magnitude : Int := (Nat.toDigits 10 n).length + e
  if n = 0 || magnitude < -400 then nought negative
  else if 400 < magnitude then .infinity negative
  else if 0 ≤ e then ofRatio negative (n * tenTo e.toNat) 1
  else ofRatio negative n (tenTo (-e).toNat)

/-- Whether a number has a minus sign. -/
def isNegative : Double → Bool
  | .nan _ => false
  | .infinity s => s
  | .finite s _ _ => s

/-- Whether it is no number. -/
def isNan : Double → Bool
  | .nan _ => true
  | _ => false

/-- Whether the number is nought, of either sign. -/
def isNought : Double → Bool
  | .finite _ m _ => m == 0
  | _ => false

/-- The fraction that a finite number stands for; the denominator is a power of two. -/
def ratio? : Double → Option (Int × Nat)
  | .finite s m e =>
    let (a, b) := scale m 1 (-e)
    some (if s then -(a : Int) else a, b)
  | _ => none

/-- The integer that a finite number stands for, if it is one. -/
def toInt? (x : Double) : Option Int :=
  match x.ratio? with
  | some (a, b) => if a % b = 0 then some (a / b) else none
  | none => none

/-- The number nearest to a fraction that may be negative; `zeroSign` is the sign of a nought. -/
def ofFraction (zeroSign : Bool) (a : Int) (b : Nat) : Double :=
  ofRatio (if a = 0 then zeroSign else a < 0) a.natAbs b

/-- The number with the other sign. -/
def neg : Double → Double
  | .nan _ => .nan .computed
  | .infinity s => .infinity (!s)
  | .finite s m e => .finite (!s) m e

/-- The sum, rounded once. -/
def add : Double → Double → Double
  | .nan _, _ => .nan .computed
  | _, .nan _ => .nan .computed
  | .infinity s, .infinity t => if s == t then .infinity s else .nan .computed
  | .infinity s, _ => .infinity s
  | _, .infinity t => .infinity t
  | .finite s m e, .finite t n f =>
    match ratio? (.finite s m e), ratio? (.finite t n f) with
    | some (a, b), some (c, d) => ofFraction (s && t && m == 0 && n == 0) (a * d + c * b) (b * d)
    | _, _ => .nan .computed

/-- The difference, rounded once. -/
def sub (x y : Double) : Double := x.add y.neg

/-- The product, rounded once. -/
def mul : Double → Double → Double
  | .nan _, _ => .nan .computed
  | _, .nan _ => .nan .computed
  | .infinity s, y => if y.isNought then .nan .computed else .infinity (s != y.isNegative)
  | x, .infinity t => if x.isNought then .nan .computed else .infinity (x.isNegative != t)
  | .finite s m e, .finite t n f =>
    let (a, b) := scale (m * n) 1 (-(e + f))
    ofRatio (s != t) a b

/-- The quotient; the divisor is not nought. -/
def div : Double → Double → Double
  | .nan _, _ => .nan .computed
  | _, .nan _ => .nan .computed
  | .infinity _, .infinity _ => .nan .computed
  | .infinity s, y => .infinity (s != y.isNegative)
  | x, .infinity t => nought (x.isNegative != t)
  | .finite s m e, .finite t n f =>
    let (a, b) := scale m n (f - e)
    ofRatio (s != t) a b

/-- The remainder of the division that rounds toward nought, with the sign of the dividend; it is exact. There is
none for an infinite dividend or a divisor that is nought. -/
def remainder? : Double → Double → Option Double
  | .nan _, _ => some (.nan .computed)
  | _, .nan _ => some (.nan .computed)
  | .infinity _, _ => none
  | x, .infinity _ => some x
  | .finite s m e, .finite _ n f =>
    if n = 0 then none
    else
      let low := min e f
      let r := (m <<< (e - low).toNat) % (n <<< (f - low).toNat)
      let (a, b) := scale r 1 (-low)
      some (ofRatio s a b)

/-- How two numbers compare; nothing compares with a `nan`. -/
def compare? : Double → Double → Option Ordering
  | .nan _, _ => none
  | _, .nan _ => none
  | .infinity s, .infinity t => some (compare t.toNat s.toNat)
  | .infinity s, _ => some (if s then .lt else .gt)
  | _, .infinity t => some (if t then .gt else .lt)
  | x, y =>
    match x.ratio?, y.ratio? with
    | some (a, b), some (c, d) => some (compare (a * d) (c * b))
    | _, _ => none

end Double

end HtmlTemplate
