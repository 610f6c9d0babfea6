import HtmlTemplate.Number.Double

/-!
# Numbers

A number is an integer of any size or a number of double precision. Sums, differences and products of integers are
integers; a quotient is always of double precision. Comparison is exact across the two kinds.
-/

namespace HtmlTemplate

/-- An integer or a number of double precision. -/
inductive Number where
  | int (n : Int)
  | float (x : Double)
  deriving DecidableEq, Repr

/-- Why an operation on numbers has no result. -/
inductive NumberError where
  /-- An integer is beyond the largest number of double precision. -/
  | integerTooLarge
  /-- The quotient of two integers is beyond the largest number of double precision. -/
  | quotientTooLarge
  | divisionByZero
  | remainderByZero
  /-- An infinite dividend leaves no remainder. -/
  | infiniteDividend
  deriving DecidableEq, Repr

namespace Number

/-- The integer nought is the number nought, and so are the two noughts of double precision. -/
def isZero : Number → Bool
  | .int n => n == 0
  | .float x => x.isNought

/-- The number in double precision. -/
def toDouble : Number → Except NumberError Double
  | .float x => .ok x
  | .int n =>
    match Double.ofInt n with
    | .infinity _ => .error .integerTooLarge
    | x => .ok x

/-- The number with the other sign. -/
def neg : Number → Number
  | .int n => .int (-n)
  | .float x => .float x.neg

/-- An operation that keeps integers and otherwise works in double precision. -/
def combine (onInt : Int → Int → Int) (onDouble : Double → Double → Double) :
    Number → Number → Except NumberError Number
  | .int a, .int b => .ok (.int (onInt a b))
  | a, b => do return .float (onDouble (← a.toDouble) (← b.toDouble))

/-- The sum of two numbers. -/
def add : Number → Number → Except NumberError Number := combine (· + ·) Double.add

/-- The difference of two numbers. -/
def sub : Number → Number → Except NumberError Number := combine (· - ·) Double.sub

/-- The product of two numbers. -/
def mul : Number → Number → Except NumberError Number := combine (· * ·) Double.mul

/-- The quotient in double precision. -/
def div (a b : Number) : Except NumberError Number :=
  if b.isZero then .error .divisionByZero
  else
    match a, b with
    | .int m, .int n =>
      match Double.ofRatio (decide (m < 0) != decide (n < 0)) m.natAbs n.natAbs with
      | .infinity _ => .error .quotientTooLarge
      | x => .ok (.float x)
    | a, b => do return .float ((← a.toDouble).div (← b.toDouble))

/-- The remainder of the division that rounds toward nought. It is computed in double precision, and is an integer
if both numbers are. -/
def mod (a b : Number) : Except NumberError Number :=
  if b.isZero then .error .remainderByZero
  else do
    let x ← a.toDouble
    let y ← b.toDouble
    match x.remainder? y with
    | none => .error .infiniteDividend
    | some r =>
      match a, b with
      | .int _, .int _ => return .int (r.toInt?.getD 0)
      | _, _ => return .float r

/-- How two numbers compare; nothing compares with a `nan`. -/
def compare? : Number → Number → Option Ordering
  | .int a, .int b => some (compare a b)
  | .float x, .float y => x.compare? y
  | .int a, .float y => compareInt a y
  | .float x, .int b => (compareInt b x).map Ordering.swap
where
  /-- How an integer compares with a number of double precision. -/
  compareInt (a : Int) : Double → Option Ordering
    | .nan _ => none
    | .infinity s => some (if s then .gt else .lt)
    | y =>
      match y.ratio? with
      | some (c, d) => some (compare (a * d) c)
      | none => none

/-- Whether two numbers are equal. -/
def equal (a b : Number) : Bool := a.compare? b == some .eq

/-- The integer that the number is, if it is one. -/
def toInt? : Number → Option Int
  | .int n => some n
  | .float x => x.toInt?

end Number

end HtmlTemplate
