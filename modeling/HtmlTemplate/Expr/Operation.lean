import HtmlTemplate.Expr.Basic
import HtmlTemplate.Value.Access
import HtmlTemplate.Value.Equality

/-!
# Operations on values

What the operators of expressions compute. Arithmetic is on numbers, booleans counting as such; a sum with a text is
the two displays one after the other. Numbers are ordered among themselves, and so are texts.
-/

namespace HtmlTemplate.Expr

/-- Why an expression has no value. -/
inductive EvalError where
  | operands (op : BinaryOp) (left right : String)
  | operand (op : UnaryOp) (kind : String)
  | incomparable (left : String) (op : BinaryOp) (right : String)
  | number (error : NumberError)
  | access (error : AccessError)
  | display (error : DisplayError)
  deriving DecidableEq, Repr

/-- The value of a sum, difference, product, quotient or remainder of numbers. -/
def arithmetic (op : BinaryOp) (compute : Number → Number → Except NumberError Number) (v w : Value) :
    Except EvalError Value :=
  match v.number?, w.number? with
  | some a, some b =>
    match compute a b with
    | .ok n => .ok (.number n)
    | .error e => .error (.number e)
  | _, _ => .error (.operands op v.kind w.kind)

/-- The display of a value, within an expression. -/
def displayed (v : Value) : Except EvalError Text :=
  match v.display with
  | .ok s => .ok s
  | .error e => .error (.display e)

/-- The sum of two values; with a text on either side it is a text. -/
def sum (v w : Value) : Except EvalError Value :=
  match v, w with
  | .string s, w => do return .string (s ++ (← displayed w))
  | v, .string t => do return .string ((← displayed v) ++ t)
  | v, w => arithmetic .add Number.add v w

/-- How two texts compare. -/
def compareTexts (s t : Text) : Ordering :=
  if s = t then .eq else if Text.lessThan s t then .lt else .gt

/-- The truth of a comparison, given which outcomes make it true. -/
def ordered (op : BinaryOp) (accepts : Ordering → Bool) (v w : Value) : Except EvalError Value :=
  match v.number?, w.number?, v, w with
  | some a, some b, _, _ => .ok (.bool ((a.compare? b).any accepts))
  | _, _, .string s, .string t => .ok (.bool (accepts (compareTexts s t)))
  | _, _, _, _ => .error (.incomparable v.kind op w.kind)

/-- The value of an operator on two values. -/
def BinaryOp.apply (op : BinaryOp) (v w : Value) : Except EvalError Value :=
  match op with
  | .add => sum v w
  | .sub => arithmetic .sub Number.sub v w
  | .mul => arithmetic .mul Number.mul v w
  | .div => arithmetic .div Number.div v w
  | .mod => arithmetic .mod Number.mod v w
  | .less => ordered op Ordering.isLT v w
  | .atMost => ordered op Ordering.isLE v w
  | .greater => ordered op Ordering.isGT v w
  | .atLeast => ordered op Ordering.isGE v w
  | .equal => .ok (.bool (v.looseEqual w))
  | .unequal => .ok (.bool (!v.looseEqual w))
  | .strictEqual => .ok (.bool (v.strictEqual w))
  | .strictUnequal => .ok (.bool (!v.strictEqual w))

/-- The value of an operator in front of a value. -/
def UnaryOp.apply (op : UnaryOp) (v : Value) : Except EvalError Value :=
  match op, v.number? with
  | .not, _ => .ok (.bool (!v.truthy))
  | .negate, some n => .ok (.number n.neg)
  | .plus, some n => .ok (.number n)
  | op, none => .error (.operand op v.kind)

/-- Whether the first operand already is the value. -/
def LogicalOp.settles (op : LogicalOp) (v : Value) : Bool :=
  match op with
  | .both => !v.truthy
  | .either => v.truthy
  | .orElse => !v.isNullish

end HtmlTemplate.Expr
