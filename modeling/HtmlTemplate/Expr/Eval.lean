import HtmlTemplate.Expr.Operation
import HtmlTemplate.Expr.Parser
import HtmlTemplate.Scope

/-!
# Evaluating expressions

The value of an expression in a scope. Names and parts that do not exist are `undefined`; an operator whose operands
do not suit it fails.
-/

namespace HtmlTemplate

namespace Expr

mutual

/-- The value of an expression in a scope. -/
def eval (scope : Scope) : Expr → Except EvalError Value
  | .literal value => .ok value
  | .identifier name => .ok (scope.resolve name)
  | .member object name =>
    match eval scope object with
    | .error e => .error e
    | .ok v => .ok (v.member name)
  | .index object key =>
    match eval scope object with
    | .error e => .error e
    | .ok v =>
      match eval scope key with
      | .error e => .error e
      | .ok k =>
        match v.index k with
        | .ok part => .ok part
        | .error e => .error (.access e)
  | .array items =>
    match evalItems scope items with
    | .error e => .error e
    | .ok values => .ok (.list values)
  | .unary op operand =>
    match eval scope operand with
    | .error e => .error e
    | .ok v => op.apply v
  | .binary op left right =>
    match eval scope left with
    | .error e => .error e
    | .ok v =>
      match eval scope right with
      | .error e => .error e
      | .ok w => op.apply v w
  | .logical op left right =>
    match eval scope left with
    | .error e => .error e
    | .ok v => if op.settles v then .ok v else eval scope right
  | .conditional test consequent alternate =>
    match eval scope test with
    | .error e => .error e
    | .ok v => if v.truthy then eval scope consequent else eval scope alternate

/-- The values of some expressions in a scope. -/
def evalItems (scope : Scope) : List Expr → Except EvalError (List Value)
  | [] => .ok []
  | e :: rest =>
    match eval scope e with
    | .error err => .error err
    | .ok v =>
      match evalItems scope rest with
      | .error err => .error err
      | .ok vs => .ok (v :: vs)

end

end Expr

/-- Why the text of an expression has no value. -/
inductive ExpressionError where
  | malformed (text : Text) (fault : Expr.SyntaxFault)
  | failed (text : Text) (cause : Expr.EvalError)
  | numeralTooLong (digits : Nat)
  deriving DecidableEq, Repr

/-- The value of the text of an expression in a scope. -/
def evaluate (text : Text) (scope : Scope) : Except ExpressionError Value :=
  match Expr.parse text with
  | .error (.malformed fault) => .error (.malformed text fault)
  | .error (.numeralTooLong digits) => .error (.numeralTooLong digits)
  | .ok e =>
    match e.eval scope with
    | .error cause => .error (.failed text cause)
    | .ok v => .ok v

namespace NumberError

/-- The message of an error. -/
def message : NumberError → Text
  | .integerTooLarge => "OverflowError: int too large to convert to float".text
  | .quotientTooLarge => "OverflowError: integer division result too large for a float".text
  | .divisionByZero => "Division by zero".text
  | .remainderByZero => "Modulo by zero".text
  | .infiniteDividend => "ValueError: math domain error".text

end NumberError

namespace AccessError

/-- The message of an error. -/
def message : AccessError → Text
  | .invalidKey kind => ("Invalid key of type " ++ kind).text
  | .display e => "ValueError: ".text ++ e.message

end AccessError

namespace Expr

namespace EvalError

/-- The message of an error. -/
def message : EvalError → Text
  | .operands op left right =>
    "Unsupported operand types for ".text ++ op.text ++ (": " ++ left ++ " and " ++ right).text
  | .operand op kind => "Unsupported operand type for unary ".text ++ op.text ++ (": " ++ kind).text
  | .incomparable left op right =>
    ("Cannot compare " ++ left ++ " ").text ++ op.text ++ (" " ++ right).text
  | .number e => e.message
  | .access e => e.message
  | .display e => "ValueError: ".text ++ e.message

end EvalError

end Expr

namespace ExpressionError

/-- What went wrong, without the text of the expression. -/
def cause : ExpressionError → Text
  | .malformed _ fault =>
    fault.cause.message ++ " (at position ".text ++ Text.ofNat fault.position ++ ")".text
  | .failed _ cause => cause.message
  | .numeralTooLong digits => overlongNumber digits

/-- The message of an error. -/
def message : ExpressionError → Text
  | .malformed text fault => about text (ExpressionError.malformed text fault).cause
  | .failed text cause => about text cause.message
  | .numeralTooLong digits => (ExpressionError.numeralTooLong digits).cause
where
  /-- The message about an expression that fails for a cause. -/
  about (text cause : Text) : Text :=
    "Expression evaluation failed for \x22".text ++ text ++ "\x22: ".text ++ cause

end ExpressionError

end HtmlTemplate
