import HtmlTemplate.Expr.Token
import HtmlTemplate.Value.Basic

/-!
# Expressions

The tree of an expression. There is no call, no assignment and no declaration: an expression only looks up and
combines values.
-/

namespace HtmlTemplate

namespace Expr

/-- An operator in front of its operand. -/
inductive UnaryOp where
  | not | negate | plus
  deriving DecidableEq, Repr

/-- An operator that needs both operands. -/
inductive BinaryOp where
  | add | sub | mul | div | mod | less | atMost | greater | atLeast
  | equal | unequal | strictEqual | strictUnequal
  deriving DecidableEq, Repr

/-- An operator that may leave its second operand alone, and whose result is one of the operands. -/
inductive LogicalOp where
  | both | either | orElse
  deriving DecidableEq, Repr

end Expr

/-- An expression. -/
inductive Expr where
  | literal (value : Value)
  | identifier (name : Text)
  | member (object : Expr) (name : Text)
  | index (object key : Expr)
  | array (items : List Expr)
  | unary (op : Expr.UnaryOp) (operand : Expr)
  | binary (op : Expr.BinaryOp) (left right : Expr)
  | logical (op : Expr.LogicalOp) (left right : Expr)
  | conditional (test consequent alternate : Expr)
  deriving Repr, Inhabited

namespace Expr

namespace UnaryOp

/-- The sign of the operator. -/
def text : UnaryOp → Text
  | .not => ['!']
  | .negate => ['-']
  | .plus => ['+']

end UnaryOp

namespace BinaryOp

/-- The operator sign that writes the operator. -/
def sign : BinaryOp → Operator
  | .add => .plus
  | .sub => .minus
  | .mul => .times
  | .div => .slash
  | .mod => .modulo
  | .less => .less
  | .atMost => .atMost
  | .greater => .greater
  | .atLeast => .atLeast
  | .equal => .equal
  | .unequal => .unequal
  | .strictEqual => .strictEqual
  | .strictUnequal => .strictUnequal

/-- How an operator is written. -/
def text (op : BinaryOp) : Text := op.sign.text

end BinaryOp

namespace LogicalOp

/-- How an operator is written. -/
def text : LogicalOp → Text
  | .both => ['&', '&']
  | .either => ['|', '|']
  | .orElse => ['?', '?']

end LogicalOp

/-- The levels of operators between two operands, from the loosest to the tightest. -/
inductive Level where
  | orElse | either | both | equality | relation | sum | product
  deriving DecidableEq, Repr

namespace Level

/-- The next tighter level; the operands of a product are bound tighter still. -/
def next : Level → Option Level
  | .orElse => some .either
  | .either => some .both
  | .both => some .equality
  | .equality => some .relation
  | .relation => some .sum
  | .sum => some .product
  | .product => none

/-- How a token joins two operands at a level, if it does. -/
def joins? : Level → Token → Option (Expr → Expr → Expr)
  | .orElse, .operator .orElse => some (.logical .orElse)
  | .either, .operator .either => some (.logical .either)
  | .either, .keyword .or => some (.logical .either)
  | .both, .operator .both => some (.logical .both)
  | .both, .keyword .and => some (.logical .both)
  | .equality, .operator .strictEqual => some (.binary .strictEqual)
  | .equality, .operator .strictUnequal => some (.binary .strictUnequal)
  | .equality, .operator .equal => some (.binary .equal)
  | .equality, .operator .unequal => some (.binary .unequal)
  | .relation, .operator .atMost => some (.binary .atMost)
  | .relation, .operator .atLeast => some (.binary .atLeast)
  | .relation, .operator .less => some (.binary .less)
  | .relation, .operator .greater => some (.binary .greater)
  | .sum, .operator .plus => some (.binary .add)
  | .sum, .operator .minus => some (.binary .sub)
  | .product, .operator .times => some (.binary .mul)
  | .product, .operator .slash => some (.binary .div)
  | .product, .operator .modulo => some (.binary .mod)
  | _, _ => none

end Level

/-- How a token acts on the operand after it, if it does. -/
def unary? : Token → Option UnaryOp
  | .keyword .not => some .not
  | .operator .bang => some .not
  | .operator .minus => some .negate
  | .operator .plus => some .plus
  | _ => none

/-- The property that a token names after a dot: reserved words are names there. -/
def propertyName? : Token → Option Text
  | .identifier name => some name
  | .keyword word => some word.text
  | _ => none

/-- The expression that a single token is, numerals apart. -/
def atom? : Token → Option Expr
  | .string value => some (.literal (.string value))
  | .keyword .yes => some (.literal (.bool true))
  | .keyword .no => some (.literal (.bool false))
  | .keyword .null => some (.literal .null)
  | .keyword .undefined => some (.literal .undefined)
  | .identifier name => some (.identifier name)
  | _ => none

end Expr

end HtmlTemplate
