import HtmlTemplate.Text.Basic

/-!
# Tokens of expressions

An expression is written with numerals, strings, names, seven reserved words, operators and punctuation.
-/

namespace HtmlTemplate.Expr

/-- A reserved word. -/
inductive Keyword where
  | yes | no | null | undefined | and | or | not
  deriving DecidableEq, Repr

/-- An operator sign. -/
inductive Operator where
  | strictEqual | strictUnequal | equal | unequal | atMost | atLeast | both | either | orElse
  | less | greater | plus | minus | times | slash | modulo | bang | question | colon
  deriving DecidableEq, Repr

/-- A bracket or another mark of punctuation. -/
inductive Punct where
  | openParen | closeParen | openBracket | closeBracket | dot | comma
  deriving DecidableEq, Repr

/-- A token. A numeral keeps its text, a string has its escapes replaced. -/
inductive Token where
  | number (text : Text)
  | string (value : Text)
  | identifier (name : Text)
  | keyword (word : Keyword)
  | operator (sign : Operator)
  | punct (mark : Punct)
  deriving DecidableEq, Repr

/-- A token and the position of its first character. -/
structure Located where
  token : Token
  position : Nat
  deriving DecidableEq, Repr

namespace Keyword

/-- The reserved words and their spelling. -/
def spellings : List (Text × Keyword) :=
  [(['t', 'r', 'u', 'e'], .yes), (['f', 'a', 'l', 's', 'e'], .no), (['n', 'u', 'l', 'l'], .null),
   (['u', 'n', 'd', 'e', 'f', 'i', 'n', 'e', 'd'], .undefined), (['a', 'n', 'd'], .and), (['o', 'r'], .or),
   (['n', 'o', 't'], .not)]

/-- How a keyword is written. -/
def text : Keyword → Text
  | .yes => ['t', 'r', 'u', 'e']
  | .no => ['f', 'a', 'l', 's', 'e']
  | .null => ['n', 'u', 'l', 'l']
  | .undefined => ['u', 'n', 'd', 'e', 'f', 'i', 'n', 'e', 'd']
  | .and => ['a', 'n', 'd']
  | .or => ['o', 'r']
  | .not => ['n', 'o', 't']

end Keyword

namespace Operator

/-- How a sign is written. -/
def text : Operator → Text
  | .strictEqual => ['=', '=', '=']
  | .strictUnequal => ['!', '=', '=']
  | .equal => ['=', '=']
  | .unequal => ['!', '=']
  | .atMost => ['<', '=']
  | .atLeast => ['>', '=']
  | .both => ['&', '&']
  | .either => ['|', '|']
  | .orElse => ['?', '?']
  | .less => ['<']
  | .greater => ['>']
  | .plus => ['+']
  | .minus => ['-']
  | .times => ['*']
  | .slash => ['/']
  | .modulo => ['%']
  | .bang => ['!']
  | .question => ['?']
  | .colon => [':']

/-- The signs, each before the signs that begin it. -/
def all : List Operator :=
  [.strictEqual, .strictUnequal, .equal, .unequal, .atMost, .atLeast, .both, .either, .orElse,
   .less, .greater, .plus, .minus, .times, .slash, .modulo, .bang, .question, .colon]

end Operator

namespace Punct

/-- How a mark is written. -/
def char : Punct → CodePoint
  | .openParen => '('
  | .closeParen => ')'
  | .openBracket => '['
  | .closeBracket => ']'
  | .dot => '.'
  | .comma => ','

/-- The marks. -/
def all : List Punct := [.openParen, .closeParen, .openBracket, .closeBracket, .dot, .comma]

end Punct

namespace Token

/-- The text of a token as messages show it; a string shows its value. -/
def text : Token → Text
  | .number text => text
  | .string value => value
  | .identifier name => name
  | .keyword word => word.text
  | .operator sign => sign.text
  | .punct mark => [mark.char]

end Token

end HtmlTemplate.Expr
