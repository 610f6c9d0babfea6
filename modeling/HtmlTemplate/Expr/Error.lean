import HtmlTemplate.Expr.Token

/-!
# Faults in the text of expressions
-/

namespace HtmlTemplate.Expr

/-- What is wrong with the text of an expression. -/
inductive SyntaxCause where
  | unterminatedString
  | unexpectedCharacter (c : CodePoint)
  | emptyExpression
  | unexpectedEnd
  | unexpectedToken (token : Token)
  | expectedColon
  | expectedProperty
  | expectedIndexEnd
  | expectedGroupEnd
  | expectedArrayEnd
  deriving DecidableEq, Repr

namespace SyntaxCause

/-- The words for a cause. -/
def message : SyntaxCause → Text
  | .unterminatedString => "Unterminated string literal".text
  | .unexpectedCharacter c => "Unexpected character '".text ++ [c, '\x27']
  | .emptyExpression => "Empty expression".text
  | .unexpectedEnd => "Unexpected end of expression".text
  | .unexpectedToken token => "Unexpected token '".text ++ token.text ++ "\x27".text
  | .expectedColon => "Expected ':' in conditional expression".text
  | .expectedProperty => "Expected property name after '.'".text
  | .expectedIndexEnd => "Expected ']' after index expression".text
  | .expectedGroupEnd => "Expected ')' after grouped expression".text
  | .expectedArrayEnd => "Expected ']' after array items".text

end SyntaxCause

/-- A fault and the position of the character or token at which it shows. -/
structure SyntaxFault where
  cause : SyntaxCause
  position : Nat
  deriving DecidableEq, Repr

end HtmlTemplate.Expr
