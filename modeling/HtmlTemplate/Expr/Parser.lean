import HtmlTemplate.Expr.Basic
import HtmlTemplate.Expr.Lexer
import HtmlTemplate.Expr.Numeral

/-!
# Parsing expressions

A parser reads an expression at the front of a list of tokens and gives its tree and the tokens after it. There is
one parser per level of the grammar:

    expression  → binary orElse ("?" expression ":" expression)?
    binary l    → operand l (sign of level l, operand l)*
    unary       → ("!" | "not" | "-" | "+") unary | access
    access      → primary ("." name | "[" expression "]")*
    primary     → numeral | string | word | name | "(" expression ")" | "[" (expression ("," expression)*)? "]"

where an operand of a level is a `binary` of the next one, and a `unary` past the last. The parsers are recursive in
the number of steps left; `parse` gives them more than they can take.
-/

namespace HtmlTemplate.Expr

/-- Why a text is no expression. -/
inductive ParseError where
  | malformed (fault : SyntaxFault)
  | numeralTooLong (digits : Nat)
  deriving DecidableEq, Repr

/-- Why a list of tokens is no expression. The position is missing if the fault shows at the end. -/
inductive TokenError where
  | unexpected (cause : SyntaxCause) (position : Option Nat)
  | numeralTooLong (digits : Nat)
  /-- The parser was not given enough steps. -/
  | outOfSteps
  deriving DecidableEq, Repr

namespace Parser

/-- The tokens that are left to read. -/
abbrev Tokens := List Located

/-- A tree and the tokens after it. -/
abbrev Parsed := Except TokenError (Expr × Tokens)

/-- A fault that shows at the first of the tokens that are left. -/
def fail {α : Type} (cause : SyntaxCause) (ts : Tokens) : Except TokenError α :=
  .error (.unexpected cause (ts.head?.map Located.position))

/-- The tokens after the mark `mark`, which must come first. -/
def expect (mark : Token) (cause : SyntaxCause) (ts : Tokens) : Except TokenError Tokens :=
  match ts with
  | t :: rest => if t.token = mark then .ok rest else fail cause ts
  | [] => fail cause ts

mutual

/-- Reads an expression of the loosest kind, a conditional. -/
def expression : Nat → Tokens → Parsed
  | 0, _ => .error .outOfSteps
  | n + 1, ts => do
    let (test, rest) ← binary n .orElse ts
    match rest with
    | ⟨.operator .question, _⟩ :: rest =>
      let (consequent, rest) ← expression n rest
      let rest ← expect (.operator .colon) .expectedColon rest
      let (alternate, rest) ← expression n rest
      return (.conditional test consequent alternate, rest)
    | rest => return (test, rest)

/-- Reads operands of a level and the signs between them. -/
def binary : Nat → Level → Tokens → Parsed
  | 0, _, _ => .error .outOfSteps
  | n + 1, level, ts => do
    let (left, rest) ← operand n level ts
    operands n level left rest

/-- Reads the signs and operands of a level that follow `left`. -/
def operands : Nat → Level → Expr → Tokens → Parsed
  | 0, _, _, _ => .error .outOfSteps
  | _ + 1, _, left, [] => return (left, [])
  | n + 1, level, left, t :: ts =>
    match level.joins? t.token with
    | none => return (left, t :: ts)
    | some join => do
      let (right, rest) ← operand n level ts
      operands n level (join left right) rest

/-- Reads one operand of a level. -/
def operand : Nat → Level → Tokens → Parsed
  | 0, _, _ => .error .outOfSteps
  | n + 1, level, ts =>
    match level.next with
    | some tighter => binary n tighter ts
    | none => unary n ts

/-- Reads an operand of the tightest level, with the operators in front of it. -/
def unary : Nat → Tokens → Parsed
  | 0, _ => .error .outOfSteps
  | n + 1, ts =>
    match ts.head?.bind (unary? ·.token) with
    | some op => do
      let (inner, rest) ← unary n (ts.drop 1)
      return (.unary op inner, rest)
    | none => access n ts

/-- Reads a primary expression and the accesses to its parts. -/
def access : Nat → Tokens → Parsed
  | 0, _ => .error .outOfSteps
  | n + 1, ts => do
    let (object, rest) ← primary n ts
    accesses n object rest

/-- Reads the accesses to parts of `object`. -/
def accesses : Nat → Expr → Tokens → Parsed
  | 0, _, _ => .error .outOfSteps
  | n + 1, object, ⟨.punct .dot, _⟩ :: ts =>
    match ts with
    | t :: rest =>
      match propertyName? t.token with
      | some name => accesses n (.member object name) rest
      | none => fail .expectedProperty ts
    | [] => fail .expectedProperty ts
  | n + 1, object, ⟨.punct .openBracket, _⟩ :: ts => do
    let (key, rest) ← expression n ts
    let rest ← expect (.punct .closeBracket) .expectedIndexEnd rest
    accesses n (.index object key) rest
  | _ + 1, object, ts => return (object, ts)

/-- Reads an expression that is one token or stands in brackets. -/
def primary : Nat → Tokens → Parsed
  | 0, _ => .error .outOfSteps
  | _ + 1, [] => fail .unexpectedEnd []
  | n + 1, t :: ts =>
    match t.token with
    | .number text =>
      match numeralValue text with
      | .ok value => return (.literal value, ts)
      | .error e => .error (.numeralTooLong e.digits)
    | .punct .openParen => do
      let (inner, rest) ← expression n ts
      let rest ← expect (.punct .closeParen) .expectedGroupEnd rest
      return (inner, rest)
    | .punct .openBracket =>
      match ts with
      | ⟨.punct .closeBracket, _⟩ :: rest => return (.array [], rest)
      | ts => do
        let (items, rest) ← items n ts
        let rest ← expect (.punct .closeBracket) .expectedArrayEnd rest
        return (.array items, rest)
    | token =>
      match atom? token with
      | some e => return (e, ts)
      | none => fail (.unexpectedToken token) (t :: ts)

/-- Reads one or more expressions with commas between them. -/
def items : Nat → Tokens → Except TokenError (List Expr × Tokens)
  | 0, _ => .error .outOfSteps
  | n + 1, ts => do
    let (first, rest) ← expression n ts
    match rest with
    | ⟨.punct .comma, _⟩ :: rest =>
      let (others, rest) ← items n rest
      return (first :: others, rest)
    | rest => return ([first], rest)

end

end Parser

/-- More steps than the parsers take on so many tokens. -/
def stepsFor (count : Nat) : Nat := 20 * (count + 1)

/-- The tree of a list of tokens. -/
def ofTokens (ts : List Located) : Except TokenError Expr :=
  match ts with
  | [] => .error (.unexpected .emptyExpression (some 0))
  | ts => do
    let (e, rest) ← Parser.expression (stepsFor ts.length) ts
    match rest with
    | [] => return e
    | t :: _ => Parser.fail (.unexpectedToken t.token) rest

/-- The tree of an expression. -/
def parse (s : Text) : Except ParseError Expr :=
  match tokens s with
  | .error fault => .error (.malformed fault)
  | .ok ts =>
    match ofTokens ts with
    | .ok e => .ok e
    | .error (.unexpected cause position) => .error (.malformed ⟨cause, position.getD s.length⟩)
    | .error (.numeralTooLong digits) => .error (.numeralTooLong digits)
    | .error .outOfSteps => .error (.malformed ⟨.unexpectedEnd, s.length⟩)

end HtmlTemplate.Expr
