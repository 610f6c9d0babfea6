import HtmlTemplate.Expr.Basic
import HtmlTemplate.Expr.Numeral

/-!
# The grammar of expressions

The documented grammar, from the loosest symbol to the tightest:

    expression     → conditional
    conditional    → nullish ("?" expression ":" expression)?
    nullish        → or ("??" or)*
    or             → and (("||" | "or") and)*
    and            → equality (("&&" | "and") equality)*
    equality       → relational (("==" | "!=" | "===" | "!==") relational)*
    relational     → additive (("<" | "<=" | ">" | ">=") additive)*
    additive       → multiplicative (("+" | "-") multiplicative)*
    multiplicative → unary (("*" | "/" | "%") unary)*
    unary          → ("!" | "not" | "-" | "+") unary | postfixed
    postfixed      → primary ("." (IDENTIFIER | KEYWORD) | "[" expression "]")*
    primary        → NUMBER | STRING | true | false | null | undefined
                   | IDENTIFIER | "(" expression ")" | "[" items? "]"
    items          → expression ("," expression)*

`Derives symbol xs e` says that the symbol yields the tokens `xs` by a derivation whose tree is `e`. The rules with a
star are left-recursive here: `a - b - c` has the tree of `(a - b) - c` and no other. The seven symbols from `nullish`
to `multiplicative` are the levels of operators. Nothing in this module mentions the parsers.
-/

namespace HtmlTemplate.Expr

/-- The symbols of the grammar; `items` is the inside of a nonempty array. -/
inductive Symbol where
  | expression | conditional | level (l : Level) | unary | postfixed | primary | items
  deriving DecidableEq, Repr

/-- The symbol of the operands of a level. -/
def Level.operand : Level → Symbol
  | .orElse => .level .either
  | .either => .level .both
  | .both => .level .equality
  | .equality => .level .relation
  | .relation => .level .sum
  | .sum => .level .product
  | .product => .unary

/-- The signs between the operands of a level, and the trees that they make. -/
def Level.signs : Level → List (Token × (Expr → Expr → Expr))
  | .orElse => [(.operator .orElse, .logical .orElse)]
  | .either => [(.operator .either, .logical .either), (.keyword .or, .logical .either)]
  | .both => [(.operator .both, .logical .both), (.keyword .and, .logical .both)]
  | .equality =>
    [(.operator .equal, .binary .equal), (.operator .unequal, .binary .unequal),
     (.operator .strictEqual, .binary .strictEqual), (.operator .strictUnequal, .binary .strictUnequal)]
  | .relation =>
    [(.operator .less, .binary .less), (.operator .atMost, .binary .atMost),
     (.operator .greater, .binary .greater), (.operator .atLeast, .binary .atLeast)]
  | .sum => [(.operator .plus, .binary .add), (.operator .minus, .binary .sub)]
  | .product => [(.operator .times, .binary .mul), (.operator .slash, .binary .div), (.operator .modulo, .binary .mod)]

/-- The signs in front of an operand, and the operators that they are. -/
def leadingSigns : List (Token × UnaryOp) :=
  [(.operator .bang, .not), (.keyword .not, .not), (.operator .minus, .negate), (.operator .plus, .plus)]

/-- The keywords that stand for values. -/
def constants : List (Keyword × Value) :=
  [(.yes, .bool true), (.no, .bool false), (.null, .null), (.undefined, .undefined)]

/-- The tokens that a symbol yields, and the tree of the derivation. An `items` has the tree of its array. -/
inductive Derives : Symbol → List Token → Expr → Prop
  | expression {xs : List Token} {e : Expr} : Derives .conditional xs e → Derives .expression xs e
  | test {xs : List Token} {e : Expr} : Derives (.level .orElse) xs e → Derives .conditional xs e
  | choice {xs ys zs : List Token} {e₁ e₂ e₃ : Expr} : Derives (.level .orElse) xs e₁ → Derives .expression ys e₂ →
      Derives .expression zs e₃ →
      Derives .conditional (xs ++ .operator .question :: (ys ++ .operator .colon :: zs)) (.conditional e₁ e₂ e₃)
  | operand {l : Level} {xs : List Token} {e : Expr} : Derives l.operand xs e → Derives (.level l) xs e
  | joined {l : Level} {xs ys : List Token} {sign : Token} {join : Expr → Expr → Expr} {e₁ e₂ : Expr} :
      Derives (.level l) xs e₁ → (sign, join) ∈ l.signs → Derives l.operand ys e₂ →
      Derives (.level l) (xs ++ sign :: ys) (join e₁ e₂)
  | signed {xs : List Token} {sign : Token} {op : UnaryOp} {e : Expr} :
      (sign, op) ∈ leadingSigns → Derives .unary xs e → Derives .unary (sign :: xs) (.unary op e)
  | unsigned {xs : List Token} {e : Expr} : Derives .postfixed xs e → Derives .unary xs e
  | whole {xs : List Token} {e : Expr} : Derives .primary xs e → Derives .postfixed xs e
  | property {xs : List Token} {e : Expr} {name : Text} :
      Derives .postfixed xs e → Derives .postfixed (xs ++ [.punct .dot, .identifier name]) (.member e name)
  | keywordProperty {xs : List Token} {e : Expr} {word : Keyword} :
      Derives .postfixed xs e → Derives .postfixed (xs ++ [.punct .dot, .keyword word]) (.member e word.text)
  | index {xs ys : List Token} {e key : Expr} : Derives .postfixed xs e → Derives .expression ys key →
      Derives .postfixed (xs ++ .punct .openBracket :: (ys ++ [.punct .closeBracket])) (.index e key)
  | number {text : Text} {value : Value} :
      numeralValue text = .ok value → Derives .primary [.number text] (.literal value)
  | string {value : Text} : Derives .primary [.string value] (.literal (.string value))
  | constant {word : Keyword} {value : Value} :
      (word, value) ∈ constants → Derives .primary [.keyword word] (.literal value)
  | name {name : Text} : Derives .primary [.identifier name] (.identifier name)
  | group {xs : List Token} {e : Expr} :
      Derives .expression xs e → Derives .primary (.punct .openParen :: (xs ++ [.punct .closeParen])) e
  | emptyArray : Derives .primary [.punct .openBracket, .punct .closeBracket] (.array [])
  | array {xs : List Token} {e : Expr} :
      Derives .items xs e → Derives .primary (.punct .openBracket :: (xs ++ [.punct .closeBracket])) e
  | last {xs : List Token} {e : Expr} : Derives .expression xs e → Derives .items xs (.array [e])
  | more {xs ys : List Token} {e : Expr} {es : List Expr} : Derives .expression xs e → Derives .items ys (.array es) →
      Derives .items (xs ++ .punct .comma :: ys) (.array (e :: es))

end HtmlTemplate.Expr
