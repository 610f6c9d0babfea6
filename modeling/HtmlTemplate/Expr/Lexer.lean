import HtmlTemplate.Expr.Error
import HtmlTemplate.Text.Blank
import HtmlTemplate.Text.Figure
import HtmlTemplate.Text.Word

/-!
# Splitting an expression into tokens

The longest numeral, string, name or sign that begins at a place is the token there; blanks stand between tokens.
`scan` looks at one place and says how many characters the token or the run of blanks takes, `tokens` walks the text.
-/

namespace HtmlTemplate.Expr

/-- A point and the digits after it, if there are digits. -/
def fractionPart : Text → Text
  | '.' :: rest =>
    match rest.takeWhile isDigit with
    | [] => []
    | digits => '.' :: digits
  | _ => []

/-- The sign at the front of a text, if there is one. -/
def signPart : Text → Text
  | '+' :: _ => ['+']
  | '-' :: _ => ['-']
  | _ => []

/-- The letter of an exponent, its sign and its digits, if there are digits. -/
def exponentPart : Text → Text
  | c :: rest =>
    if c = 'e' || c = 'E' then
      let sign := signPart rest
      match (rest.drop sign.length).takeWhile isDigit with
      | [] => []
      | digits => c :: sign ++ digits
    else []
  | [] => []

/-- The numeral at the front of a text; nothing if there is none. -/
def numeral (s : Text) : Text :=
  let whole := s.takeWhile isDigit
  let fraction := fractionPart (s.drop whole.length)
  if whole = [] && fraction = [] then []
  else whole ++ fraction ++ exponentPart (s.drop (whole.length + fraction.length))

/-- What stands before the closing quote `q`, escapes as written; nothing if the quote is missing. -/
def quotedBody? (q : CodePoint) : Text → Option Text
  | [] => none
  | ['\\'] => none
  | '\\' :: c :: rest => (quotedBody? q rest).map fun body => '\\' :: c :: body
  | c :: rest => if c = q then some [] else (quotedBody? q rest).map (c :: ·)

/-- The value of four hexadecimal digits. -/
def hexCode? (a b c d : CodePoint) : Option Nat := do
  return (((← hexValue? a) * 16 + (← hexValue? b)) * 16 + (← hexValue? c)) * 16 + (← hexValue? d)

/-- What a character means after a backslash. -/
def escaped : CodePoint → CodePoint
  | 'n' => '\n'
  | 't' => '\t'
  | 'r' => '\r'
  | 'b' => '\x08'
  | 'f' => '\x0C'
  | 'v' => '\x0B'
  | '0' => '\x00'
  | c => c

/-- The code point after `\u`, if four hexadecimal digits are there. -/
def codeEscape? : Text → Option CodePoint
  | 'u' :: a :: b :: c :: d :: _ => (hexCode? a b c d).map CodePoint.ofNat
  | _ => none

/-- The body of a string with its escapes replaced. -/
def unescape (s : Text) : Text :=
  match s with
  | [] => []
  | '\\' :: c :: rest =>
    match codeEscape? (c :: rest) with
    | some x => x :: unescape (rest.drop 4)
    | none => escaped c :: unescape rest
  | c :: rest => c :: unescape rest
termination_by s.length
decreasing_by all_goals simp <;> omega

/-- Whether a name may begin with the character. -/
def isNameStart (c : CodePoint) : Bool := ('A' ≤ c && c ≤ 'Z') || ('a' ≤ c && c ≤ 'z') || c = '_' || c = '$'

/-- Whether the character may stand in a name. -/
def isNamePart (c : CodePoint) : Bool := isWord c || c = '$'

/-- The token that a name is: a reserved word or an identifier. -/
def nameToken (name : Text) : Token :=
  match Keyword.spellings.lookup name with
  | some word => .keyword word
  | none => .identifier name

/-- What begins at a place: a token, or blanks, and how many characters it takes after the first one. -/
structure Lexeme where
  token : Option Token
  extra : Nat
  deriving DecidableEq, Repr

/-- What begins with the character `c` and goes on with `rest`, if anything does. -/
def scan (c : CodePoint) (rest : Text) : Option Lexeme :=
  if isBlank c then some ⟨none, (rest.takeWhile isBlank).length⟩
  else
    match numeral (c :: rest) with
    | d :: more => some ⟨some (.number (d :: more)), more.length⟩
    | [] =>
      match if c = '\x22' || c = '\x27' then quotedBody? c rest else none with
      | some body => some ⟨some (.string (unescape body)), body.length + 1⟩
      | none =>
        if isNameStart c then
          let tail := rest.takeWhile isNamePart
          some ⟨some (nameToken (c :: tail)), tail.length⟩
        else
          match Operator.all.find? fun sign => sign.text.isPrefixOf (c :: rest) with
          | some sign => some ⟨some (.operator sign), sign.text.length - 1⟩
          | none => (Punct.all.find? fun mark => mark.char = c).map fun mark => ⟨some (.punct mark), 0⟩

/-- The fault at a place where nothing begins. -/
def scanFault (c : CodePoint) : SyntaxCause :=
  if c = '\x22' || c = '\x27' then .unterminatedString else .unexpectedCharacter c

/-- The tokens of a text that begins at `position`. -/
def tokensFrom (position : Nat) (s : Text) : Except SyntaxFault (List Located) :=
  match s with
  | [] => .ok []
  | c :: rest =>
    match scan c rest with
    | none => .error ⟨scanFault c, position⟩
    | some lexeme =>
      match tokensFrom (position + lexeme.extra + 1) (rest.drop lexeme.extra) with
      | .error fault => .error fault
      | .ok tokens => .ok (lexeme.token.toList.map (⟨·, position⟩) ++ tokens)
termination_by s.length
decreasing_by simp only [List.length_drop, List.length_cons]; omega

/-- The tokens of an expression, with their positions. -/
def tokens (s : Text) : Except SyntaxFault (List Located) := tokensFrom 0 s

end HtmlTemplate.Expr
