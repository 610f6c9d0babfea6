import HtmlTemplate.Number.Decimal
import HtmlTemplate.Text.Figure
import HtmlTemplate.Value.Basic

/-!
# Display of values

The display of a value is the text that a rendering shows for it. Only an integer of more than 4300 digits has none.
-/

namespace HtmlTemplate

/-- An integer has too many digits to be written. -/
inductive DisplayError where
  | integerTooLong
  deriving DecidableEq, Repr

namespace DisplayError

/-- The message of an error. -/
def message : DisplayError → Text
  | .integerTooLong =>
    ("Exceeds the limit (4300 digits) for integer string conversion; " ++
      "use sys.set_int_max_str_digits() to increase the limit").text

end DisplayError

namespace Number

/-- The text of an integer, if it does not have too many digits. -/
def displayInt (n : Int) : Except DisplayError Text :=
  if tenTo maxIntegerDigits ≤ n.natAbs then .error .integerTooLong else .ok (Text.ofInt n)

/-- The display of a number: a whole one of double precision below `10 ^ 21` is shown like an integer. -/
def display : Number → Except DisplayError Text
  | .int n => displayInt n
  | .float (.nan _) => .ok ['N', 'a', 'N']
  | .float (.infinity s) => .ok ((if s then (['-'] : Text) else []) ++ "Infinity".text)
  | .float x =>
    match x.toInt? with
    | some n => if n.natAbs < tenTo 21 then .ok (Text.ofInt n) else .ok x.text
    | none => .ok x.text

end Number

namespace Value

mutual

/-- The text that a rendering shows for a value. -/
def display : Value → Except DisplayError Text
  | .undefined => .ok []
  | .null => .ok []
  | .bool b => .ok (if b then "true" else "false").text
  | .number n => n.display
  | .string s => .ok s
  | .list items => (displayItems items).map (Text.join [','])
  | .tuple items => (displayItems items).map (Text.join [','])
  | .mapping _ => .ok "[object Object]".text
  | .record _ => .ok "<record>".text
  | .object _ _ => .ok "<host object>".text
  | .callable _ => .ok "<function>".text

/-- The displays of the items of a sequence. -/
def displayItems : List Value → Except DisplayError (List Text)
  | [] => .ok []
  | v :: rest =>
    match display v with
    | .error e => .error e
    | .ok s => (displayItems rest).map (s :: ·)

end

end Value

end HtmlTemplate
