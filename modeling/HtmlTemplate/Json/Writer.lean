import HtmlTemplate.Number.Decimal
import HtmlTemplate.Text.Quoted
import HtmlTemplate.Value.Basic

/-!
# Writing JSON

A value as JSON on several lines, two blanks deeper for each level. All characters outside ASCII are written as
escapes, those above U+FFFF as a pair of them.
-/

namespace HtmlTemplate.Json

/-- The escape of one unit of sixteen bits. -/
def writtenUnit (n : Nat) : Text := '\\' :: 'u' :: Text.hex 4 n

/-- A character of a string. -/
def writtenChar (c : CodePoint) : Text :=
  match c with
  | '\x22' => ['\\', '\x22']
  | '\\' => ['\\', '\\']
  | '\n' => ['\\', 'n']
  | '\r' => ['\\', 'r']
  | '\t' => ['\\', 't']
  | '\x0c' => ['\\', 'f']
  | '\x08' => ['\\', 'b']
  | c =>
    if 0x20 ≤ c.toNat && c.toNat ≤ 0x7E then [c]
    else if c.toNat ≤ 0xFFFF then writtenUnit c.toNat
    else
      let n := c.toNat - 0x10000
      writtenUnit (0xD800 + n / 0x400) ++ writtenUnit (0xDC00 + n % 0x400)

/-- A number. -/
def writtenNumber : Number → Text
  | .int n => Text.ofInt n
  | .float x => x.text

/-- A string in its quotes. -/
def writtenString (s : Text) : Text := ('\x22' : CodePoint) :: s.flatMap writtenChar ++ "\x22".text

/-- A line end and the blanks of a level. -/
def newLine (level : Nat) : Text := '\n' :: List.replicate (2 * level) ' '

/-- Parts between an opening and a closing mark, each on a line of its own. -/
def bracketed (opening closing : CodePoint) (level : Nat) (parts : List Text) : Text :=
  if parts.isEmpty then [opening, closing]
  else
    opening :: newLine (level + 1) ++ Text.join (',' :: newLine (level + 1)) parts ++ newLine level ++ [closing]

mutual

/-- A value on a level. -/
def written (level : Nat) : Value → Text
  | .undefined => writtenString "undefined".text
  | .null => "null".text
  | .bool b => (if b then "true" else "false").text
  | .number n => writtenNumber n
  | .string s => writtenString s
  | .list items => bracketed '[' ']' level (writtenItems (level + 1) items)
  | .tuple items => bracketed '[' ']' level (writtenItems (level + 1) items)
  | .mapping entries => bracketed '\x7b' '\x7d' level (writtenEntries (level + 1) entries)
  | .record fields => bracketed '\x7b' '\x7d' level (writtenEntries (level + 1) fields)
  | .object _ attributes => bracketed '\x7b' '\x7d' level (writtenEntries (level + 1) attributes)
  | .callable _ => "null".text

/-- The items of a list. -/
def writtenItems (level : Nat) : List Value → List Text
  | [] => []
  | v :: rest => written level v :: writtenItems level rest

/-- The entries of a mapping. -/
def writtenEntries (level : Nat) : List (Text × Value) → List Text
  | [] => []
  | (key, v) :: rest => (writtenString key ++ ": ".text ++ written level v) :: writtenEntries level rest

end

/-- A value as JSON. -/
def write (v : Value) : Text := written 0 v

end HtmlTemplate.Json
