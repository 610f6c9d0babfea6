import HtmlTemplate.Datum.Basic
import HtmlTemplate.Value.Display

/-!
# Data in messages

The text by which a message shows a datum: texts in quotes, lists in brackets, fixed sequences in parentheses, sets and
mappings in braces, and three points for a list or a mapping inside itself. Only a datum with an integer of more than
4300 digits has none.
-/

namespace HtmlTemplate

/-- A byte inside the quote `q`. -/
def quotedByte (q : CodePoint) (b : UInt8) : Text :=
  let c := CodePoint.ofNat b.toNat
  if c = q || c = '\\' then ['\\', c]
  else if c = '\t' then ['\\', 't']
  else if c = '\n' then ['\\', 'n']
  else if c = '\r' then ['\\', 'r']
  else if ' ' ≤ c && c ≤ '~' then [c]
  else "\\x".text ++ Text.hex 2 b.toNat

/-- Bytes in a message. They stand in single quotes, unless they hold one and no double quote. -/
def Bytes.literal (content : Bytes) : Text :=
  let q : CodePoint := if content.contains 0x27 && !content.contains 0x22 then '\x22' else '\x27'
  "b".text ++ q :: content.flatMap (quotedByte q) ++ [q]

namespace Datum

/-- Texts with commas between them, in a pair of marks. -/
def enclosed (opening closing : CodePoint) (texts : List Text) : Text :=
  opening :: Text.join [',', ' '] texts ++ [closing]

/-- Whether a datum is one of those around it. -/
def isAround (around : List Nat) (identity : Identity) : Bool := identity.any around.contains

/-- The numbers of the data around the parts of a datum. -/
def withIdentity (around : List Nat) (identity : Identity) : List Nat := identity.toList ++ around

/-- The mark for a list at a place inside itself. -/
def listMark : Text := "[...]".text

/-- The mark for a fixed sequence at a place inside itself. -/
def tupleMark : Text := "(...)".text

/-- The mark for a mapping at a place inside itself. -/
def mappingMark : Text := "\x7b...\x7d".text

mutual

/-- The text of a datum inside of those with some numbers. -/
def literalIn : List Nat → Datum → Except DisplayError Text
  | _, .null => .ok "None".text
  | _, .bool b => .ok (if b then "True" else "False").text
  | _, .number (.int n) => Number.displayInt n
  | _, .number (.float x) => .ok x.text
  | _, .text s => .ok (Text.quoted s)
  | _, .bytes content => .ok content.literal
  | _, .day d => .ok d.literal
  | _, .moment m => .ok m.literal
  | around, .list identity items =>
    if isAround around identity then .ok listMark
    else (literalsIn (withIdentity around identity) items).map (enclosed '[' ']')
  | around, .tuple identity items =>
    if isAround around identity then .ok tupleMark
    else (literalsIn (withIdentity around identity) items).map fun texts =>
      match texts with
      | [s] => ('(' : CodePoint) :: s ++ ",)".text
      | texts => enclosed '(' ')' texts
  | _, .set [] => .ok "set()".text
  | around, .set items => (literalsIn around items).map (enclosed '\x7b' '\x7d')
  | around, .mapping identity entries =>
    if isAround around identity then .ok mappingMark
    else (entryLiteralsIn (withIdentity around identity) entries).map (enclosed '\x7b' '\x7d')
  | _, .enclosing _ isMapping => .ok (if isMapping then mappingMark else listMark)
  | _, .thing shown => .ok shown

/-- The texts of some data. -/
def literalsIn : List Nat → List Datum → Except DisplayError (List Text)
  | _, [] => .ok []
  | around, d :: rest =>
    match literalIn around d with
    | .error e => .error e
    | .ok s => (literalsIn around rest).map (s :: ·)

/-- The texts of some entries. -/
def entryLiteralsIn : List Nat → List (Datum × Datum) → Except DisplayError (List Text)
  | _, [] => .ok []
  | around, (key, d) :: rest =>
    match literalIn around key, literalIn around d with
    | .ok k, .ok s => (entryLiteralsIn around rest).map ((k ++ ": ".text ++ s) :: ·)
    | .error e, _ => .error e
    | _, .error e => .error e

end

/-- The text of a datum in a message. -/
def literal (d : Datum) : Except DisplayError Text := literalIn [] d

/-- The text of a datum where a text is wanted: a text is its own, days and moments are told by their numbers. -/
def asText : Datum → Except DisplayError Text
  | .text s => .ok s
  | .day d => .ok d.text
  | .moment m => .ok m.text
  | d => d.literal

end Datum

end HtmlTemplate
