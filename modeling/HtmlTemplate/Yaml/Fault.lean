import HtmlTemplate.Report
import HtmlTemplate.Text.Figure
import HtmlTemplate.Text.Quoted
import HtmlTemplate.Time.Calendar

/-!
# Faults of YAML

Why a text in YAML stands for no datum. Most texts that do not are malformed; the others keep the form, and write
something that does not exist.
-/

namespace HtmlTemplate.Yaml

/-- Why a text stands for no datum. -/
inductive Fault where
  /-- The text breaks a rule of the form. -/
  | malformed
  /-- An escape gives the code of no character. -/
  | noCharacter
  /-- An escape gives a code of more than 31 bits. -/
  | codeTooLarge
  | numeralTooLong (digits : Nat)
  /-- A text writes no integer of a base. -/
  | noInteger (base : Nat) (s : Text)
  | noDecimal (s : Text)
  /-- A text that is to write a number is empty. -/
  | emptyNumeral
  /-- A number has so many places to the base sixty that the first one counts too much. -/
  | placesTooMany
  | noBoolean (s : Text)
  | noMoment
  /-- A mapping is where a moment should be. -/
  | mappingForMoment
  | calendar (fault : CalendarFault)
  deriving DecidableEq, Repr

namespace Fault

/-- The kind of a fault. -/
def defect : Fault → Defect
  | .codeTooLarge => .tooLarge
  | .placesTooMany => .tooLarge
  | .emptyNumeral => .badIndex
  | .noBoolean _ => .badKey
  | .noMoment => .badPart
  | .mappingForMoment => .badKind
  | _ => .badValue

/-- The message about a fault. -/
def message : Fault → Text
  | .malformed => "malformed YAML".text
  | .noCharacter => "chr() arg not in range(0x110000)".text
  | .codeTooLarge => "Python int too large to convert to C int".text
  | .numeralTooLong digits => overlongNumber digits
  | .noInteger base s =>
    "invalid literal for int() with base ".text ++ Text.ofNat base ++ ": ".text ++ (Text.quoted s).take 200
  | .noDecimal s => "could not convert string to float: ".text ++ Text.quoted s
  | .emptyNumeral => "string index out of range".text
  | .placesTooMany => "int too large to convert to float".text
  | .noBoolean s => Text.quoted s
  | .noMoment => "'NoneType' object has no attribute 'groupdict'".text
  | .mappingForMoment => "expected string or bytes-like object, got 'list'".text
  | .calendar fault => fault.message

end Fault

end HtmlTemplate.Yaml
