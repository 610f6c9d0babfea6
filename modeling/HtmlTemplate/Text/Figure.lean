import HtmlTemplate.Text.Basic

/-!
# Figures

The digits of ASCII, decimal and hexadecimal, and the numbers that they write. A number may be too long to be read.
-/

namespace HtmlTemplate

/-- Whether a character is a decimal digit of ASCII. -/
def isFigure (c : CodePoint) : Bool := '0' ≤ c && c ≤ '9'

/-- The value of a hexadecimal digit. -/
def hexValue? (c : CodePoint) : Option Nat :=
  if isFigure c then some (c.toNat - 48)
  else if 'a' ≤ c && c ≤ 'f' then some (c.toNat - 87)
  else if 'A' ≤ c && c ≤ 'F' then some (c.toNat - 55)
  else none

/-- The number that hexadecimal digits write. -/
def hexNumber? (digits : Text) : Option Nat := digits.foldlM (fun n c => (hexValue? c).map (16 * n + ·)) 0

/-- The most digits that an integer is written or read with. -/
def maxIntegerDigits : Nat := 4300

/-- What is said of an integer of too many digits. -/
def overlongNumber (digits : Nat) : Text :=
  "Exceeds the limit (4300 digits) for integer string conversion: value has ".text ++ Text.ofNat digits ++
    " digits; use sys.set_int_max_str_digits() to increase the limit".text

end HtmlTemplate
