import HtmlTemplate.Text.Basic

/-!
# Tables of coded characters

A table says which characters the codes of a set stand for. Several tables may be asked one after the other: one that
comes first may change what a later one says.
-/

namespace HtmlTemplate

/-- The characters of a set by their codes. A row has the characters of consecutive codes from one on, with U+FFFE for a
code that the table does not tell of, and U+FFFF for one that stands for nothing. A run has consecutive characters from
one on for the codes between two bounds. The codes among the pairs stand for two characters each. -/
structure CodeTable where
  rows : List (Nat × String)
  runs : List (Nat × Nat × Nat) := []
  pairs : List (Nat × String) := []

namespace CodeTable

/-- The longest row has so many characters. -/
def rowLimit : Nat := 0x100

/-- The characters of a code in one of the rows. -/
def inRows? (table : CodeTable) (code : Nat) : Option Text :=
  table.rows.findSome? fun (first, chars) =>
    if first ≤ code && code < first + rowLimit then
      match chars.text[code - first]? with
      | some '\ufffe' => none
      | some c => some [c]
      | none => none
    else none

/-- The character of a code in one of the runs. -/
def inRuns? (table : CodeTable) (code : Nat) : Option Text :=
  table.runs.findSome? fun (first, last, char) =>
    if first ≤ code && code ≤ last then some [CodePoint.ofNat (char + (code - first))] else none

/-- What a table tells of a code. -/
def find? (table : CodeTable) (code : Nat) : Option Text :=
  ((table.inRows? code).or (table.inRuns? code)).or ((table.pairs.lookup code).map String.text)

end CodeTable

/-- The characters of a code in the first table that tells of it. -/
def charsIn? (tables : List CodeTable) (code : Nat) : Option Text :=
  (tables.findSome? fun table => table.find? code).filter (· ≠ "\uffff".text)

end HtmlTemplate
