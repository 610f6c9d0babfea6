import HtmlTemplate.Text.Case

/-!
# Comparison that ignores case

Two characters are the same but for case if their single lower-case forms are equal, or are listed together as
forms of one letter.
-/

namespace HtmlTemplate

/-- Lower-case code points that count as forms of one letter. -/
def letterForms : List (List Nat) :=
  [[0x69, 0x131], [0x73, 0x17F], [0xB5, 0x3BC], [0x345, 0x3B9, 0x1FBE], [0x390, 0x1FD3],
   [0x3B0, 0x1FE3], [0x3B2, 0x3D0], [0x3B5, 0x3F5], [0x3B8, 0x3D1], [0x3BA, 0x3F0],
   [0x3C0, 0x3D6], [0x3C1, 0x3F1], [0x3C2, 0x3C3], [0x3C6, 0x3D5], [0x432, 0x1C80],
   [0x434, 0x1C81], [0x43E, 0x1C82], [0x441, 0x1C83], [0x442, 0x1C84, 0x1C85], [0x44A, 0x1C86],
   [0x463, 0x1C87], [0x1C88, 0xA64B], [0x1E61, 0x1E9B], [0xFB05, 0xFB06]]

/-- The code points that count as the lower-case code point `n`. -/
def formsOf (n : Nat) : List Nat :=
  match letterForms.find? (·.contains n) with
  | some forms => forms
  | none => [n]

/-- Whether two characters are the same letter but for case. -/
def sameIgnoringCase (a b : CodePoint) : Bool := (formsOf (lowerCode a.toNat)).contains (lowerCode b.toNat)

/-- The capitals of one run that have the lower-case code point `n`. -/
def capitalsIn (n : Nat) : CaseRun → List Nat
  | (first, last, step, shift) =>
    let code := ((n : Int) - shift).toNat
    if first ≤ code && code ≤ last && (code - first) % step == 0 && (code : Int) + shift == n then [code] else []

/-- Every code point whose single lower-case form counts as that of `c`. -/
def caseVariants (c : CodePoint) : List Nat :=
  (formsOf (lowerCode c.toNat)).flatMap fun n =>
    n :: (if n = 0x69 then [0x130] else []) ++ lowerRuns.flatMap (capitalsIn n)

end HtmlTemplate
