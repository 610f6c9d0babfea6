import HtmlTemplate.Text.Basic

/-!
# Runs of names

Consecutive characters often have names that begin alike. A run lists such names: what they have in common, and what
follows it in each of them.
-/

namespace HtmlTemplate.CharName

/-- The names of consecutive characters: the code point of the first one, the stem of all the names, and what follows
the stem in each name, with semicolons between. -/
structure NameRun where
  first : Nat
  stem : String
  tails : String

/-- What follows `stem` in a text that begins with it. -/
def afterStem? : Text → Text → Option Text
  | [], s => some s
  | _ :: _, [] => none
  | c :: stem, d :: s => if c = d then afterStem? stem s else none

/-- Which of the texts with semicolons between them is `s`, the first of them being the `n`-th one. What is left of `s`
to be found in the first one is in front, if it has begun like `s`. -/
def indexFrom? (s : Text) : Nat → Option Text → Text → Option Nat
  | n, some [], [] => some n
  | _, _, [] => none
  | n, left, ';' :: rest => if left = some [] then some n else indexFrom? s (n + 1) (some s) rest
  | n, some (d :: left), c :: rest => indexFrom? s n (if c = d then some left else none) rest
  | n, _, _ :: rest => indexFrom? s n none rest

/-- Which of the texts with semicolons between them is `s`. -/
def index? (s : Text) (listed : String) : Option Nat := indexFrom? s 0 (some s) listed.text

namespace NameRun

/-- The code point of the character that has a name in the run. -/
def code? (run : NameRun) (name : Text) : Option Nat := do
  let tail ← afterStem? run.stem.text name
  return run.first + (← index? tail run.tails)

end NameRun

end HtmlTemplate.CharName
