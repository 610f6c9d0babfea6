import HtmlTemplate.Pattern.Reading
import HtmlTemplate.Writing.CharName.Reader

/-!
# Escapes and sets

What a backslash and the character after it stand for, outside of brackets and inside; and the sets of characters in
brackets. Digits in base eight or sixteen may follow and write a code point,
and so may the name of a character in braces.
-/

namespace HtmlTemplate.Pattern

/-- The control character that a letter after a backslash stands for. -/
def controlCode? : CodePoint → Option Nat
  | 'a' => some 0x07
  | 't' => some 0x09
  | 'n' => some 0x0A
  | 'v' => some 0x0B
  | 'f' => some 0x0C
  | 'r' => some 0x0D
  | _ => none

/-- The class that a letter after a backslash stands for, and whether it is the complement. -/
def class? : CodePoint → Option (CharClass × Bool)
  | 's' => some (.blank, false)
  | 'S' => some (.blank, true)
  | 'd' => some (.digit, false)
  | 'D' => some (.digit, true)
  | 'w' => some (.word, false)
  | 'W' => some (.word, true)
  | _ => none

/-- The kind of place that a letter after a backslash stands for. -/
def place? (ascii : Bool) : CodePoint → Option Place
  | 'A' => some .start
  | 'Z' => some .finish
  | 'b' => some (.wordEdge ascii false)
  | 'B' => some (.wordEdge ascii true)
  | _ => none

/-- How many hexadecimal digits follow a letter after a backslash. -/
def hexWidth? : CodePoint → Option Nat
  | 'x' => some 2
  | 'u' => some 4
  | 'U' => some 8
  | _ => none

/-- Whether a character is a digit in base eight. -/
def isOctal (c : CodePoint) : Bool := '0' ≤ c && c ≤ '7'

/-- The number that digits in base eight write. -/
def octalValue (digits : Text) : Nat := digits.foldl (fun n c => 8 * n + (c.toNat - 48)) 0

namespace Read

/-- Fails at a backslash and `written`, which have been read. -/
def failEscape {α : Type} (cause : Text → Cause) (written : Text) : Read α :=
  fail (cause ('\\' :: written)) (written.length + 1)

/-- The code point that `width` hexadecimal digits write after a backslash and the letter `c`. -/
def hexCode (c : CodePoint) (width : Nat) : Read Nat := do
  let digits ← takeUpTo (fun c => (hexValue? c).isSome) width
  if digits.length < width then failEscape .incompleteEscape (c :: digits)
  match hexNumber? digits with
  | some code => if code < 0x110000 then return code else failEscape .badEscape (c :: digits)
  | none => failEscape .badEscape (c :: digits)

/-- The code point that digits in base eight write after a backslash. -/
def octalCode (digits : Text) : Read Nat :=
  if octalValue digits < 0x100 then return octalValue digits else failEscape .octalTooLarge digits

/-- The code point of the character whose name follows in braces. -/
def namedCode : Read Nat := do
  if !(← takeIf '\x7b') then fail .missingBrace 0
  let name ← nameThrough "character name" '\x7d'
  match CharName.code? name with
  | some code => return code
  | none => fail (.unknownCharName name) (name.length + 4)

/-- The code point of a character after a backslash that stands for itself. -/
def ownCode (c : CodePoint) : Read Nat :=
  if c.any Char.isAlphanum then failEscape .badEscape [c] else return c.toNat

/-- The code point that a character after a backslash, and maybe digits after it, write in a set. -/
def setCode (c : CodePoint) : Read Nat := do
  if c = 'b' then return 0x08
  if c = 'N' then return ← namedCode
  match controlCode? c, hexWidth? c with
  | some code, _ => return code
  | none, some width => hexCode c width
  | none, none => if isOctal c then octalCode (c :: (← takeUpTo isOctal 2)) else ownCode c

/-- What a sign in a set stands for. -/
def setItem : Sign → Read CharItem
  | .plain c => return .one c.toNat
  | .escaped c => do
    match class? c with
    | some (cls, complement) => return .ofClass (← options).ascii cls complement
    | none => return .one (← setCode c)

/-- The range between two items. -/
def range? : CharItem → CharItem → Option CharItem
  | .one first, .one last => if first ≤ last then some (.range first last) else none
  | _, _ => none

/-- The items of a set up to the closing bracket. The bracket at `opening` begins the set, and a closing bracket in
front of the first item stands for itself. -/
def setItems (opening : Nat) : Nat → Bool → Read (List CharItem)
  | 0, _ => failAt .unterminatedSet opening
  | steps + 1, isFirst => do
    match ← take with
    | none => failAt .unterminatedSet opening
    | some first =>
      if first = .plain ']' && !isFirst then return []
      let a ← setItem first
      if !(← takeIf '-') then return a :: (← setItems opening steps false)
      match ← take with
      | none => failAt .unterminatedSet opening
      | some last =>
        if last = .plain ']' then return [a, .one '-'.toNat]
        let b ← setItem last
        match range? a b with
        | none => fail (.badRange first.text last.text) (first.text.length + 1 + last.text.length)
        | some item => return item :: (← setItems opening steps false)

/-- A set after its opening bracket. -/
def charSet : Read CharSet := do
  let opening := (← position) - 1
  let complement ← takeIf '^'
  return ⟨complement, ← setItems opening ((← get).rest.length + 1) true⟩

/-- The pattern for one character of a set. -/
def charOf (set : CharSet) : Read Pattern := return .char (← options).folding set

/-- The pattern for a code point. -/
def charOfCode (code : Nat) : Read Pattern := charOf ⟨false, [.one code]⟩

/-- Makes sure that in a look back a group is in front of it. -/
def checkLookBack (number : Nat) : Read Unit := do
  let r ← get
  match r.lookBack? with
  | none => return
  | some earlier =>
    if (r.widths.lookup number).isNone then fail .openGroup 0
    if earlier < number then fail .groupOfSameLookBehind 0

/-- What a closed group has matched, once more. The reference to it takes `length` characters. -/
def groupAgain (number length : Nat) : Read Pattern := do
  if ((← get).widths.lookup number).isNone then fail .openGroup length
  checkLookBack number
  return .again (← options).folding number

/-- What digits after a backslash stand for: a code point in base eight, if there are three of them or the first is
nought, and else a group. -/
def digitsEscape (c : CodePoint) : Read Pattern := do
  if c = '0' then return ← charOfCode (octalValue (← takeUpTo isOctal 2))
  let second ← takeUpTo isFigure 1
  let third ← if isOctal c && !second.isEmpty && second.all isOctal then takeUpTo isOctal 1 else pure []
  let digits := c :: second ++ third
  if !third.isEmpty then return ← charOfCode (← octalCode digits)
  let number := digitsValue digits
  if (← get).groups < number then fail (.noSuchGroup number) digits.length
  groupAgain number (digits.length + 1)

/-- What a backslash and a character, and maybe digits after them, stand for. -/
def escape (c : CodePoint) : Read Pattern := do
  if c = 'N' then return ← charOfCode (← namedCode)
  let ascii := (← options).ascii
  match place? ascii c, class? c, controlCode? c, hexWidth? c with
  | some kind, _, _, _ => return .place kind
  | _, some (cls, complement), _, _ => charOf ⟨false, [.ofClass ascii cls complement]⟩
  | _, _, some code, _ => charOfCode code
  | _, _, _, some width => charOfCode (← hexCode c width)
  | _, _, _, _ => if isFigure c then digitsEscape c else charOfCode (← ownCode c)

end Read

end HtmlTemplate.Pattern
