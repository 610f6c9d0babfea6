import HtmlTemplate.Pattern.Basic
import HtmlTemplate.Pattern.Fault
import HtmlTemplate.Value.Basic

/-!
# Written patterns

A written pattern is read sign by sign, and a sign is a character or a backslash with the character after it. A
reading also knows the groups that have been met and the options that hold.
-/

namespace HtmlTemplate.Pattern

/-- A sign of a written pattern. -/
inductive Sign where
  | plain (c : CodePoint)
  | escaped (c : CodePoint)
  deriving DecidableEq, Repr

namespace Sign

/-- How a sign is written. -/
def text : Sign → Text
  | .plain c => [c]
  | .escaped c => ['\\', c]

/-- The first sign of a text. -/
def first? : Text → Option Sign
  | [] => none
  | ['\\'] => none
  | '\\' :: c :: _ => some (.escaped c)
  | c :: _ => some (.plain c)

end Sign

/-- What is set for a pattern or for a part of it. -/
structure Options where
  ignoreCase : Bool
  /-- Lines have a start and an end. -/
  lines : Bool
  /-- A dot stands for a line feed too. -/
  dotAll : Bool
  /-- Blanks and comments do not count. -/
  spaced : Bool
  /-- Letters, digits and blanks are those of ASCII. -/
  ascii : Bool
  /-- Letters, digits and blanks are expressly those of all scripts. -/
  unicode : Bool
  /-- Nothing may be repeated. -/
  barsRepetition : Bool
  deriving DecidableEq, Repr

namespace Options

/-- Which letters count as the same. -/
def folding (options : Options) : Folding :=
  if !options.ignoreCase then .exact else if options.ascii then .ascii else .unicode

/-- The options with some more, which letters tell. -/
def plus (letters : Text) (options : Options) : Options where
  ignoreCase := options.ignoreCase || letters.contains 'i'
  lines := options.lines || letters.contains 'm'
  dotAll := options.dotAll || letters.contains 's'
  spaced := options.spaced || letters.contains 'x'
  ascii := options.ascii || letters.contains 'a'
  unicode := options.unicode || letters.contains 'u'
  barsRepetition := options.barsRepetition || letters.contains 't'

/-- The options without some, which letters tell. -/
def minus (letters : Text) (options : Options) : Options :=
  { options with
    ignoreCase := options.ignoreCase && !letters.contains 'i'
    lines := options.lines && !letters.contains 'm'
    dotAll := options.dotAll && !letters.contains 's'
    spaced := options.spaced && !letters.contains 'x' }

/-- The options of a part for which some are turned on and some are turned off. -/
def inside (on off : Text) (options : Options) : Options :=
  let options :=
    if on.contains 'a' || on.contains 'u' then { options with ascii := false, unicode := false } else options
  (options.plus on).minus off

end Options

/-- How far a written pattern has been read: the position, what is left, the options that hold, how many groups have
been opened, the names of groups, and the widths of the groups that have been closed. -/
structure Reading where
  position : Nat
  rest : Text
  options : Options
  groups : Nat
  names : Entries Nat
  widths : List (Nat × Width)
  /-- In a look back, how many groups had been opened in front of it. -/
  lookBack? : Option Nat
  /-- The groups on which a choice depends, and where it does. -/
  awaited : List (Nat × Nat)

/-- A step that reads a part of a written pattern. -/
abbrev Read := StateT Reading (Except Fault)

namespace Read

/-- Fails at a position. -/
def failAt {α : Type} (cause : Cause) (position : Nat) : Read α := throw ⟨cause, some position⟩

/-- Fails so many characters in front of where the reading is. -/
def fail {α : Type} (cause : Cause) (back : Nat) : Read α := do
  failAt cause ((← get).position - back)

/-- Fails for the pattern as a whole. -/
def failWhole {α : Type} (cause : Cause) : Read α := throw ⟨cause, none⟩

/-- Where the reading is. -/
def position : Read Nat := return (← get).position

/-- The options that hold. -/
def options : Read Options := return (← get).options

/-- The next sign, which is not read. -/
def peek : Read (Option Sign) := return Sign.first? (← get).rest

/-- Reads a sign. A lone backslash at the end is a fault as soon as it comes next. -/
def take : Read (Option Sign) := do
  let r ← get
  match Sign.first? r.rest with
  | none => return none
  | some sign =>
    let length := sign.text.length
    let rest := r.rest.drop length
    if rest = (['\\'] : Text) then failAt .danglingEscape (r.position + length)
    set { r with position := r.position + length, rest := rest }
    return some sign

/-- Reads a character, if it comes next. -/
def takeIf (c : CodePoint) : Read Bool := do
  if (← peek) = some (.plain c) then
    let _ ← take
    return true
  else return false

/-- Reads the characters of a class in front, at most `n` of them. -/
def takeUpTo (isIn : CodePoint → Bool) : Nat → Read Text
  | 0 => return []
  | n + 1 => do
    match ← peek with
    | some (.plain c) =>
      if isIn c then
        let _ ← take
        return c :: (← takeUpTo isIn n)
      else return []
    | _ => return []

/-- Reads the characters of a class in front. -/
def takeWhile (isIn : CodePoint → Bool) : Read Text := do
  takeUpTo isIn (← get).rest.length

/-- Reads signs up to a closing character, in at most `steps` steps. Nothing is the answer if there is none. -/
def takeThrough (closer : CodePoint) : Nat → Read (Option Text)
  | 0 => return none
  | steps + 1 => do
    match ← take with
    | none => return none
    | some (.plain c) =>
      if c = closer then return some [] else return (← takeThrough closer steps).map (c :: ·)
    | some (.escaped c) => return (← takeThrough closer steps).map ('\\' :: c :: ·)

/-- A name up to a closing character; `what` tells what it is the name of. -/
def nameThrough (what : String) (closer : CodePoint) : Read Text := do
  let start ← position
  match ← takeThrough closer (← get).rest.length with
  | none =>
    if (← position) = start then fail (.missingName what.text) 0 else failAt (.unterminatedName closer) start
  | some [] => fail (.missingName what.text) 1
  | some name => return name

end Read

end HtmlTemplate.Pattern
