import HtmlTemplate.Pattern.Escape
import HtmlTemplate.Text.Identifier

/-!
# Reading patterns

The written form of a pattern: characters that stand for themselves, sets in brackets, groups in parentheses, `|`
between the branches of a choice, and `*`, `+`, `?` and bounds in braces after what is repeated. A question mark
after the parenthesis makes a group a special one. A pattern that cannot be read has a fault.
-/

namespace HtmlTemplate.Pattern

/-- The bounds of repetitions are below this one. -/
def boundLimit : Nat := 0xFFFFFFFF

/-- The letters of the options. -/
def optionLetters : Text := "iLmsxatu".text

/-- Whether a character is a blank that does not count in a pattern with comments. -/
def isSpacing (c : CodePoint) : Bool := c = ' ' || ('\t' ≤ c && c ≤ '\r')

/-- The number of groups is below this one. -/
def groupLimit : Nat := 0x3FFFFFFF

/-- Whether digits are written with at most one low line between any two of them. -/
def isDigitsWithLines (afterDigit : Bool) : Text → Bool
  | [] => afterDigit
  | c :: rest =>
    if isDigit c then isDigitsWithLines true rest else c = '_' && afterDigit && isDigitsWithLines false rest

/-- The number of a group. Blanks around it, a sign, and low lines between its digits do not count. -/
def groupNumber? (s : Text) : Option Nat :=
  let (isNegative, s) : Bool × Text :=
    match s.trim with
    | '-' :: s => (true, s)
    | '+' :: s => (false, s)
    | s => (false, s)
  let digits := s.filter isDigit
  let number := digitsValue digits
  if !isDigitsWithLines false s || maxIntegerDigits < digits.length || (isNegative && 0 < number) then none
  else some number

/-- The patterns of a list, the latest first, one after the other. -/
def inSequence (latestFirst : List Pattern) : Pattern := latestFirst.foldl (fun p q => .sequence q p) .nothing

namespace Read

/-- A bound of a repetition. -/
def bound (digits : Text) : Read Nat := do
  if maxIntegerDigits < digits.length then failWhole (.boundTooLong digits.length)
  if boundLimit ≤ digitsValue digits then failWhole .boundTooLarge
  return digitsValue digits

/-- Bounds after an opening brace: the least and the greatest number of rounds. Nothing is the answer if the brace
stands for itself. -/
def bounds : Read (Option (Nat × Option Nat)) := do
  let opening ← get
  if (← peek) = some (.plain '\x7d') then return none
  let low ← takeWhile isFigure
  let high ← if ← takeIf ',' then takeWhile isFigure else pure low
  if !(← takeIf '\x7d') then
    set opening
    return none
  let least ← if low.isEmpty then pure 0 else bound low
  if high.isEmpty then return some (least, none)
  let most ← bound high
  if most < least then failAt .reversedBounds opening.position
  return some (least, some most)

/-- The bounds of a repetition, of which the sign `c` has been read; nothing if it is no sign of a repetition. -/
def repetition (c : CodePoint) : Read (Option (Nat × Option Nat)) :=
  match c with
  | '*' => return some (0, none)
  | '+' => return some (1, none)
  | '?' => return some (0, some 1)
  | '\x7b' => bounds
  | _ => return none

/-- What a sign after that of a repetition says of its rounds. -/
def appetite : Read Appetite := do
  if ← takeIf '?' then return .sparing
  if ← takeIf '+' then return .keeping
  return .greedy

/-- The repetition of the latest pattern, the sign of which is at a position. -/
def repeated (position least : Nat) (most : Option Nat) : List Pattern → Read (List Pattern)
  | [] => failAt .nothingToRepeat position
  | .place _ :: _ => failAt .nothingToRepeat position
  | .repetition .. :: _ => failAt .multipleRepeat position
  | p :: earlier => return .repetition least most (← appetite) p :: earlier

/-- The name of a group, which is an identifier. -/
def groupName (closer : CodePoint) : Read Text := do
  let name ← nameThrough "group name" closer
  if isIdentifier name then return name else fail (.badGroupName name) (name.length + 1)

/-- The number of the group with a name. -/
def groupNamed (name : Text) : Read Nat := do
  match (← get).names.lookup name with
  | some number => return number
  | none => fail (.unknownGroupName name) (name.length + 1)

/-- The group on which a choice depends, by its name or number. A number may be that of a later group. -/
def awaitedGroup : Read Nat := do
  let name ← nameThrough "group name" ')'
  let number ←
    if isIdentifier name then groupNamed name
    else
      match groupNumber? name with
      | none => fail (.badGroupName name) (name.length + 1)
      | some number =>
        if number = 0 then fail .groupNought (name.length + 1)
        if groupLimit ≤ number then fail (.noSuchGroup number) (name.length + 1)
        let place := (← position) - (name.length + 1)
        modify fun r => { r with awaited := r.awaited ++ [(number, place)] }
        pure number
  checkLookBack number
  return number

/-- Opens a group: its number. -/
def opened (name? : Option Text) : Read Nat := do
  let r ← get
  let number := r.groups + 1
  match name? with
  | none => set { r with groups := number }
  | some name =>
    match r.names.lookup name with
    | some earlier => fail (.repeatedGroupName name number earlier) (name.length + 1)
    | none => set { r with groups := number, names := r.names ++ [(name, number)] }
  return number

/-- Passes a comment up to the closing parenthesis. The one at `opening` begins it. -/
def groupComment (opening : Nat) : Read Unit := do
  match ← takeThrough ')' (← get).rest.length with
  | some _ => return
  | none => failAt .unterminatedComment opening

/-- Passes a comment up to the end of its line. -/
def lineComment : Read Unit := do
  let _ ← takeThrough '\n' (← get).rest.length

/-- The fault of a sign that is no letter of an option. -/
def failOption {α : Type} (missing : Cause) : Sign → Read α
  | .plain c => fail (if isLetter c then .unknownOption else missing) 1
  | .escaped _ => fail missing 2

/-- The options that are turned on, of which the letter `c` has been read, and the mark after them. -/
def optionsOn : Nat → Text → CodePoint → Read (Text × CodePoint)
  | 0, _, _ => fail .missingOptionsEnd 0
  | steps + 1, earlier, c => do
    if c = 'L' then fail .optionForBytes 0
    let letters := earlier ++ [c]
    if letters.contains 'a' && letters.contains 'u' then fail .opposedOptions 0
    match ← take with
    | none => fail .missingOptionsEnd 0
    | some sign =>
      match sign with
      | .plain ')' => return (letters, ')')
      | .plain '-' => return (letters, '-')
      | .plain ':' => return (letters, ':')
      | .plain d => if optionLetters.contains d then optionsOn steps letters d else failOption .missingOptionsEnd sign
      | sign => failOption .missingOptionsEnd sign

/-- The options that are turned off, up to the colon. `missing` is the fault of an end in front of it. -/
def optionsOff : Nat → Cause → Text → Read Text
  | 0, missing, _ => fail missing 0
  | steps + 1, missing, letters => do
    match ← take with
    | none => fail missing 0
    | some sign =>
      match sign with
      | .plain c =>
        if c = ':' && !letters.isEmpty then return letters
        else if !optionLetters.contains c then failOption missing sign
        else if c = 'a' || c = 'u' || c = 'L' then fail .keptOption 0
        else optionsOff steps .missingOptionsColon (letters ++ [c])
      | sign => failOption missing sign

/-- The options that a group turns on and off, of which the letter or sign `c` has been read. Nothing is the answer for
options of the whole pattern, which are then set. -/
def groupOptions (c : CodePoint) : Read (Option (Text × Text)) := do
  let steps := (← get).rest.length + 1
  let (on, mark) ← if c = '-' then pure (([], '-') : Text × CodePoint) else optionsOn steps [] c
  if mark = ')' then
    modify fun r => { r with options := r.options.plus on }
    return none
  if on.contains 't' then fail (.globalOption true) 1
  let off ← if mark = '-' then optionsOff steps .missingOption [] else pure []
  if off.contains 't' then fail (.globalOption false) 1
  if on.any off.contains then fail .onAndOff 1
  return some (on, off)

/-- Closes a group or fails at its opening. -/
def close (opening : Nat) : Read Unit := do
  if !(← takeIf ')') then failAt .missingParenthesis opening

end Read

/-- The first part of a pattern that cannot be used as it is: a look back without a fixed width, or a repetition where
there may be none. -/
def misuse? (barsRepetition : Bool) : Pattern → Option Cause
  | .sequence first second => (misuse? barsRepetition first).or (misuse? barsRepetition second)
  | .choice first second => (misuse? barsRepetition first).or (misuse? barsRepetition second)
  | .group _ inner => misuse? barsRepetition inner
  | .repetition _ _ appetite inner =>
    if barsRepetition then some (.barredRepetition appetite) else misuse? barsRepetition inner
  | .look behind _ inner =>
    if behind.any (·.fixed?.isNone) then some .unboundedLookBehind else misuse? barsRepetition inner
  | .whole inner => misuse? barsRepetition inner
  | .byGroup _ matched unmatched => (misuse? barsRepetition matched).or (misuse? barsRepetition unmatched)
  | _ => none

namespace Read

mutual

/-- Reads the branches of a choice. -/
def branches : Nat → Bool → Read Pattern
  | 0, _ => fail .unexpectedEnd 0
  | steps + 1, isFirst => do
    let first ← parts steps isFirst []
    if ← takeIf '|' then return .choice first (← branches steps false) else return first

/-- Reads the parts of a branch; `earlier` are those in front, the latest first. `isFirst` tells whether it is the
first branch of the whole pattern. -/
def parts : Nat → Bool → List Pattern → Read Pattern
  | 0, _, _ => fail .unexpectedEnd 0
  | steps + 1, isFirst, earlier => do
    match ← peek with
    | none => return inSequence earlier
    | some (.plain '|') => return inSequence earlier
    | some (.plain ')') => return inSequence earlier
    | some sign =>
      let start ← position
      let _ ← take
      let options ← options
      match sign with
      | .escaped c => parts steps isFirst ((← escape c) :: earlier)
      | .plain c =>
        if options.spaced && isSpacing c then parts steps isFirst earlier
        else if options.spaced && c = '#' then
          lineComment
          parts steps isFirst earlier
        else
          match ← repetition c with
          | some (least, most) => parts steps isFirst (← repeated start least most earlier)
          | none =>
            match c with
            | '(' => parts steps isFirst ((← group steps (isFirst && earlier.isEmpty) start).toList ++ earlier)
            | '[' => parts steps isFirst ((← charOf (← charSet)) :: earlier)
            | '.' =>
              let set : CharSet := ⟨true, if options.dotAll then [] else [.one '\n'.toNat]⟩
              parts steps isFirst ((← charOf set) :: earlier)
            | '^' => parts steps isFirst (.place (if options.lines then .lineStart else .start) :: earlier)
            | '$' => parts steps isFirst (.place (if options.lines then .lineEnd else .lastLineEnd) :: earlier)
            | c => parts steps isFirst ((← charOfCode c.toNat) :: earlier)

/-- Reads a group after its opening parenthesis, which is at `opening`. Nothing is the answer if it matches nothing of
its own. -/
def group : Nat → Bool → Nat → Read (Option Pattern)
  | 0, _, _ => fail .unexpectedEnd 0
  | steps + 1, isFirst, opening => do
    if !(← takeIf '?') then return ← numbered steps opening none
    match ← take with
    | none => fail .unexpectedEnd 0
    | some sign =>
      match sign with
      | .plain ':' => return some (.group none (← inner steps opening))
      | .plain '>' => return some (.whole (← inner steps opening))
      | .plain '=' => return some (.look none true (← inner steps opening))
      | .plain '!' => return some (.look none false (← inner steps opening))
      | .plain '#' =>
        groupComment opening
        return none
      | .plain 'P' =>
        if ← takeIf '<' then return ← numbered steps opening (some (← groupName '>'))
        if ← takeIf '=' then
          let name ← groupName ')'
          return some (← groupAgain (← groupNamed name) (name.length + 1))
        match ← take with
        | none => fail .unexpectedEnd 0
        | some sign => fail (.unknownExtension ("?P".text ++ sign.text)) (sign.text.length + 2)
      | .plain '<' =>
        match ← take with
        | none => fail .unexpectedEnd 0
        | some (.plain '=') => return some (← lookBack steps opening true)
        | some (.plain '!') => return some (← lookBack steps opening false)
        | some sign => fail (.unknownExtension ("?<".text ++ sign.text)) (sign.text.length + 2)
      | .plain '(' =>
        let number ← awaitedGroup
        let matched ← parts steps false []
        let unmatched ← if ← takeIf '|' then parts steps false [] else pure .nothing
        if (← peek) = some (.plain '|') then fail .tooManyBranches 0
        close opening
        return some (.byGroup number matched unmatched)
      | .plain c =>
        if !optionLetters.contains c && c ≠ '-' then fail (.unknownExtension ['?', c]) 2
        let outside ← options
        match ← groupOptions c with
        | none =>
          if isFirst then return none else failAt .lateOptions opening
        | some (on, off) =>
          modify fun r => { r with options := outside.inside on off }
          let p ← inner steps opening
          modify fun r => { r with options := outside }
          return some (.group none p)
      | sign => fail (.unknownExtension ('?' :: sign.text)) (sign.text.length + 1)

/-- Reads a group that is kept. -/
def numbered : Nat → Nat → Option Text → Read (Option Pattern)
  | 0, _, _ => fail .unexpectedEnd 0
  | steps + 1, opening, name? => do
    let number ← opened name?
    let p ← inner steps opening
    modify fun r => { r with widths := (number, p.width r.widths) :: r.widths }
    return some (.group (some number) p)

/-- Reads the pattern in a look back. -/
def lookBack : Nat → Nat → Bool → Read Pattern
  | 0, _, _ => fail .unexpectedEnd 0
  | steps + 1, opening, wanted => do
    let outside := (← get).lookBack?
    modify fun r => { r with lookBack? := some (outside.getD r.groups) }
    let p ← inner steps opening
    modify fun r => { r with lookBack? := outside }
    return .look (some (p.width (← get).widths)) wanted p

/-- Reads the pattern in a group up to the closing parenthesis. -/
def inner : Nat → Nat → Read Pattern
  | 0, _ => fail .unexpectedEnd 0
  | steps + 1, opening => do
    let p ← branches steps false
    close opening
    return p

end

/-- Reads a whole pattern. -/
def pattern : Read Pattern := do
  let r ← get
  if r.rest = (['\\'] : Text) then fail .danglingEscape 0
  let p ← branches (6 * r.rest.length + 6) true
  let r ← get
  if r.options.ascii && r.options.unicode then failWhole .opposedScopes
  if !r.rest.isEmpty then fail .unbalancedParenthesis 0
  match r.awaited.find? fun (number, _) => r.groups < number with
  | some (number, position) => failAt (.noSuchGroup number) position
  | none =>
    match p.misuse? r.options.barsRepetition with
    | some cause => failWhole cause
    | none => return p

end Read

/-- The pattern that a text writes, and what has been met in reading it. -/
def read (ignoreCase : Bool) (source : Text) : Except Fault (Pattern × Reading) :=
  Read.pattern.run ⟨0, source, ⟨ignoreCase, false, false, false, false, false, false⟩, 0, [], [], none, []⟩

end HtmlTemplate.Pattern
