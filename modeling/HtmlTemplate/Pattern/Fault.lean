import HtmlTemplate.Pattern.Basic
import HtmlTemplate.Text.Figure
import HtmlTemplate.Text.Quoted

/-!
# Faults of patterns

Why a written pattern cannot be read, and where. Some faults belong to the whole pattern and have no place.
-/

namespace HtmlTemplate.Pattern

/-- What is wrong with a written pattern. -/
inductive Cause where
  | missingParenthesis
  | unbalancedParenthesis
  | unterminatedComment
  | unterminatedSet
  | nothingToRepeat
  | multipleRepeat
  | reversedBounds
  | boundTooLarge
  | boundTooLong (digits : Nat)
  | danglingEscape
  | badEscape (written : Text)
  | incompleteEscape (written : Text)
  | octalTooLarge (written : Text)
  | badRange (first last : Text)
  | unexpectedEnd
  | unknownExtension (written : Text)
  | missingBrace
  | missingName (what : Text)
  | unterminatedName (closer : CodePoint)
  | unknownCharName (name : Text)
  | badGroupName (name : Text)
  | repeatedGroupName (name : Text) (second first : Nat)
  | unknownGroupName (name : Text)
  | noSuchGroup (number : Nat)
  | groupNought
  | openGroup
  | groupOfSameLookBehind
  | tooManyBranches
  | unboundedLookBehind
  | lateOptions
  | unknownOption
  | missingOption
  | missingOptionsEnd
  | missingOptionsColon
  | optionForBytes
  | opposedOptions
  | keptOption
  | globalOption (on : Bool)
  | onAndOff
  | opposedScopes
  | barredRepetition (appetite : Appetite)
  deriving DecidableEq, Repr

namespace Cause

/-- The words for a cause. -/
def message : Cause → Text
  | .missingParenthesis => "missing ), unterminated subpattern".text
  | .unbalancedParenthesis => "unbalanced parenthesis".text
  | .unterminatedComment => "missing ), unterminated comment".text
  | .unterminatedSet => "unterminated character set".text
  | .nothingToRepeat => "nothing to repeat".text
  | .multipleRepeat => "multiple repeat".text
  | .reversedBounds => "min repeat greater than max repeat".text
  | .boundTooLarge => "the repetition number is too large".text
  | .boundTooLong digits => overlongNumber digits
  | .danglingEscape => "bad escape (end of pattern)".text
  | .badEscape written => "bad escape ".text ++ written
  | .incompleteEscape written => "incomplete escape ".text ++ written
  | .octalTooLarge written => "octal escape value ".text ++ written ++ " outside of range 0-0o377".text
  | .badRange first last => "bad character range ".text ++ first ++ ('-' : CodePoint) :: last
  | .unexpectedEnd => "unexpected end of pattern".text
  | .unknownExtension written => "unknown extension ".text ++ written
  | .missingBrace => "missing \x7b".text
  | .missingName what => "missing ".text ++ what
  | .unterminatedName closer => "missing ".text ++ closer :: ", unterminated name".text
  | .unknownCharName name => "undefined character name ".text ++ Text.quoted name
  | .badGroupName name => "bad character in group name ".text ++ Text.quoted name
  | .repeatedGroupName name second first =>
    "redefinition of group name ".text ++ Text.quoted name ++ " as group ".text ++ Text.ofNat second ++
      "; was group ".text ++ Text.ofNat first
  | .unknownGroupName name => "unknown group name ".text ++ Text.quoted name
  | .noSuchGroup number => "invalid group reference ".text ++ Text.ofNat number
  | .groupNought => "bad group number".text
  | .openGroup => "cannot refer to an open group".text
  | .groupOfSameLookBehind => "cannot refer to group defined in the same lookbehind subpattern".text
  | .tooManyBranches => "conditional backref with more than two branches".text
  | .unboundedLookBehind => "look-behind requires fixed-width pattern".text
  | .lateOptions => "global flags not at the start of the expression".text
  | .unknownOption => "unknown flag".text
  | .missingOption => "missing flag".text
  | .missingOptionsEnd => "missing -, : or )".text
  | .missingOptionsColon => "missing :".text
  | .optionForBytes => "bad inline flags: cannot use 'L' flag with a str pattern".text
  | .opposedOptions => "bad inline flags: flags 'a', 'u' and 'L' are incompatible".text
  | .keptOption => "bad inline flags: cannot turn off flags 'a', 'u' and 'L'".text
  | .globalOption true => "bad inline flags: cannot turn on global flag".text
  | .globalOption false => "bad inline flags: cannot turn off global flag".text
  | .onAndOff => "bad inline flags: flag turned on and off".text
  | .opposedScopes => "ASCII and UNICODE flags are incompatible".text
  | .barredRepetition appetite =>
    "internal: unsupported template operator ".text ++
      match appetite with
      | .greedy => "MAX_REPEAT".text
      | .sparing => "MIN_REPEAT".text
      | .keeping => "POSSESSIVE_REPEAT".text

end Cause

/-- A fault of a written pattern, and where it is. -/
structure Fault where
  cause : Cause
  position : Option Nat
  deriving DecidableEq, Repr

namespace Fault

/-- The message about a fault of the pattern `source`. In a pattern of several lines the line and the column are told
too. -/
def message (source : Text) (fault : Fault) : Text :=
  match fault.position with
  | none => fault.cause.message
  | some position =>
    let before := source.take position
    let place := fault.cause.message ++ " at position ".text ++ Text.ofNat position
    if source.contains '\n' then
      place ++ " (line ".text ++ Text.ofNat (before.count ('\n' : CodePoint) + 1) ++ ", column ".text ++
        Text.ofNat ((before.reverse.takeWhile (· ≠ ('\n' : CodePoint))).length + 1) ++ ([')'] : Text)
    else place

end Fault

end HtmlTemplate.Pattern
