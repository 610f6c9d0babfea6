import HtmlTemplate.Text.Quoted

/-!
# Reading bytes as characters

Bytes are read in steps. A step takes some bytes from the front and gives the characters for which they stand. It may
also stop, because the bytes in front stand for nothing.
-/

namespace HtmlTemplate

/-- The contents of a file. -/
abbrev Bytes := List UInt8

/-- Why bytes stand for no character. -/
inductive Misreading.Cause where
  | badStart
  | badContinuation
  | endOfData
  | beyondAscii
  | truncated
  | loneHalf
  | missingHalf
  | beyondUnicode
  | surrogate
  | unmapped
  /-- A sequence of several bytes that does not stand for a character. -/
  | badSequence
  | incompleteSequence
  | cutCharacter
  | paddingBits
  | badShift
  | openShift
  | specialCharacter
  /-- An escape with a letter and fewer digits than it takes, of which there should be `width`. -/
  | cutEscape (letter : CodePoint) (width : Nat)
  | escapeBeyondUnicode
  | rawEscapeBeyondUnicode
  | loneBackslash
  | badNameEscape
  | unknownName
  deriving DecidableEq, Repr

namespace Misreading.Cause

/-- The words for a cause. -/
def message : Misreading.Cause → Text
  | .badStart => "invalid start byte".text
  | .badContinuation => "invalid continuation byte".text
  | .endOfData => "unexpected end of data".text
  | .beyondAscii => "ordinal not in range(128)".text
  | .truncated => "truncated data".text
  | .loneHalf => "illegal encoding".text
  | .missingHalf => "illegal UTF-16 surrogate".text
  | .beyondUnicode => "code point not in range(0x110000)".text
  | .surrogate => "code point in surrogate code point range(0xd800, 0xe000)".text
  | .unmapped => "character maps to <undefined>".text
  | .badSequence => "illegal multibyte sequence".text
  | .incompleteSequence => "incomplete multibyte sequence".text
  | .cutCharacter => "partial character in shift sequence".text
  | .paddingBits => "non-zero padding bits in shift sequence".text
  | .badShift => "ill-formed sequence".text
  | .openShift => "unterminated shift sequence".text
  | .specialCharacter => "unexpected special character".text
  | .cutEscape letter width =>
    "truncated \\".text ++ letter :: (List.replicate width ('X' : CodePoint) ++ " escape".text)
  | .escapeBeyondUnicode => "illegal Unicode character".text
  | .rawEscapeBeyondUnicode => "\\Uxxxxxxxx out of range".text
  | .loneBackslash => "\\ at end of string".text
  | .badNameEscape => "malformed \\N character escape".text
  | .unknownName => "unknown Unicode character name".text

end Misreading.Cause

/-- Bytes that stand for no character: the name of the encoding, where they are, which they are, and why. -/
structure Misreading where
  encoding : Text
  position : Nat
  bytes : Bytes
  cause : Misreading.Cause
  deriving DecidableEq, Repr

namespace Misreading

/-- The message about bytes that stand for no character. -/
def message (misreading : Misreading) : Text :=
  let place :=
    match misreading.bytes with
    | [b] => "byte 0x".text ++ Text.hex 2 b.toNat ++ " in position ".text ++ Text.ofNat misreading.position
    | bytes =>
      "bytes in position ".text ++ Text.ofNat misreading.position ++ "-".text ++
        Text.ofNat (misreading.position + bytes.length - 1)
  Text.quoted misreading.encoding ++ " codec can't decode ".text ++ place ++ ": ".text ++ misreading.cause.message

end Misreading

/-- Why a step stops: how many of the bytes in front are at fault, and what is wrong with them. -/
structure Snag where
  length : Nat
  cause : Misreading.Cause
  deriving DecidableEq, Repr

/-- What a step has read: the characters, how many bytes stand for them, and the state that is left. -/
structure Step (σ : Type) where
  chars : Text
  length : Nat
  state : σ

/-- Where reading has stopped: how many bytes are in front, how many are at fault, and what is wrong with them. -/
structure Halt where
  position : Nat
  length : Nat
  cause : Misreading.Cause
  deriving DecidableEq, Repr

/-- The misreading of bytes at which reading has stopped. -/
def Halt.misreading (encoding : Text) (bytes : Bytes) (halt : Halt) : Misreading :=
  ⟨encoding, halt.position, (bytes.drop halt.position).take halt.length, halt.cause⟩

/-- Reads bytes step by step: the characters, and the state at the end. `done` has what has been read, the latest
first. There are at most `fuel` steps. -/
def readSteps {σ : Type} (step : σ → Bytes → Except Snag (Step σ)) :
    Nat → Nat → σ → List Text → Bytes → Except Halt (Text × σ)
  | _, _, state, done, [] => .ok (done.reverse.flatten, state)
  | 0, position, _, _, _ :: _ => .error ⟨position, 1, .badSequence⟩
  | fuel + 1, position, state, done, b :: rest =>
    match step state (b :: rest) with
    | .error snag => .error ⟨position, snag.length, snag.cause⟩
    | .ok s => readSteps step fuel (position + s.length) s.state (s.chars :: done) ((b :: rest).drop s.length)

/-- Reads bytes step by step without a state. -/
def readAll (step : Bytes → Except Snag (Text × Nat)) (bytes : Bytes) : Except Halt Text :=
  let stepOf (_ : Unit) (bytes : Bytes) : Except Snag (Step Unit) :=
    (step bytes).map fun (chars, length) => ⟨chars, length, ()⟩
  (readSteps stepOf bytes.length 0 () [] bytes).map Prod.fst

end HtmlTemplate
