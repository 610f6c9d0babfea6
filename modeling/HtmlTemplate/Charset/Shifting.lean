import HtmlTemplate.Charset.EastAsian

/-!
# Shifting encodings

All bytes of these encodings are below `0x80`. Sequences of them change the set from which the bytes that follow are
taken: those that begin with the escape character after ISO 2022, and those that begin with a tilde in HZ.
-/

namespace HtmlTemplate

/-- The encodings after ISO 2022. -/
inductive Iso2022 where
  | japanese
  | japanese1
  | japanese2
  | japanese2004
  | japanese3
  | japaneseExtended
  | korean
  deriving DecidableEq, Repr

namespace Charset

/-- The sets that a sequence can name. -/
inductive NamedSet where
  | ascii
  | romanJapanese
  | narrowKana
  | jisX0208
  | jisX0212
  | firstPlane (edition : JisEdition)
  | secondPlane
  | gb2312
  | ksX1001
  | latin1
  | greek
  deriving DecidableEq, Repr

namespace NamedSet

/-- How many bytes a character of the set has. -/
def width : NamedSet → Nat
  | .ascii => 1
  | .romanJapanese => 1
  | .narrowKana => 1
  | .latin1 => 1
  | .greek => 1
  | _ => 2

/-- The characters of one byte. -/
def single? : NamedSet → UInt8 → Option CodePoint
  | .romanJapanese, b => if b = 0x5C then some '¥' else if b = 0x7E then some '‾' else some (CodePoint.ofNat b.toNat)
  | .narrowKana, b => Charset.narrowKana? (b + 0x80)
  | .ascii, b => some (CodePoint.ofNat b.toNat)
  | _, _ => none

/-- The characters of a code of two bytes. -/
def pair? : NamedSet → Nat → Option Text
  | .jisX0208, code => charsIn? [Charset.jisX0208] code
  | .jisX0212, code => charsIn? [Charset.jisX0212] code
  | .firstPlane edition, code =>
    if edition = .year2000 && since2004.contains code then none else firstPlane? code
  | .secondPlane, code => secondPlane? .year2004 code
  | .gb2312, code => charsIn? [Charset.gb2312] code
  | .ksX1001, code => charsIn? [Charset.ksX1001] code
  | _, _ => none

end NamedSet

/-- What holds in the middle of a text: the set in force, the one after a shift, the one for a single character, whether
the shift is on, and whether a foreign sequence is being passed. -/
structure Shift where
  plain : NamedSet
  shifted : NamedSet
  single : NamedSet
  isShifted : Bool
  isForeign : Bool

/-- Nothing has been shifted. -/
def Shift.start : Shift := ⟨.ascii, .ascii, .ascii, false, false⟩

end Charset

namespace Iso2022

open Charset

/-- The name of the encoding in messages. -/
def name : Iso2022 → Text
  | .japanese => "iso2022_jp".text
  | .japanese1 => "iso2022_jp_1".text
  | .japanese2 => "iso2022_jp_2".text
  | .japanese2004 => "iso2022_jp_2004".text
  | .japanese3 => "iso2022_jp_3".text
  | .japaneseExtended => "iso2022_jp_ext".text
  | .korean => "iso2022_kr".text

/-- The sets of two bytes, by the character that names them. -/
def doubleSets : Iso2022 → List (CodePoint × NamedSet)
  | .japanese => [('B', .jisX0208), ('@', .jisX0208)]
  | .japanese1 => [('B', .jisX0208), ('@', .jisX0208), ('D', .jisX0212)]
  | .japanese2 => [('B', .jisX0208), ('@', .jisX0208), ('D', .jisX0212), ('C', .ksX1001), ('A', .gb2312)]
  | .japanese2004 => [('B', .jisX0208), ('Q', .firstPlane .year2004), ('P', .secondPlane)]
  | .japanese3 => [('B', .jisX0208), ('O', .firstPlane .year2000), ('P', .secondPlane)]
  | .japaneseExtended => [('B', .jisX0208), ('@', .jisX0208), ('D', .jisX0212)]
  | .korean => [('C', .ksX1001)]

/-- The sets of one byte, by the character that names them. -/
def singleSets : Iso2022 → List (CodePoint × NamedSet)
  | .japanese => [('B', .ascii), ('J', .romanJapanese)]
  | .japanese1 => [('B', .ascii), ('J', .romanJapanese)]
  | .japanese2 => [('B', .ascii), ('J', .romanJapanese), ('A', .latin1), ('F', .greek)]
  | .japaneseExtended => [('B', .ascii), ('J', .romanJapanese), ('I', .narrowKana)]
  | _ => [('B', .ascii)]

/-- Whether the shift characters count. -/
def hasShift (encoding : Iso2022) : Bool := encoding = .korean

/-- Whether there is a set for single characters. -/
def hasSingle (encoding : Iso2022) : Bool := encoding = .japanese2

/-- Whether a byte ends a sequence. -/
def isFinal (b : UInt8) : Bool := b = 0x40 || (0x41 ≤ b && b ≤ 0x5A)

/-- The length of the sequence of which `count` bytes are in front. The sequence `&@` before another one is passed where
it counts. Nothing is the answer if the bytes end before the sequence does, and nought if it is too long. -/
def sequenceLength? (encoding : Iso2022) : Nat → Nat → Bytes → Option Nat
  | 0, _, _ => some 0
  | steps + 1, count, bytes =>
    if 16 ≤ count then some 0
    else
      match bytes with
      | [] => none
      | b :: rest =>
        if isFinal b then some (count + 1)
        else if !encoding.hasShift && b = 0x26 && rest.head? = some 0x40 then
          sequenceLength? encoding steps (count + 3) (rest.drop 2)
        else sequenceLength? encoding steps (count + 1) rest

/-- What a sequence after the escape character names: where a set is put, and the set. The sequence comes without the
escape character. -/
def designation? (encoding : Iso2022) (sequence : Bytes) : Option (Nat × NamedSet) :=
  match sequence.map fun b => CodePoint.ofNat b.toNat with
  | ['$', c] => (encoding.doubleSets.lookup c).map (0, ·)
  | ['(', c] => (encoding.singleSets.lookup c).map (0, ·)
  | [')', c] => (encoding.singleSets.lookup c).map (1, ·)
  | ['.', c] => if encoding.hasSingle then (encoding.singleSets.lookup c).map (2, ·) else none
  | ['$', '(', c] => (encoding.doubleSets.lookup c).map (0, ·)
  | ['$', ')', c] => (encoding.doubleSets.lookup c).map (1, ·)
  | [_, _, '\x1b', '$', 'B'] =>
    if encoding.hasShift then none else (encoding.doubleSets.lookup ('B' : CodePoint)).map (0, ·)
  | _ => none

/-- The shift with a set in one of its places. -/
def put (place : Nat) (set : NamedSet) (shift : Shift) : Shift :=
  if place = 0 then { shift with plain := set }
  else if place = 1 then { shift with shifted := set }
  else { shift with single := set }

/-- Whether a byte after the escape character begins a sequence that names a set. -/
def beginsDesignation (b : UInt8) : Bool := "()$.&".text.contains (CodePoint.ofNat b.toNat)

/-- The Greek character of a byte. -/
def greek? (b : UInt8) : Option CodePoint :=
  let code := b.toNat
  if code < 0xA0 then some (CodePoint.ofNat code)
  else if code = 0xA1 then some '‘'
  else if code = 0xA2 then some '’'
  else if code = 0xAF then some '―'
  else if [0xA0, 0xA3, 0xA6, 0xA7, 0xA8, 0xA9, 0xAB, 0xAC, 0xAD, 0xB0, 0xB1, 0xB2, 0xB3, 0xB7, 0xBB, 0xBD].contains
      code then some (CodePoint.ofNat code)
  else if 0xB4 ≤ code && code ≤ 0xFE && code ≠ 0xD2 then some (CodePoint.ofNat (0x2D0 + code))
  else none

/-- The single character of a set that a byte stands for. -/
def singleChar? (set : NamedSet) (b : UInt8) : Option CodePoint :=
  match set with
  | .latin1 => if b < 0x80 then some (CodePoint.ofNat (b.toNat + 0x80)) else none
  | .greek => greek? (b ^^^ 0x80)
  | _ => if b < 0x80 then some (CodePoint.ofNat b.toNat) else none

/-- Reads what follows the escape character. -/
def escape (encoding : Iso2022) (shift : Shift) (rest : Bytes) : Except Snag (Step Shift) :=
  match rest with
  | [] => .error ⟨1, .incompleteSequence⟩
  | b :: after =>
    if beginsDesignation b then
      match encoding.sequenceLength? 16 1 rest with
      | none => .error ⟨rest.length + 1, .incompleteSequence⟩
      | some 0 => .error ⟨1, .badSequence⟩
      | some length =>
        match encoding.designation? (rest.take (length - 1)) with
        | some (place, set) => .ok ⟨[], length, put place set shift⟩
        | none => .error ⟨length, .badSequence⟩
    else if encoding.hasSingle && b = 0x4E then
      match after with
      | [] => .error ⟨2, .incompleteSequence⟩
      | c :: _ =>
        match singleChar? shift.single c with
        | some char => .ok ⟨[char], 3, shift⟩
        | none => .error ⟨3, .badSequence⟩
    else .ok ⟨['\x1b'], 1, { shift with isForeign := true }⟩

/-- Reads a character, or a sequence. -/
def step (encoding : Iso2022) (shift : Shift) (bytes : Bytes) : Except Snag (Step Shift) :=
  match bytes with
  | [] => .ok ⟨[], 0, shift⟩
  | a :: rest =>
    let asItIs (shift : Shift) : Except Snag (Step Shift) := .ok ⟨[CodePoint.ofNat a.toNat], 1, shift⟩
    if shift.isForeign then asItIs { shift with isForeign := !isFinal a }
    else if a = 0x1B then encoding.escape shift rest
    else if encoding.hasShift && a = 0x0F then .ok ⟨[], 1, { shift with isShifted := false }⟩
    else if encoding.hasShift && a = 0x0E then .ok ⟨[], 1, { shift with isShifted := true }⟩
    else if a = 0x0A then asItIs { shift with isShifted := false }
    else if a < 0x20 then asItIs shift
    else if 0x80 ≤ a then .error ⟨1, .badSequence⟩
    else
      let set := if shift.isShifted then shift.shifted else shift.plain
      if set.width = 1 then
        match set.single? a with
        | some c => .ok ⟨[c], 1, shift⟩
        | none => .error ⟨1, .badSequence⟩
      else
        match rest with
        | [] => .error ⟨1, .incompleteSequence⟩
        | b :: _ =>
          match set.pair? (codeOf a b) with
          | some chars => .ok ⟨chars, 2, shift⟩
          | none => .error ⟨2, .badSequence⟩

end Iso2022

namespace Charset

/-- Reads a character of HZ, or a sequence. The state tells whether characters have two bytes. -/
def hzStep (isDouble : Bool) (bytes : Bytes) : Except Snag (Step Bool) :=
  match bytes with
  | [] => .ok ⟨[], 0, isDouble⟩
  | 0x7E :: rest =>
    match rest, isDouble with
    | [], _ => .error ⟨1, .incompleteSequence⟩
    | 0x7E :: _, false => .ok ⟨['~'], 2, false⟩
    | 0x7B :: _, false => .ok ⟨[], 2, true⟩
    | 0x0A :: _, false => .ok ⟨[], 2, false⟩
    | 0x7D :: _, true => .ok ⟨[], 2, false⟩
    | _, _ => .error ⟨1, .badSequence⟩
  | a :: rest =>
    if 0x80 ≤ a then .error ⟨1, .badSequence⟩
    else if !isDouble then .ok ⟨[CodePoint.ofNat a.toNat], 1, false⟩
    else
      match rest with
      | [] => .error ⟨1, .incompleteSequence⟩
      | b :: _ =>
        match charsIn? [gb2312] (codeOf a b) with
        | some chars => .ok ⟨chars, 2, true⟩
        | none => .error ⟨1, .badSequence⟩

end Charset

end HtmlTemplate
