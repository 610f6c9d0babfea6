import HtmlTemplate.Charset.Unicode

/-!
# UTF-7

Characters of ASCII stand for themselves. After a plus sign other characters follow as units of 16 bits, six bits of
them in each byte, up to a byte that holds none; a hyphen there does not count.
-/

namespace HtmlTemplate.Charset

/-- The six bits that a byte holds. -/
def sixBits? (b : UInt8) : Option Nat :=
  let c := CodePoint.ofNat b.toNat
  if 'A' ≤ c && c ≤ 'Z' then some (b.toNat - 0x41)
  else if 'a' ≤ c && c ≤ 'z' then some (b.toNat - 0x61 + 26)
  else if '0' ≤ c && c ≤ '9' then some (b.toNat - 0x30 + 52)
  else if c = '+' then some 62
  else if c = '/' then some 63
  else none

/-- What is known in the middle of units: where the plus sign is, how many bits have been read that make no unit yet,
these bits, and the first half of a character of two units. -/
structure Units where
  position : Nat
  count : Nat
  bits : Nat
  half : Option Nat

/-- A unit: the characters that are complete with it, and the half that waits for another one. A half that belongs to
nothing stays a surrogate. -/
def joinUnit (half : Option Nat) (unit : Nat) : Text × Option Nat :=
  match half with
  | some first =>
    if isSecondHalf unit then ([joined first unit], none)
    else if isFirstHalf unit then ([CodePoint.ofNat first], some unit)
    else ([CodePoint.ofNat first, CodePoint.ofNat unit], none)
  | none =>
    if isFirstHalf unit then ([], some unit) else ([CodePoint.ofNat unit], none)

/-- Six more bits: the characters that are complete with them, and the units after them. -/
def Units.add (units : Units) (six : Nat) : Text × Units :=
  let bits := units.bits * 0x40 + six
  let count := units.count + 6
  if count < 16 then ([], { units with count := count, bits := bits })
  else
    let scale := (List.replicate (count - 16) 2).foldl (· * ·) 1
    let (chars, half) := joinUnit units.half (bits / scale)
    (chars, { units with count := count - 16, bits := bits % scale, half := half })

/-- What is wrong with the bits that are left at the end of some units. -/
def Units.fault? (units : Units) : Option Misreading.Cause :=
  if 6 ≤ units.count then some .cutCharacter
  else if 0 < units.count && units.bits ≠ 0 then some .paddingBits
  else none

/-- What a byte that holds no bits means after units: whether the plus sign itself is meant, what is wrong, or the
characters that it ends with. -/
def Units.close (units : Units) (position : Nat) (b : UInt8) : Except Halt Text :=
  let halt (cause : Misreading.Cause) : Except Halt Text :=
    .error ⟨units.position, position + 1 - units.position, cause⟩
  if position = units.position + 1 then if b = 0x2D then .ok ['+'] else halt .badShift
  else
    match units.fault? with
    | some cause => halt cause
    | none => .ok (if b < 0x80 then (units.half.map CodePoint.ofNat).toList else [])

/-- Reads UTF-7 from a position on. Units are there after a plus sign. What has been read is in `done`, the latest
first. -/
def readUtf7 : Nat → Option Units → Text → Bytes → Except Halt Text
  | _, none, done, [] => .ok done.reverse
  | position, some units, done, [] =>
    if units.half.isSome || units.fault?.isSome then
      .error ⟨units.position, position - units.position, .openShift⟩
    else .ok done.reverse
  | position, units?, done, b :: rest =>
    match units?, sixBits? b with
    | some units, some six =>
      let (chars, units) := units.add six
      readUtf7 (position + 1) (some units) (chars.reverse ++ done) rest
    | units?, _ =>
      let ended : Except Halt Text :=
        match units? with
        | some units => units.close position b
        | none => .ok []
      match ended with
      | .error halt => .error halt
      | .ok chars =>
        let done := chars.reverse ++ done
        if b = 0x2D && units?.isSome then readUtf7 (position + 1) none done rest
        else if b = 0x2B then readUtf7 (position + 1) (some ⟨position, 0, 0, none⟩) done rest
        else if b < 0x80 then readUtf7 (position + 1) none (CodePoint.ofNat b.toNat :: done) rest
        else .error ⟨position, 1, .specialCharacter⟩

end HtmlTemplate.Charset
