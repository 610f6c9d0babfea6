import HtmlTemplate.Datum.Basic

/-!
# The order of sets

A set of numbers, which may hold an empty text beside them, keeps them in a table, and lists them in the order of their
places there. The place of a number is told by its residue modulo the prime `2^61 - 1`; a place that is taken gives way
to others by a fixed rule. A set with other things in it lists them in the order in which they were given.
-/

namespace HtmlTemplate.Datum

/-- The modulus of residues. -/
def residueModulus : Nat := 0x1FFFFFFFFFFFFFFF

/-- The bits of a residue. -/
def residueBits : Nat := 61

/-- How many different words of a machine there are. -/
def wordCount : Nat := 0x10000000000000000

/-- The word of a residue and a sign. The word of minus one is kept free. -/
def wordOf (negative : Bool) (residue : Nat) : Nat :=
  if !negative then residue
  else if residue = 0 then 0
  else if residue = 1 then wordCount - 2
  else wordCount - residue

/-- A power of two. -/
def powerOfTwo (n : Nat) : Nat := (List.replicate n 2).foldl (· * ·) 1

/-- The word of infinity. -/
def infinityWord : Nat := 314159

/-- The word that stands for a number in a table. Equal numbers have the same word. -/
def word? : Number → Option Nat
  | .int n => some (wordOf (n < 0) (n.natAbs % residueModulus))
  | .float (.nan _) => none
  | .float (.infinity negative) => some (if negative then wordCount - infinityWord else infinityWord)
  | .float (.finite negative significand exponent) =>
    let shift := (exponent % residueBits).toNat
    some (wordOf negative (significand % residueModulus * powerOfTwo shift % residueModulus))

/-- The word that stands for a datum in a table, if it is told by the datum alone. -/
def wordIn? : Datum → Option Nat
  | .text [] => some 0
  | .bytes [] => some 0
  | d => d.number?.bind word?

/-- How many places are looked at one after the other. -/
def runLength : Nat := 9

/-- A free place of a table for a word. `place` is the first place that is looked at, and `rest` has the bits of the
word that have not had a say yet. -/
def freePlace (size : Nat) (taken : List Nat) : Nat → Nat → Nat → Nat
  | 0, place, _ => place
  | steps + 1, place, rest =>
    let run := if place + runLength < size then runLength else 0
    match ((List.range (run + 1)).map (place + ·)).find? fun p => !taken.contains p with
    | some p => p
    | none =>
      let rest := rest / 32
      freePlace size taken steps ((5 * place + 1 + rest) % size) rest

/-- How many places there are in a table of some things. -/
def tableSize (count : Nat) : Nat :=
  if count < 5 then 8 else (((List.range 64).map powerOfTwo).find? fun size => 2 * count < size).getD wordCount

/-- The places of things in a table, by their words. -/
def placesOf (size : Nat) : List Nat → List Nat → List Nat
  | _, [] => []
  | taken, word :: rest =>
    let place := freePlace size taken (size + 64) (word % size) word
    place :: placesOf size (place :: taken) rest

/-- The items of a set in the order in which it lists them. -/
def inPlaces (items : List Datum) : List Datum :=
  match items.mapM wordIn? with
  | none => items
  | some words =>
    let placed := (placesOf (tableSize items.length) [] words).zip items
    (placed.mergeSort fun a b => a.1 ≤ b.1).map Prod.snd

end HtmlTemplate.Datum
