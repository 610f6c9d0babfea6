import HtmlTemplate.Text.Blank
import HtmlTemplate.Text.Fold
import HtmlTemplate.Text.Word

/-!
# Patterns

A pattern describes the texts that match it. Where it matches in several ways, the ways have an order: the first
branch of a choice comes before the second, and a greedy repetition tries more rounds before fewer. `Pattern.run`
follows the ways in that order until what comes after the pattern succeeds. `Pattern.width` bounds the lengths of the
texts that match.
-/

namespace HtmlTemplate

/-- Which letters count as the same: equal ones only, those of ASCII in any case, or all in any case. -/
inductive Folding where
  | exact
  | ascii
  | unicode
  deriving DecidableEq, Repr

namespace Folding

/-- The small form of a letter of ASCII. -/
def asciiLower (code : Nat) : Nat := if 0x41 ≤ code && code ≤ 0x5A then code + 0x20 else code

/-- Whether a code point and a character count as the same. -/
def same : Folding → Nat → CodePoint → Bool
  | .exact, code, c => code = c.toNat
  | .ascii, code, c => asciiLower code = asciiLower c.toNat
  | .unicode, code, c => (formsOf (lowerCode code)).contains (lowerCode c.toNat)

/-- The code points that count as a character. -/
def variants : Folding → CodePoint → List Nat
  | .exact, c => [c.toNat]
  | .ascii, c =>
    let low := asciiLower c.toNat
    if 0x61 ≤ low && low ≤ 0x7A then [low, low - 0x20] else [c.toNat]
  | .unicode, c => c.toNat :: caseVariants c

/-- The one that stands for the code points that a text repeats as the same. -/
def plain : Folding → CodePoint → Nat
  | .exact, c => c.toNat
  | .ascii, c => asciiLower c.toNat
  | .unicode, c => lowerCode c.toNat

end Folding

/-- A class of characters. -/
inductive CharClass where
  | blank
  | digit
  | word
  deriving DecidableEq, Repr

namespace CharClass

/-- Whether a character is in the class; `ascii` leaves only characters of ASCII in it. -/
def has (ascii : Bool) (cls : CharClass) (c : CodePoint) : Bool :=
  match cls with
  | .blank => if ascii then c = ' ' || ('\t' ≤ c && c ≤ '\r') else isBlank c
  | .digit => isDigit c && (!ascii || c.toNat < 0x80)
  | .word => isWord c && (!ascii || c.toNat < 0x80)

end CharClass

/-- What a set of characters is made of. A code point need not be one of a character. -/
inductive CharItem where
  | one (code : Nat)
  | range (first last : Nat)
  | ofClass (ascii : Bool) (cls : CharClass) (complement : Bool)
  deriving DecidableEq, Repr

namespace CharItem

/-- Whether the item has a character. -/
def has (folding : Folding) : CharItem → CodePoint → Bool
  | .one code, c => folding.same code c
  | .range first last, c => (folding.variants c).any fun n => first ≤ n && n ≤ last
  | .ofClass ascii cls complement, c => cls.has ascii c != complement

end CharItem

/-- A set of characters: those that one of the items has, or those that none has. -/
structure CharSet where
  complement : Bool
  items : List CharItem
  deriving DecidableEq, Repr

namespace CharSet

/-- Whether the set has a character. -/
def has (folding : Folding) (set : CharSet) (c : CodePoint) : Bool :=
  set.items.any (·.has folding c) != set.complement

end CharSet

/-- A place in a text: what is before it, backwards, what follows it, how many characters these are, and what the groups
have matched on the way there, the latest first. -/
structure Cursor where
  before : Text
  rest : Text
  left : Nat
  groups : List (Nat × Text)
  deriving Repr

namespace Cursor

/-- The start of a text. -/
def start (s : Text) : Cursor := ⟨[], s, s.length, []⟩

/-- The place after the next character. -/
def next (c : Cursor) : Cursor :=
  match c.rest with
  | [] => c
  | d :: rest => { c with before := d :: c.before, rest := rest, left := c.left - 1 }

/-- The place `n` characters back. -/
def back? : Nat → Cursor → Option Cursor
  | 0, c => some c
  | n + 1, c =>
    match c.before with
    | [] => none
    | d :: before => back? n { c with before := before, rest := d :: c.rest, left := c.left + 1 }

/-- The place after a text that is in front of the place, if the text is there. -/
def skip? (folding : Folding) : Text → Cursor → Option Cursor
  | [], c => some c
  | d :: s, c =>
    match c.rest with
    | [] => none
    | e :: _ => if folding.plain d = folding.plain e then skip? folding s c.next else none

/-- The text between two places, the first of which is `c`. -/
def textTo (c d : Cursor) : Text := c.rest.take (c.left - d.left)

end Cursor

/-- The kinds of places at which a pattern can match the empty text. -/
inductive Place where
  | start
  | lineStart
  /-- The end of the text, and the front of a line end there. -/
  | lastLineEnd
  | lineEnd
  | finish
  /-- Between a character of a word and what is none, or else not there. -/
  | wordEdge (ascii complement : Bool)
  deriving DecidableEq, Repr

namespace Place

/-- Whether a place is of the kind. In the empty text no place counts as an edge, nor as none. -/
def holds : Place → Cursor → Bool
  | .start, c => c.before.isEmpty
  | .lineStart, c => c.before.isEmpty || c.before.head? = some ('\n' : CodePoint)
  | .lastLineEnd, c => c.rest = [] || c.rest = (['\n'] : Text)
  | .lineEnd, c => c.rest.isEmpty || c.rest.head? = some ('\n' : CodePoint)
  | .finish, c => c.rest.isEmpty
  | .wordEdge ascii complement, c =>
    let inWord (c : Option CodePoint) : Bool := c.any (CharClass.word.has ascii)
    !(c.before.isEmpty && c.rest.isEmpty) && (inWord c.before.head? != inWord c.rest.head?) != complement

end Place

/-- Whether a repetition tries more rounds before fewer or fewer before more, or keeps all rounds that it can have. -/
inductive Appetite where
  | greedy
  | sparing
  | keeping
  deriving DecidableEq, Repr

/-- The least and the greatest length of some texts; nothing stands for lengths without a bound. -/
structure Width where
  least : Nat
  most : Option Nat
  deriving DecidableEq, Repr

namespace Width

/-- The one length of all the texts, if they have only one. -/
def fixed? (w : Width) : Option Nat := if w.most = some w.least then some w.least else none

/-- The width of one text after the other. -/
def add (v w : Width) : Width :=
  ⟨v.least + w.least,
    match v.most, w.most with
    | some m, some n => some (m + n)
    | _, _ => none⟩

/-- The width of texts of either kind. -/
def either (v w : Width) : Width :=
  ⟨min v.least w.least,
    match v.most, w.most with
    | some m, some n => some (max m n)
    | _, _ => none⟩

/-- The width of several texts one after the other. -/
def times (least : Nat) (most : Option Nat) (w : Width) : Width :=
  ⟨least * w.least,
    match most, w.most with
    | some m, some n => some (m * n)
    | none, some 0 => some 0
    | some 0, none => some 0
    | _, _ => none⟩

end Width

/-- A pattern. -/
inductive Pattern where
  /-- Matches the empty text. -/
  | nothing
  /-- Matches one character of a set. -/
  | char (folding : Folding) (set : CharSet)
  /-- Matches the empty text at a place. -/
  | place (kind : Place)
  | sequence (first second : Pattern)
  | choice (first second : Pattern)
  /-- A part of a pattern; what a part with a number matches is kept. -/
  | group (number : Option Nat) (inner : Pattern)
  | repetition (least : Nat) (most : Option Nat) (appetite : Appetite) (inner : Pattern)
  /-- Matches what a group has matched. -/
  | again (folding : Folding) (number : Nat)
  /-- Matches the empty text where the inner pattern matches, or where it does not. The text of the inner pattern is
  after the place, or before it if its width is given. -/
  | look (behind : Option Width) (wanted : Bool) (inner : Pattern)
  /-- Matches in the first way only in which the inner pattern does. -/
  | whole (inner : Pattern)
  /-- One of two patterns, by whether a group has matched. -/
  | byGroup (number : Nat) (matched unmatched : Pattern)
  deriving DecidableEq, Repr

namespace Pattern

/-- The result of what follows a place. -/
abbrev Following := Cursor → Option Cursor

/-- The first result that there is. -/
def orElse (first : Option Cursor) (second : Unit → Option Cursor) : Option Cursor :=
  match first with
  | some d => some d
  | none => second ()

/-- Runs `step` at least `least` and at most `most` times, and then `next`. A round that matches the empty text is
the last one. There are at most `rounds` rounds. -/
def runRounds (step : Cursor → Following → Option Cursor) (appetite : Appetite) :
    Nat → Nat → Option Nat → Cursor → Following → Option Cursor
  | 0, _, _, c, next => next c
  | rounds + 1, least, most, c, next =>
    let again (d : Cursor) : Option Cursor :=
      if least = 0 && d.left = c.left then next d
      else runRounds step appetite rounds (least - 1) (most.map (· - 1)) d next
    if 0 < least then
      match appetite with
      | .keeping => (step c some).bind again
      | _ => step c again
    else if most = some 0 then next c
    else
      match appetite with
      | .greedy => orElse (step c again) fun _ => next c
      | .sparing => orElse (next c) fun _ => step c again
      | .keeping =>
        match step c some with
        | some d => again d
        | none => next c

/-- The result of `next` after the first way to match the pattern at a place for which there is one. -/
def run : Pattern → Cursor → Following → Option Cursor
  | .nothing, c, next => next c
  | .char folding set, c, next =>
    match c.rest with
    | [] => none
    | d :: _ => if set.has folding d then next c.next else none
  | .place kind, c, next => if kind.holds c then next c else none
  | .sequence first second, c, next => run first c fun d => run second d next
  | .choice first second, c, next => orElse (run first c next) fun _ => run second c next
  | .group none inner, c, next => run inner c next
  | .group (some n) inner, c, next => run inner c fun d => next { d with groups := (n, c.textTo d) :: d.groups }
  | .repetition least most appetite inner, c, next =>
    runRounds (run inner) appetite (least + c.left + 1) least most c next
  | .again folding n, c, next =>
    match c.groups.lookup n with
    | none => none
    | some s => (c.skip? folding s).bind next
  | .look behind wanted inner, c, next =>
    match (c.back? (behind.elim 0 Width.least)).bind fun b => run inner b some with
    | some d => if wanted then next { c with groups := d.groups } else none
    | none => if wanted then none else next c
  | .whole inner, c, next => (run inner c some).bind next
  | .byGroup n matched unmatched, c, next =>
    if (c.groups.lookup n).isSome then run matched c next else run unmatched c next

/-- The first match from a place on: the places where it begins and ends. At most `steps` characters are passed. -/
def search (p : Pattern) : Nat → Cursor → Option (Cursor × Cursor)
  | 0, c => (p.run c some).map fun d => (c, d)
  | steps + 1, c =>
    match p.run c some with
    | some d => some (c, d)
    | none => search p steps c.next

/-- The first match in a text. -/
def firstMatch? (p : Pattern) (s : Text) : Option (Cursor × Cursor) := p.search s.length (.start s)

end Pattern

namespace Pattern

/-- The width of the texts that match; `groups` has the widths of groups. -/
def width (groups : List (Nat × Width)) : Pattern → Width
  | .nothing => ⟨0, some 0⟩
  | .char _ _ => ⟨1, some 1⟩
  | .place _ => ⟨0, some 0⟩
  | .sequence first second => (width groups first).add (width groups second)
  | .choice first second => (width groups first).either (width groups second)
  | .group _ inner => width groups inner
  | .repetition least most _ inner => (width groups inner).times least most
  | .again _ n => (groups.lookup n).getD ⟨0, some 0⟩
  | .look _ _ _ => ⟨0, some 0⟩
  | .whole inner => width groups inner
  | .byGroup _ matched unmatched => (width groups matched).either (width groups unmatched)

end Pattern

end HtmlTemplate
