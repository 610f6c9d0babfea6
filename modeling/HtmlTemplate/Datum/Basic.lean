import HtmlTemplate.Charset.Decoder
import HtmlTemplate.Time.Calendar
import HtmlTemplate.Value.Basic

/-!
# Data

A datum is what a setting can be given as: a value, or one of the further things that a file can write down, such as
a day, a set, or a mapping with keys of any kind.
-/

namespace HtmlTemplate

/-- A number by which a list or a mapping is known. Only those of a text have one that are themselves inside of them, or
inside of which others are that are around them. -/
abbrev Identity := Option Nat

/-- A datum. -/
inductive Datum where
  | null
  | bool (b : Bool)
  | number (n : Number)
  | text (s : Text)
  | bytes (content : Bytes)
  | day (d : Day)
  | moment (m : Moment)
  | list (identity : Identity) (items : List Datum)
  | tuple (identity : Identity) (items : List Datum)
  | set (items : List Datum)
  | mapping (identity : Identity) (entries : List (Datum × Datum))
  /-- The list or the mapping of a number at a place inside itself. -/
  | enclosing (number : Nat) (isMapping : Bool)
  /-- Any other thing, which messages show by `shown`. -/
  | thing (shown : Text)
  deriving Inhabited

namespace Datum

/-- The datum of an integer. -/
def ofInt (n : Int) : Datum := .number (.int n)

/-- The class of a datum, as messages name it. -/
def className : Datum → Text
  | .null => "NoneType".text
  | .bool _ => "bool".text
  | .number (.int _) => "int".text
  | .number (.float _) => "float".text
  | .text _ => "str".text
  | .bytes _ => "bytes".text
  | .day _ => "datetime.date".text
  | .moment _ => "datetime.datetime".text
  | .list _ _ => "list".text
  | .tuple _ _ => "tuple".text
  | .set _ => "set".text
  | .mapping _ _ => "dict".text
  | .enclosing _ isMapping => (if isMapping then "dict" else "list").text
  | .thing _ => "object".text

/-- The number that a datum counts as: booleans count as nought and one. -/
def number? : Datum → Option Number
  | .bool b => some (.int (if b then 1 else 0))
  | .number n => some n
  | _ => none

/-- Whether a datum may be a key of a mapping: it has no parts. -/
def isKey : Datum → Bool
  | .list _ _ => false
  | .tuple _ _ => false
  | .set _ => false
  | .mapping _ _ => false
  | .enclosing _ _ => false
  | _ => true

/-- Whether two keys are one. Numbers and booleans are told apart by their number; a `nan` is the same as itself. -/
def sameKey : Datum → Datum → Bool
  | .null, .null => true
  | .text s, .text t => s == t
  | .bytes s, .bytes t => s == t
  | .day d, .day e => d == e
  | .moment m, .moment n => m.same n
  | .number (.float (.nan i)), .number (.float (.nan j)) => i == j && i != .computed
  | a, b =>
    match a.number?, b.number? with
    | some m, some n => m.equal n
    | _, _ => false

/-- Gives a key a datum: in the place of the same key if it is there, else at the end. -/
def insertKey (key d : Datum) : List (Datum × Datum) → List (Datum × Datum)
  | [] => [(key, d)]
  | (k, e) :: rest => if k.sameKey key then (k, d) :: rest else (k, e) :: insertKey key d rest

/-- The entries with a later one in the place of an earlier one of the same key. -/
def distinct (entries : List (Datum × Datum)) : List (Datum × Datum) :=
  entries.foldl (fun done (key, d) => insertKey key d done) []

/-- Whether something is inside of a datum that is around it. -/
def isOpen : Datum → Bool
  | .list identity _ => identity.isSome
  | .tuple identity _ => identity.isSome
  | .mapping identity _ => identity.isSome
  | .enclosing _ _ => true
  | _ => false

mutual

/-- The datum with `whole` in the places where the list or the mapping of a number is around it. -/
def unrolled (number : Nat) (whole : Datum) : Datum → Datum
  | .list none items => .list none items
  | .list (some n) items => .list (some n) (unrolledAll number whole items)
  | .tuple none items => .tuple none items
  | .tuple (some n) items => .tuple (some n) (unrolledAll number whole items)
  | .mapping none entries => .mapping none entries
  | .mapping (some n) entries => .mapping (some n) (unrolledEntries number whole entries)
  | .enclosing n isMapping => if n = number then whole else .enclosing n isMapping
  | d => d

/-- The data with `whole` in the places where the list or the mapping of a number is around them. -/
def unrolledAll (number : Nat) (whole : Datum) : List Datum → List Datum
  | [] => []
  | d :: rest => unrolled number whole d :: unrolledAll number whole rest

/-- The entries with `whole` in the places where the list or the mapping of a number is around them. -/
def unrolledEntries (number : Nat) (whole : Datum) : List (Datum × Datum) → List (Datum × Datum)
  | [] => []
  | (key, d) :: rest => (key, unrolled number whole d) :: unrolledEntries number whole rest

end

/-- The items of a list, each as it is when it is taken out of the list. -/
def itemsOf (identity : Identity) (items : List Datum) : List Datum :=
  match identity with
  | none => items
  | some n => unrolledAll n (.list (some n) items) items

/-- The entries of a mapping, each as it is when it is taken out of the mapping. -/
def entriesOf (identity : Identity) (entries : List (Datum × Datum)) : List (Datum × Datum) :=
  match identity with
  | none => entries
  | some n => unrolledEntries n (.mapping (some n) entries) entries

/-- A list made anew with the items of another one. Another datum stays. -/
def renewed : Datum → Datum
  | .list identity items => .list none (itemsOf identity items)
  | d => d

end Datum

namespace Value

mutual

/-- The datum that a value is. -/
def toDatum : Value → Datum
  | .undefined => .thing "undefined".text
  | .null => .null
  | .bool b => .bool b
  | .number n => .number n
  | .string s => .text s
  | .list items => .list none (toData items)
  | .tuple items => .tuple none (toData items)
  | .mapping entries => .mapping none (entriesToData entries)
  | .record _ => .thing "<record>".text
  | .object _ _ => .thing "<host object>".text
  | .callable _ => .thing "<function>".text

/-- The data that values are. -/
def toData : List Value → List Datum
  | [] => []
  | v :: rest => toDatum v :: toData rest

/-- The data that the values of some entries are, under their keys. -/
def entriesToData : List (Text × Value) → List (Datum × Datum)
  | [] => []
  | (key, v) :: rest => (.text key, toDatum v) :: entriesToData rest

end

end Value

end HtmlTemplate
