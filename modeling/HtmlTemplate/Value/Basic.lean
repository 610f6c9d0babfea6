import HtmlTemplate.Number.Basic
import HtmlTemplate.Text.Basic

/-!
# Values

A value is what an expression evaluates to and what templates are rendered with. `undefined` stands for a name or a
property that does not exist; it differs from `null`, which is present.
-/

namespace HtmlTemplate

/-- Named things in the order in which they were given. -/
abbrev Entries (α : Type) := List (Text × α)

namespace Entries

/-- Gives `key` the value `v`: in its old place if the key is there, else at the end. -/
def insert {α : Type} (key : Text) (v : α) : Entries α → Entries α
  | [] => [(key, v)]
  | (k, w) :: rest => if k = key then (k, v) :: rest else (k, w) :: insert key v rest

/-- The entries of a list of pairs, a later pair taking the place of an earlier one of the same key. -/
def ofPairs {α : Type} (pairs : List (Text × α)) : Entries α :=
  pairs.foldl (fun entries (k, v) => insert k v entries) []

/-- The keys, in order. -/
def keys {α : Type} (entries : Entries α) : List Text := entries.map Prod.fst

theorem lookup_insert_self {α : Type} (key : Text) (v : α) (entries : Entries α) :
    (insert key v entries).lookup key = some v := by
  induction entries with
  | nil => simp [insert]
  | cons e rest ih =>
    obtain ⟨k, w⟩ := e
    by_cases h : k = key
    · simp [insert, h]
    · have h' : (key == k) = false := by simpa using fun h' => h h'.symm
      rw [insert, if_neg h, List.lookup_cons, h', ih]

theorem lookup_insert_of_ne {α : Type} {key other : Text} (v : α) (entries : Entries α) (h : other ≠ key) :
    (insert key v entries).lookup other = entries.lookup other := by
  induction entries with
  | nil =>
    have h' : (other == key) = false := by simpa using h
    rw [insert, List.lookup_cons, h']
  | cons e rest ih =>
    obtain ⟨k, w⟩ := e
    by_cases hk : k = key
    · have h' : (other == key) = false := by simpa using h
      rw [insert, if_pos hk, List.lookup_cons, List.lookup_cons, hk, h']
    · rw [insert, if_neg hk, List.lookup_cons, List.lookup_cons, ih]

end Entries

/-- A value. -/
inductive Value where
  | undefined
  | null
  | bool (b : Bool)
  | number (n : Number)
  | string (s : Text)
  | list (items : List Value)
  /-- A fixed sequence; it reads like a list and equals none. -/
  | tuple (items : List Value)
  | mapping (entries : List (Text × Value))
  /-- A record, which equals the records with the same fields. -/
  | record (fields : List (Text × Value))
  /-- An object of the host, which equals only itself: `identity` tells the objects apart. -/
  | object (identity : Nat) (attributes : List (Text × Value))
  /-- A method of an object of the host; it reads as missing. -/
  | callable (identity : Nat)
  deriving Repr, Inhabited

namespace Value

/-- The value of an integer. -/
def ofInt (n : Int) : Value := .number (.int n)

/-- The value of a number of double precision. -/
def ofFloat (x : Double) : Value := .number (.float x)

/-- Null and undefined. -/
def isNullish : Value → Bool
  | .undefined => true
  | .null => true
  | _ => false

/-- The number that a value counts as: booleans count as nought and one. -/
def number? : Value → Option Number
  | .bool b => some (.int (if b then 1 else 0))
  | .number n => some n
  | _ => none

/-- The items of a sequence. -/
def items? : Value → Option (List Value)
  | .list items => some items
  | .tuple items => some items
  | _ => none

/-- Lists and tuples. -/
def isSequence (v : Value) : Bool := v.items?.isSome

/-- The truth of a value: null, undefined, false, the numbers nought and `nan`, and the empty text are false. -/
def truthy : Value → Bool
  | .undefined => false
  | .null => false
  | .bool b => b
  | .number (.int n) => n != 0
  | .number (.float x) => !(x.isNought || x.isNan)
  | .string s => !s.isEmpty
  | _ => true

/-- The kind of a value, as messages name it. -/
def kind : Value → String
  | .undefined => "undefined"
  | .null => "null"
  | .bool _ => "boolean"
  | .number _ => "number"
  | .string _ => "string"
  | .list _ => "array"
  | .tuple _ => "array"
  | .mapping _ => "object"
  | .record _ => "Record"
  | .object _ _ => "HostObject"
  | .callable _ => "function"

end Value

end HtmlTemplate
