import HtmlTemplate.Value.Display

/-!
# Access to parts of values

Reading a part that is not there gives `undefined`. A mapping shows its entries, a sequence its items and `length`, a
text its characters and `length`, a number its parts, a record or an object of the host its public attributes that
are not methods. Only a mapping refuses a key: one that cannot be a key of any mapping.
-/

namespace HtmlTemplate

/-- Why reading a part by a key fails. -/
inductive AccessError where
  /-- A value of this kind is no key. -/
  | invalidKey (kind : String)
  | display (error : DisplayError)
  deriving DecidableEq, Repr

namespace Value

/-- The parts of a number, which are numbers. -/
def numberPart (n : Number) (name : Text) : Value :=
  match n with
  | .int i =>
    if name = "real".text || name = "numerator".text then .ofInt i
    else if name = "imag".text then .ofInt 0
    else if name = "denominator".text then .ofInt 1
    else .undefined
  | .float x =>
    if name = "real".text then .ofFloat x
    else if name = "imag".text then .ofFloat (Double.nought false)
    else .undefined

/-- Whether a name is public: it does not begin with the low line. -/
def isPublic (name : Text) : Bool := name.head? != some ('_' : CodePoint)

/-- The attribute of that name, if it is public and no method. -/
def publicPart (attributes : Entries Value) (name : Text) : Value :=
  if isPublic name then
    match attributes.lookup name with
    | some (.callable _) => .undefined
    | some v => v
    | none => .undefined
  else .undefined

/-- The number of items, if `name` asks for it. -/
def lengthOr (count : Nat) (name : Text) : Value :=
  if name = "length".text then .ofInt count else .undefined

/-- The part of a value called `name`. -/
def member (v : Value) (name : Text) : Value :=
  match v with
  | .mapping entries => (entries.lookup name).getD .undefined
  | .string s => lengthOr s.length name
  | .list items => lengthOr items.length name
  | .tuple items => lengthOr items.length name
  | .bool b => numberPart (.int (if b then 1 else 0)) name
  | .number n => numberPart n name
  | .record fields => publicPart fields name
  | .object _ attributes => publicPart attributes name
  | _ => .undefined

mutual

/-- Whether a value may be a key: lists, mappings and records may not, nor may a tuple that holds one. -/
def isKey : Value → Bool
  | .list _ => false
  | .mapping _ => false
  | .record _ => false
  | .tuple items => areKeys items
  | _ => true

/-- Whether all values can be keys. -/
def areKeys : List Value → Bool
  | [] => true
  | v :: rest => isKey v && areKeys rest

end

/-- The position in a sequence that a key means: a whole number that is not negative. -/
def position? : Value → Option Nat
  | .number n =>
    match n.toInt? with
    | some i => if 0 ≤ i then some i.toNat else none
    | none => none
  | _ => none

/-- The entry of a mapping under a key: under the key itself if it is a text, else under its display. -/
def entry (entries : Entries Value) (key : Value) : Except AccessError Value :=
  if !key.isKey then .error (.invalidKey key.kind)
  else
    match key with
    | .string s => .ok ((entries.lookup s).getD .undefined)
    | .undefined => .ok .undefined
    | .null => .ok .undefined
    | key =>
      match key.display with
      | .error e => .error (.display e)
      | .ok s => .ok ((entries.lookup s).getD .undefined)

/-- The part of a value under a key. -/
def index (v key : Value) : Except AccessError Value :=
  match v with
  | .undefined => .ok .undefined
  | .null => .ok .undefined
  | .mapping entries => entry entries key
  | v =>
    match key with
    | .string name => .ok (v.member name)
    | key =>
      .ok <|
        match v, key.position? with
        | .string s, some i => (s[i]?.map fun c => .string [c]).getD .undefined
        | .list items, some i => items[i]?.getD .undefined
        | .tuple items, some i => items[i]?.getD .undefined
        | _, _ => .undefined

end Value

end HtmlTemplate
