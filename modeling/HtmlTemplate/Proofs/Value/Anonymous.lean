import HtmlTemplate.Value.Access
import HtmlTemplate.Value.Identity

/-!
# Values without the identities of their NaNs

Which `nan` a value is or holds is told only where sequences are compared item by item. Arithmetic gives the same for
the anonymous numbers (`Number.combine_anonymous` and its like), and so do the kind, the truth and the display of a
value; the parts of an anonymous value are the anonymous parts (`member_anonymous`, `index_anonymous`). A value that is
bound to a name differs from the value itself in nothing else (`anonymous_identified`).
-/

namespace HtmlTemplate

/-! ## Numbers -/

namespace Double

/-- The number, a `nan` without its identity. -/
def anonymous : Double → Double
  | .nan _ => .nan .computed
  | x => x

/-- What is rounded to double precision is a number. -/
theorem ofRatio_anonymous (negative : Bool) (num den : Nat) :
    (ofRatio negative num den).anonymous = ofRatio negative num den := by
  rw [ofRatio]
  split
  · rfl
  · exact (apply_ite anonymous _ _ _).trans rfl

variable (x y : Double)

theorem add_anonymous : x.anonymous.add y.anonymous = x.add y := by cases x <;> cases y <;> rfl

theorem neg_anonymous : x.anonymous.neg = x.neg := by cases x <;> rfl

theorem sub_anonymous : x.anonymous.sub y.anonymous = x.sub y := by
  rw [sub, neg_anonymous, sub]
  cases x with
  | nan i => rfl
  | _ => rfl

theorem mul_anonymous : x.anonymous.mul y.anonymous = x.mul y := by cases x <;> cases y <;> rfl

theorem div_anonymous : x.anonymous.div y.anonymous = x.div y := by cases x <;> cases y <;> rfl

theorem remainder?_anonymous : x.anonymous.remainder? y.anonymous = x.remainder? y := by cases x <;> cases y <;> rfl

theorem compare?_anonymous : x.anonymous.compare? y.anonymous = x.compare? y := by cases x <;> cases y <;> rfl

theorem toInt?_anonymous : x.anonymous.toInt? = x.toInt? := by cases x <;> rfl

theorem isNought_anonymous : x.anonymous.isNought = x.isNought := by cases x <;> rfl

theorem isNan_anonymous : x.anonymous.isNan = x.isNan := by cases x <;> rfl

end Double

namespace Number

/-- The number, a `nan` without its identity. -/
def anonymous : Number → Number
  | .int n => .int n
  | .float x => .float x.anonymous

variable (a b : Number)

theorem isZero_anonymous : a.anonymous.isZero = a.isZero := by
  cases a with
  | int n => rfl
  | float x => exact x.isNought_anonymous

theorem toDouble_anonymous : a.anonymous.toDouble = a.toDouble.map Double.anonymous := by
  cases a with
  | float x => rfl
  | int n =>
    have hofInt : (Double.ofInt n).anonymous = Double.ofInt n := Double.ofRatio_anonymous _ _ _
    rw [anonymous, toDouble]
    split
    · rfl
    · rw [Except.map, hofInt]

theorem neg_anonymous : a.anonymous.neg = a.neg := by
  cases a with
  | int n => rfl
  | float x => rw [anonymous, neg, x.neg_anonymous, neg]

/-- What is computed of two numbers in double precision, if that does not ask for the identity of a `nan`. -/
theorem toDouble_bind_anonymous {α : Type} (compute : Double → Double → Except NumberError α)
    (h : ∀ x y, compute x.anonymous y.anonymous = compute x y) :
    (a.anonymous.toDouble >>= fun x => b.anonymous.toDouble >>= fun y => compute x y) =
      a.toDouble >>= fun x => b.toDouble >>= fun y => compute x y := by
  rw [toDouble_anonymous, toDouble_anonymous]
  cases a.toDouble with
  | error e => rfl
  | ok x =>
    cases b.toDouble with
    | error e => rfl
    | ok y => exact h x y

theorem toDoubles_anonymous {onDouble : Double → Double → Double}
    (h : ∀ x y, onDouble x.anonymous y.anonymous = onDouble x y) :
    (do return Number.float (onDouble (← a.anonymous.toDouble) (← b.anonymous.toDouble)) : Except NumberError Number) =
      do return .float (onDouble (← a.toDouble) (← b.toDouble)) :=
  toDouble_bind_anonymous a b (fun x y => pure (float (onDouble x y))) fun x y => by rw [h]

theorem anonymous_neg : a.neg.anonymous = a.neg := by
  cases a with
  | int n => rfl
  | float x => cases x <;> rfl

theorem combine_anonymous {onInt : Int → Int → Int} {onDouble : Double → Double → Double}
    (h : ∀ x y, onDouble x.anonymous y.anonymous = onDouble x y) :
    combine onInt onDouble a.anonymous b.anonymous = combine onInt onDouble a b := by
  have hdouble := toDoubles_anonymous a b h
  cases a with
  | float x => exact hdouble
  | int m =>
    cases b with
    | float y => exact hdouble
    | int n => rfl

theorem add_anonymous : a.anonymous.add b.anonymous = a.add b := combine_anonymous a b Double.add_anonymous

theorem sub_anonymous : a.anonymous.sub b.anonymous = a.sub b := combine_anonymous a b Double.sub_anonymous

theorem mul_anonymous : a.anonymous.mul b.anonymous = a.mul b := combine_anonymous a b Double.mul_anonymous

theorem div_anonymous : a.anonymous.div b.anonymous = a.div b := by
  have hdouble := toDoubles_anonymous a b Double.div_anonymous
  unfold div
  rw [isZero_anonymous]
  split
  · rfl
  · cases a with
    | float x => exact hdouble
    | int m =>
      cases b with
      | float y => exact hdouble
      | int n => rfl

theorem mod_anonymous : a.anonymous.mod b.anonymous = a.mod b := by
  rw [mod, isZero_anonymous, mod]
  split
  · rfl
  · refine (toDouble_bind_anonymous a b _ fun x y => ?_).trans ?_
    · rw [Double.remainder?_anonymous]
    · cases a with
      | float x => rfl
      | int m => cases b <;> rfl

theorem compare?_anonymous : a.anonymous.compare? b.anonymous = a.compare? b := by
  cases a with
  | int m =>
    cases b with
    | int n => rfl
    | float y => cases y <;> rfl
  | float x =>
    cases b with
    | int n => cases x <;> rfl
    | float y => exact x.compare?_anonymous y

theorem toInt?_anonymous : a.anonymous.toInt? = a.toInt? := by
  cases a with
  | int n => rfl
  | float x => exact x.toInt?_anonymous

theorem display_anonymous : a.anonymous.display = a.display := by
  cases a with
  | int n => rfl
  | float x => cases x <;> rfl

end Number

/-! ## Values -/

namespace Value

mutual

/-- The value, every `nan` that it is or holds without its identity. -/
def anonymous : Value → Value
  | .undefined => .undefined
  | .null => .null
  | .bool b => .bool b
  | .number n => .number n.anonymous
  | .string s => .string s
  | .list items => .list (anonymousItems items)
  | .tuple items => .tuple (anonymousItems items)
  | .mapping entries => .mapping (anonymousEntries entries)
  | .record fields => .record (anonymousEntries fields)
  | .object identity attributes => .object identity (anonymousEntries attributes)
  | .callable identity => .callable identity

/-- The items, without the identities. -/
def anonymousItems : List Value → List Value
  | [] => []
  | v :: rest => anonymous v :: anonymousItems rest

/-- The entries, without the identities. -/
def anonymousEntries : List (Text × Value) → List (Text × Value)
  | [] => []
  | (key, v) :: rest => (key, anonymous v) :: anonymousEntries rest

end

theorem anonymous_string (s : Text) : (string s).anonymous = string s := by rw [anonymous]

theorem anonymous_eq_string_iff {v : Value} {s : Text} : v.anonymous = .string s ↔ v = .string s := by
  cases v <;> simp only [anonymous, reduceCtorEq]

theorem anonymousItems_eq_map (items : List Value) : anonymousItems items = items.map anonymous := by
  induction items with
  | nil => rw [anonymousItems, List.map_nil]
  | cons v rest ih => rw [anonymousItems, List.map_cons, ih]

theorem lookup_anonymousEntries (entries : Entries Value) (key : Text) :
    (anonymousEntries entries).lookup key = (entries.lookup key).map anonymous := by
  induction entries with
  | nil => rw [anonymousEntries, List.lookup_nil, Option.map_none]
  | cons e rest ih =>
    obtain ⟨k, v⟩ := e
    rw [anonymousEntries, List.lookup_cons, List.lookup_cons, ih]
    cases key == k <;> rfl

theorem anonymous_getD (v? : Option Value) : (v?.map anonymous).getD .undefined = (v?.getD .undefined).anonymous := by
  cases v? with
  | none => rw [Option.map_none, Option.getD_none, anonymous]
  | some v => rfl

variable (v w : Value)

theorem number?_anonymous : v.anonymous.number? = v.number?.map Number.anonymous := by
  cases v <;> rw [anonymous] <;> rfl

theorem kind_anonymous : v.anonymous.kind = v.kind := by cases v <;> rw [anonymous] <;> rfl

theorem isNullish_anonymous : v.anonymous.isNullish = v.isNullish := by cases v <;> rw [anonymous] <;> rfl

theorem truthy_anonymous : v.anonymous.truthy = v.truthy := by
  cases v with
  | number n =>
    cases n with
    | int n => rw [anonymous, Number.anonymous]
    | float x => rw [anonymous, Number.anonymous, truthy, truthy, x.isNought_anonymous, x.isNan_anonymous]
  | _ => rw [anonymous] <;> rfl

mutual

theorem display_anonymous : ∀ v : Value, v.anonymous.display = v.display
  | .number n => by rw [anonymous, display, display, n.display_anonymous]
  | .list items => by rw [anonymous, display, display, displayItems_anonymous items]
  | .tuple items => by rw [anonymous, display, display, displayItems_anonymous items]
  | .mapping _ | .record _ | .object _ _ => by rw [anonymous, display, display]
  | .undefined | .null | .bool _ | .string _ | .callable _ => by rw [anonymous]

theorem displayItems_anonymous : ∀ items : List Value, displayItems (anonymousItems items) = displayItems items
  | [] => by rw [anonymousItems]
  | v :: rest => by rw [anonymousItems, displayItems, displayItems, display_anonymous v, displayItems_anonymous rest]

end

mutual

theorem isKey_anonymous : ∀ v : Value, v.anonymous.isKey = v.isKey
  | .tuple items => by rw [anonymous, isKey, isKey, areKeys_anonymous items]
  | .list _ | .mapping _ | .record _ => by rw [anonymous, isKey, isKey]
  | .number _ | .object _ _ => by rw [anonymous]; rfl
  | .undefined | .null | .bool _ | .string _ | .callable _ => by rw [anonymous]

theorem areKeys_anonymous : ∀ items : List Value, areKeys (anonymousItems items) = areKeys items
  | [] => by rw [anonymousItems]
  | v :: rest => by rw [anonymousItems, areKeys, areKeys, isKey_anonymous v, areKeys_anonymous rest]

end

theorem position?_anonymous : v.anonymous.position? = v.position? := by
  cases v with
  | number n => rw [anonymous, position?, position?, n.toInt?_anonymous]
  | _ => rw [anonymous] <;> rfl

theorem anonymous_ofInt (n : Int) : (ofInt n).anonymous = ofInt n := by rw [ofInt, anonymous, Number.anonymous]

theorem numberPart_anonymous (n : Number) (name : Text) :
    numberPart n.anonymous name = (numberPart n name).anonymous := by
  cases n with
  | int i =>
    rw [Number.anonymous, numberPart]
    repeat' split
    all_goals first | rw [anonymous_ofInt] | rw [anonymous]
  | float x =>
    rw [Number.anonymous, numberPart, numberPart, apply_ite anonymous, apply_ite anonymous]
    simp only [ofFloat, anonymous, Number.anonymous, Double.nought, Double.anonymous]

theorem anonymous_lengthOr (count : Nat) (name : Text) : (lengthOr count name).anonymous = lengthOr count name := by
  rw [lengthOr]
  split
  · exact anonymous_ofInt count
  · rw [anonymous]

theorem publicPart_anonymous (attributes : Entries Value) (name : Text) :
    publicPart (anonymousEntries attributes) name = (publicPart attributes name).anonymous := by
  rw [publicPart, publicPart, lookup_anonymousEntries]
  split
  · cases attributes.lookup name with
    | none => rw [Option.map_none, anonymous]
    | some v => cases v <;> simp only [Option.map_some, anonymous]
  · rw [anonymous]

theorem length_anonymousItems (items : List Value) : (anonymousItems items).length = items.length := by
  rw [anonymousItems_eq_map, List.length_map]

theorem member_anonymous (name : Text) : v.anonymous.member name = (v.member name).anonymous := by
  cases v with
  | mapping entries => rw [anonymous, member, lookup_anonymousEntries, anonymous_getD, member]
  | number n => rw [anonymous, member, numberPart_anonymous, member]
  | bool b =>
    rw [anonymous, member]
    exact numberPart_anonymous (.int _) name
  | record fields => rw [anonymous, member, publicPart_anonymous, member]
  | object identity attributes => rw [anonymous, member, publicPart_anonymous, member]
  | list items => rw [anonymous, member, length_anonymousItems, member, anonymous_lengthOr]
  | tuple items => rw [anonymous, member, length_anonymousItems, member, anonymous_lengthOr]
  | string s => rw [anonymous, member, anonymous_lengthOr]
  | _ => simp only [anonymous, member]

theorem lookup_anonymous (entries : Entries Value) (key : Text) :
    ((anonymousEntries entries).lookup key).getD .undefined = ((entries.lookup key).getD .undefined).anonymous := by
  rw [lookup_anonymousEntries, anonymous_getD]

theorem entry_anonymous (entries : Entries Value) (key : Value) :
    entry (anonymousEntries entries) key.anonymous = (entry entries key).map anonymous := by
  have hdisplay := display_anonymous key
  unfold entry
  rw [isKey_anonymous, kind_anonymous]
  split
  · rfl
  · cases key with
    | string s => rw [anonymous]; exact congrArg Except.ok (lookup_anonymous entries s)
    | undefined => simp only [anonymous, Except.map]
    | null => simp only [anonymous, Except.map]
    | _ =>
      rw [anonymous] at hdisplay ⊢
      simp only [hdisplay]
      split
      · rfl
      · exact congrArg Except.ok (lookup_anonymous entries _)

/-- The item of a sequence, or the character of a text, at a position. -/
def itemAt : Value → Option Nat → Value
  | .string s, some i => (s[i]?.map fun c => .string [c]).getD .undefined
  | .list items, some i => items[i]?.getD .undefined
  | .tuple items, some i => items[i]?.getD .undefined
  | _, _ => .undefined

theorem itemAt_anonymous (position : Option Nat) : v.anonymous.itemAt position = (v.itemAt position).anonymous := by
  cases position with
  | none => cases v <;> simp only [anonymous, itemAt]
  | some i =>
    cases v with
    | string s =>
      simp only [anonymous, itemAt]
      generalize s[i]? = c?
      cases c? <;> simp only [anonymous, Option.map_none, Option.map_some, Option.getD_none, Option.getD_some]
    | list items => simp only [anonymous, itemAt, anonymousItems_eq_map, List.getElem?_map, anonymous_getD]
    | tuple items => simp only [anonymous, itemAt, anonymousItems_eq_map, List.getElem?_map, anonymous_getD]
    | _ => simp only [anonymous, itemAt]

/-- The part by name or by position. -/
def partAt (v key : Value) : Value :=
  match key with
  | .string name => v.member name
  | key => v.itemAt key.position?

theorem partAt_anonymous (key : Value) : v.anonymous.partAt key.anonymous = (v.partAt key).anonymous := by
  have hitem : v.anonymous.itemAt key.anonymous.position? = (v.itemAt key.position?).anonymous := by
    rw [position?_anonymous, itemAt_anonymous]
  cases key with
  | string name => rw [anonymous]; exact member_anonymous v name
  | _ => rw [anonymous] at hitem ⊢; exact hitem

/-- Whether the value has its parts by name and by position, and none by other keys. -/
def isIndexed : Value → Bool
  | .undefined => false
  | .null => false
  | .mapping _ => false
  | _ => true

theorem isIndexed_anonymous : v.anonymous.isIndexed = v.isIndexed := by cases v <;> rw [anonymous] <;> rfl

theorem index_eq_partAt {v : Value} (h : v.isIndexed = true) (key : Value) : v.index key = .ok (v.partAt key) := by
  cases v with
  | undefined => cases h
  | null => cases h
  | mapping entries => cases h
  | _ => cases key <;> rfl

theorem index_anonymous (key : Value) : v.anonymous.index key.anonymous = (v.index key).map anonymous := by
  cases h : v.isIndexed with
  | true =>
    rw [index_eq_partAt h, index_eq_partAt ((isIndexed_anonymous v).trans h), partAt_anonymous]
    rfl
  | false =>
    cases v with
    | undefined => simp only [anonymous, index, Except.map]
    | null => simp only [anonymous, index, Except.map]
    | mapping entries => rw [anonymous, index, entry_anonymous, index]
    | _ => cases h

/-! ## Bound values -/

mutual

theorem anonymous_identified (level : Nat) (name : Text) (place : List Nat) :
    ∀ v : Value, (v.identified level name place).anonymous = v.anonymous
  | .list items => by rw [identified, anonymous, anonymous, anonymousItems_identified level name place 0 items]
  | .number (.float (.nan .computed)) => by
    simp only [identified, anonymous, Number.anonymous, Double.anonymous]
  | .number (.int _) | .number (.float (.infinity _)) | .number (.float (.finite _ _ _))
  | .number (.float (.nan (.given _))) | .number (.float (.nan (.bound _ _ _)))
  | .undefined | .null | .bool _ | .string _ | .tuple _ | .mapping _ | .record _ | .object _ _ | .callable _ => by
    rw [identified] <;> nofun

theorem anonymousItems_identified (level : Nat) (name : Text) (place : List Nat) (index : Nat) :
    ∀ items : List Value, anonymousItems (identifiedItems level name place index items) = anonymousItems items
  | [] => by rw [identifiedItems]
  | v :: rest => by
    rw [identifiedItems, anonymousItems, anonymousItems, anonymous_identified level name (index :: place) v,
      anonymousItems_identified level name place (index + 1) rest]

end

end Value

end HtmlTemplate
