import HtmlTemplate.Text.Blank
import HtmlTemplate.Text.Case

/-!
# Attributes

An attribute is a name that stands alone, or a name, an equals sign and a value. A value is written in double
quotes, in single quotes, or bare. `Attribute.all` reads the attributes of a text and skips what is none.
-/

namespace HtmlTemplate

/-- An attribute: its name, its value if it has one, and how it was written. -/
structure Attribute where
  name : Text
  value : Option Text
  raw : Text
  deriving DecidableEq, Repr

namespace Attribute

/-- The two quotation marks. -/
def isQuote (c : CodePoint) : Bool := c == '\x22' || c == '\x27'

/-- The characters of an attribute name. -/
def isNameChar (c : CodePoint) : Bool := !(isBlank c || isQuote c || (['<', '>', '/', '='] : Text).contains c)

/-- The characters of a value without quotes. -/
def isBareChar (c : CodePoint) : Bool := !(isBlank c || isQuote c || (['=', '<', '>', '\x60'] : Text).contains c)

/-- What stands in front of the first `quote`, and the text after that quote. -/
def upTo? (quote : CodePoint) : Text → Option (Text × Text)
  | [] => none
  | c :: rest => if c = quote then some ([], rest) else (upTo? quote rest).map fun (body, after) => (c :: body, after)

/-- A written value at the front of a text: as it is written, what it says, and the text after it. -/
def written? : Text → Option (Text × Text × Text)
  | [] => none
  | c :: rest =>
    if isQuote c then (upTo? c rest).map fun (body, after) => (c :: body ++ [c], body, after)
    else if isBareChar c then
      let value := (c :: rest).takeWhile isBareChar
      some (value, value, (c :: rest).dropWhile isBareChar)
    else none

/-- An equals sign and a value, with blanks around the sign: as written, the value, and the text after it. -/
def assigned? (s : Text) : Option (Text × Text × Text) :=
  match s.dropWhile isBlank with
  | '=' :: rest =>
    (written? (rest.dropWhile isBlank)).map fun (raw, value, after) =>
      (s.takeWhile isBlank ++ ('=' : CodePoint) :: rest.takeWhile isBlank ++ raw, value, after)
  | _ => none

/-- The attribute at the front of a text, and the text after it. -/
def read? (s : Text) : Option (Attribute × Text) :=
  let name := s.takeWhile isNameChar
  let after := s.dropWhile isNameChar
  if name.isEmpty then none
  else
    match assigned? after with
    | some (raw, value, rest) => some (⟨name, some value, name ++ raw⟩, rest)
    | none => some (⟨name, none, name⟩, after)

/-- The attributes of a text in at most `steps` steps. A step reads an attribute or skips a character. -/
def allFrom : Nat → Text → List Attribute
  | 0, _ => []
  | _ + 1, [] => []
  | steps + 1, c :: rest =>
    match read? (c :: rest) with
    | some (a, after) => a :: allFrom steps after
    | none => allFrom steps rest

/-- The attributes that are written in a text. -/
def all (s : Text) : List Attribute := allFrom s.length s

/-- Whether the value is written in quotes. -/
def isQuoted (a : Attribute) : Bool := a.raw.any isQuote

/-- Whether an attribute is called `name`, in any case of the letters. -/
def isCalled (name : Text) (a : Attribute) : Bool := a.name.lower == name.lower

/-- The value without the blanks at its ends; nothing for an attribute without a value. -/
def trimmedValue (a : Attribute) : Text := (a.value.getD []).trim

theorem append_of_upTo? {quote : CodePoint} {s body after : Text} (h : upTo? quote s = some (body, after)) :
    s = body ++ quote :: after := by
  induction s generalizing body with
  | nil => simp [upTo?] at h
  | cons c rest ih =>
    rw [upTo?] at h
    split at h
    · next hc => simp at h; obtain ⟨rfl, rfl⟩ := h; simp [hc]
    · simp only [Option.map_eq_some_iff, Prod.mk.injEq, Prod.exists] at h
      obtain ⟨b, a, hb, rfl, rfl⟩ := h
      simp [ih hb]

theorem append_of_written? {s raw value after : Text} (h : written? s = some (raw, value, after)) :
    s = raw ++ after := by
  cases s with
  | nil => simp [written?] at h
  | cons c rest =>
    rw [written?] at h
    split at h
    · simp only [Option.map_eq_some_iff, Prod.mk.injEq, Prod.exists] at h
      obtain ⟨b, a, hb, rfl, rfl, rfl⟩ := h
      simp [append_of_upTo? hb]
    · split at h
      · simp only [Option.some.injEq, Prod.mk.injEq] at h
        obtain ⟨rfl, rfl, rfl⟩ := h
        exact (List.takeWhile_append_dropWhile).symm
      · simp at h

theorem append_of_assigned? {s raw value after : Text} (h : assigned? s = some (raw, value, after)) :
    s = raw ++ after := by
  rw [assigned?] at h
  split at h
  · next rest hs =>
    simp only [Option.map_eq_some_iff, Prod.mk.injEq, Prod.exists] at h
    obtain ⟨r, v, a, hw, rfl, rfl, rfl⟩ := h
    have hr : rest = rest.takeWhile isBlank ++ (r ++ a) := by
      rw [← append_of_written? hw, List.takeWhile_append_dropWhile]
    calc s = s.takeWhile isBlank ++ s.dropWhile isBlank := (List.takeWhile_append_dropWhile).symm
      _ = s.takeWhile isBlank ++ ('=' : CodePoint) :: rest := by rw [hs]
      _ = _ := by rw [List.append_assoc, List.append_assoc, List.cons_append, ← hr]
  · simp at h

/-- Reading an attribute loses nothing of the text. -/
theorem append_of_read? {s after : Text} {a : Attribute} (h : read? s = some (a, after)) : s = a.raw ++ after := by
  have hs : s = s.takeWhile isNameChar ++ s.dropWhile isNameChar := (List.takeWhile_append_dropWhile).symm
  simp only [read?] at h
  split at h
  · simp at h
  · split at h
    · next raw value rest hv =>
      simp only [Option.some.injEq, Prod.mk.injEq] at h
      obtain ⟨rfl, rfl⟩ := h
      have := append_of_assigned? hv
      simp only [List.append_assoc, ← this]
      exact hs
    · simp only [Option.some.injEq, Prod.mk.injEq] at h
      obtain ⟨rfl, rfl⟩ := h
      exact hs

end Attribute

end HtmlTemplate
