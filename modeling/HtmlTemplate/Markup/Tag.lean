import HtmlTemplate.Markup.Attribute
import HtmlTemplate.Text.Word

/-!
# Tags

An open tag is `<`, a name, attributes that blanks set off, and `>` or `/>`. A close tag is `</`, a name and `>`.
Both are kept as they were written.
-/

namespace HtmlTemplate

/-- An open tag: its name, its attributes, how it was written, and whether a slash closes it. -/
structure OpenTag where
  name : Text
  attributes : List Attribute
  source : Text
  selfClosing : Bool
  deriving DecidableEq, Repr

namespace Tag

/-- The first character of a tag name. -/
def isNameStart (c : CodePoint) : Bool := ('a' ≤ c && c ≤ 'z') || ('A' ≤ c && c ≤ 'Z')

/-- The further characters of a tag name. -/
def isNameChar (c : CodePoint) : Bool := isWord c || ([':', '.', '-'] : Text).contains c

/-- The tag name at the front of a text, and the text after it. -/
def name? : Text → Option (Text × Text)
  | [] => none
  | c :: rest =>
    if isNameStart c then some (c :: rest.takeWhile isNameChar, rest.dropWhile isNameChar) else none

/-- The part of a tag that its attributes fill, each with blanks in front, in at most `steps` attributes; and the
text after it. -/
def sectionFrom : Nat → Text → Text × Text
  | 0, s => ([], s)
  | steps + 1, s =>
    let blanks := s.takeWhile isBlank
    match Attribute.read? (s.dropWhile isBlank) with
    | some (a, after) =>
      if blanks.isEmpty then ([], s)
      else
        let (filled, rest) := sectionFrom steps after
        (blanks ++ a.raw ++ filled, rest)
    | none => ([], s)

/-- The end of an open tag: as written, whether it has the slash, and the text after it. -/
def openEnd? (s : Text) : Option (Text × Bool × Text) :=
  match s.dropWhile isBlank with
  | '>' :: after => some (s.takeWhile isBlank ++ (['>'] : Text), false, after)
  | '/' :: '>' :: after => some (s.takeWhile isBlank ++ (['/', '>'] : Text), true, after)
  | _ => none

/-- The open tag at the front of a text, and the text after it. -/
def open? : Text → Option (OpenTag × Text)
  | '<' :: s => do
    let (name, afterName) ← name? s
    let (filled, afterAttributes) := sectionFrom afterName.length afterName
    let (closing, slash, after) ← openEnd? afterAttributes
    return (⟨name, Attribute.all filled, ('<' : CodePoint) :: name ++ filled ++ closing, slash⟩, after)
  | _ => none

/-- The close tag at the front of a text: its name, as written, and the text after it. -/
def close? : Text → Option (Text × Text × Text)
  | '<' :: '/' :: s => do
    let (name, rest) ← name? s
    match rest.dropWhile isBlank with
    | '>' :: after => return (name, ('<' : CodePoint) :: '/' :: name ++ rest.takeWhile isBlank ++ (['>'] : Text), after)
    | _ => none
  | _ => none

theorem append_of_name? {s name after : Text} (h : name? s = some (name, after)) : s = name ++ after := by
  cases s with
  | nil => simp [name?] at h
  | cons c rest =>
    rw [name?] at h
    split at h
    · simp only [Option.some.injEq, Prod.mk.injEq] at h
      obtain ⟨rfl, rfl⟩ := h
      simp [List.takeWhile_append_dropWhile]
    · simp at h

theorem append_of_sectionFrom (steps : Nat) (s : Text) :
    (sectionFrom steps s).1 ++ (sectionFrom steps s).2 = s := by
  induction steps generalizing s with
  | zero => simp [sectionFrom]
  | succ steps ih =>
    simp only [sectionFrom]
    split
    · next a after ha =>
      split
      · simp
      · simp only [List.append_assoc, ih]
        rw [← Attribute.append_of_read? ha, List.takeWhile_append_dropWhile]
    · simp

theorem append_of_openEnd? {s closing after : Text} {slash : Bool} (h : openEnd? s = some (closing, slash, after)) :
    s = closing ++ after := by
  have hs : s = s.takeWhile isBlank ++ s.dropWhile isBlank := (List.takeWhile_append_dropWhile).symm
  rw [openEnd?] at h
  split at h
  · next hd =>
    simp only [Option.some.injEq, Prod.mk.injEq] at h
    obtain ⟨rfl, -, rfl⟩ := h
    rw [hd] at hs; simpa using hs
  · next hd =>
    simp only [Option.some.injEq, Prod.mk.injEq] at h
    obtain ⟨rfl, -, rfl⟩ := h
    rw [hd] at hs; simpa using hs
  · simp at h

/-- Reading an open tag loses nothing of the text. -/
theorem append_of_open? {s after : Text} {tag : OpenTag} (h : open? s = some (tag, after)) :
    s = tag.source ++ after := by
  unfold open? at h
  split at h
  · next s =>
    simp only [Option.bind_eq_bind, Option.bind_eq_some_iff, Prod.exists] at h
    obtain ⟨name, afterName, hn, closing, slash, after', he, h⟩ := h
    have h := Option.some.inj h
    simp only [Prod.mk.injEq] at h
    obtain ⟨rfl, rfl⟩ := h
    have h1 := append_of_name? hn
    have h2 := append_of_sectionFrom afterName.length afterName
    have h3 := append_of_openEnd? he
    simp only [List.cons_append, List.append_assoc, List.cons.injEq, true_and]
    rw [h1, ← h3, h2]
  · simp at h

/-- Reading a close tag loses nothing of the text. -/
theorem append_of_close? {s name source after : Text} (h : close? s = some (name, source, after)) :
    s = source ++ after := by
  unfold close? at h
  split at h
  · next s =>
    simp only [Option.bind_eq_bind, Option.bind_eq_some_iff, Prod.exists] at h
    obtain ⟨n, rest, hn, h⟩ := h
    have h1 := append_of_name? hn
    have hs : rest = rest.takeWhile isBlank ++ rest.dropWhile isBlank := (List.takeWhile_append_dropWhile).symm
    split at h
    · next hd =>
      have h := Option.some.inj h
      simp only [Prod.mk.injEq] at h
      obtain ⟨rfl, rfl, rfl⟩ := h
      rw [hd] at hs
      simp only [List.cons_append, List.append_assoc, List.cons.injEq, true_and, List.nil_append]
      rw [h1, ← hs]
    · simp at h
  · simp at h

end Tag

namespace OpenTag

/-- The first attribute called `name`, in any case of the letters. -/
def find? (tag : OpenTag) (name : Text) : Option Attribute := tag.attributes.find? (·.isCalled name)

/-- The tag with other attributes, written anew with one space in front of each. -/
def withAttributes (tag : OpenTag) (attributes : List Attribute) : OpenTag where
  name := tag.name
  attributes := attributes
  source :=
    ('<' : CodePoint) :: tag.name ++ attributes.flatMap (fun a => (' ' : CodePoint) :: a.raw) ++
      (if tag.selfClosing then ['/', '>'] else ['>'] : Text)
  selfClosing := tag.selfClosing

/-- The tag without the attributes of the given names, written anew. -/
def without (tag : OpenTag) (names : List Text) : OpenTag :=
  tag.withAttributes (tag.attributes.filter fun a => !names.any fun name => a.isCalled name)

/-- Whether the tag is called `name`, in any case of the letters. -/
def isCalled (name : Text) (tag : OpenTag) : Bool := tag.name.lower == name.lower

end OpenTag

end HtmlTemplate
