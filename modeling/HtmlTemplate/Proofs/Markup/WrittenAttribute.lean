import HtmlTemplate.Markup.Attribute
import HtmlTemplate.Proofs.Text.Cut
import Mathlib.Data.List.TakeWhile

/-!
# Attributes as they are written

An attribute is legible if it is a name alone, or a name and a value, in quotes or bare, with an equals sign between
them (`Attribute.Legible`). These are the attributes that are read (`legible_of_read?`), and a legible attribute is read
back in front of everything that goes on neither with its name nor with its value (`Legible.read?_raw`). Legible
attributes with blanks in front of each fill a text (`Attribute.Fill`); they are what is read in it (`Fill.all_eq`).
-/

namespace HtmlTemplate

namespace Attribute

/-! ## Values -/

/-- A value and how it is written: in quotes of one kind, or bare. -/
inductive Spells : Text → Text → Prop
  | quoted {quote : CodePoint} {v : Text} : isQuote quote = true → quote ∉ v → Spells (quote :: (v ++ [quote])) v
  | bare {v : Text} : v ≠ [] → (∀ c ∈ v, isBareChar c = true) → Spells v v

theorem not_isBlank_of_isQuote {c : CodePoint} (h : isQuote c = true) : isBlank c = false := by
  simp only [isQuote, Bool.or_eq_true, beq_iff_eq] at h
  rcases h with rfl | rfl <;> decide

theorem not_isBlank_of_isBareChar {c : CodePoint} (h : isBareChar c = true) : isBlank c = false := by
  simp only [isBareChar, Bool.not_eq_true', Bool.or_eq_false_iff] at h
  exact h.1.1

theorem not_isQuote_of_isBareChar {c : CodePoint} (h : isBareChar c = true) : isQuote c = false := by
  simp only [isBareChar, Bool.not_eq_true', Bool.or_eq_false_iff] at h
  exact h.1.2

theorem upTo?_append {quote : CodePoint} {v : Text} (hv : quote ∉ v) (s : Text) :
    upTo? quote (v ++ quote :: s) = some (v, s) := by
  induction v with
  | nil => simp [upTo?]
  | cons c v ih =>
    rw [List.mem_cons, not_or] at hv
    simp [upTo?, ih hv.2, Ne.symm hv.1]

theorem notMem_of_upTo? {quote : CodePoint} {s body after : Text} (h : upTo? quote s = some (body, after)) :
    quote ∉ body := by
  induction s generalizing body after with
  | nil => cases h
  | cons c rest ih =>
    rw [upTo?] at h
    split at h
    · cases h
      exact List.not_mem_nil
    · rename_i hc
      simp only [Option.map_eq_some_iff, Prod.mk.injEq, Prod.exists] at h
      obtain ⟨inner, after', hinner, rfl, -⟩ := h
      rw [List.mem_cons, not_or]
      exact ⟨Ne.symm hc, ih hinner⟩

theorem spells_of_written? {s raw v after : Text} (h : written? s = some (raw, v, after)) : Spells raw v := by
  cases s with
  | nil => cases h
  | cons c rest =>
    rw [written?] at h
    split at h
    · rename_i hquote
      simp only [Option.map_eq_some_iff, Prod.mk.injEq, Prod.exists] at h
      obtain ⟨body, after', hbody, rfl, rfl, -⟩ := h
      exact .quoted hquote (notMem_of_upTo? hbody)
    · split at h
      · rename_i hbare
        simp only [Option.some.injEq, Prod.mk.injEq] at h
        obtain ⟨rfl, rfl, -⟩ := h
        refine .bare ?_ fun d hd => List.mem_takeWhile_imp hd
        rw [List.takeWhile_cons_of_pos hbare]
        exact List.cons_ne_nil _ _
      · cases h

namespace Spells

variable {raw v : Text} (h : Spells raw v)

include h

theorem head?_not_isBlank (s : Text) : ∀ c ∈ (raw ++ s).head?, isBlank c = false := by
  cases h with
  | quoted hquote _ =>
    intro c hc
    cases hc
    exact not_isBlank_of_isQuote hquote
  | bare hne hchars =>
    obtain ⟨d, v, rfl⟩ := List.exists_cons_of_ne_nil hne
    intro c hc
    cases hc
    exact not_isBlank_of_isBareChar (hchars d List.mem_cons_self)

/-- A value is read back; behind a bare one nothing may stand that goes on with it. -/
theorem written? {s : Text} (hs : raw.any isQuote = false → ∀ c ∈ s.head?, isBareChar c = false) :
    Attribute.written? (raw ++ s) = some (raw, v, s) := by
  cases h with
  | @quoted quote _ hquote hv =>
    rw [List.cons_append, Attribute.written?, if_pos hquote, List.append_assoc, List.singleton_append, upTo?_append hv]
    rfl
  | bare hne hchars =>
    have hunquoted : raw.any isQuote = false :=
      List.any_eq_false.mpr fun c hc => by simp [not_isQuote_of_isBareChar (hchars c hc)]
    obtain ⟨htake, hdrop⟩ := Text.takeWhile_append_of_all hchars (hs hunquoted)
    obtain ⟨d, raw, rfl⟩ := List.exists_cons_of_ne_nil hne
    have hd := hchars d List.mem_cons_self
    rw [List.cons_append] at htake hdrop ⊢
    rw [Attribute.written?, if_neg (by simp [not_isQuote_of_isBareChar hd]), if_pos hd, htake, hdrop]

end Spells

/-! ## Attributes -/

/-- The attributes that are read: a name alone, or a name, an equals sign with blanks around it, and a value. -/
inductive Legible : Attribute → Prop
  | alone {name : Text} : name ≠ [] → (∀ c ∈ name, isNameChar c = true) → Legible ⟨name, none, name⟩
  | assigned {name front back raw v : Text} :
      name ≠ [] → (∀ c ∈ name, isNameChar c = true) → (∀ c ∈ front, isBlank c = true) →
        (∀ c ∈ back, isBlank c = true) → Spells raw v →
          Legible ⟨name, some v, name ++ (front ++ ('=' : CodePoint) :: (back ++ raw))⟩

/-- Whether the value of an attribute is written without quotes. -/
def isBare (a : Attribute) : Bool := a.value.isSome && !a.isQuoted

/-- Whether a text that follows an attribute without a value adds nothing to it: it does not go on with the name, and it
is not blanks and an equals sign. -/
def EndsAttribute (s : Text) : Prop := (∀ c ∈ s.head?, isNameChar c = false) ∧ assigned? s = none

/-- Whether a text that follows an attribute adds nothing to it. -/
structure Ends (a : Attribute) (s : Text) : Prop where
  alone : a.value = none → EndsAttribute s
  bare : a.isBare = true → ∀ c ∈ s.head?, isBareChar c = false

theorem not_isNameChar_of_isBlank {c : CodePoint} (h : isBlank c = true) : isNameChar c = false := by
  simp [isNameChar, h]

theorem not_isBlank_of_isNameChar {c : CodePoint} (h : isNameChar c = true) : isBlank c = false := by
  cases hb : isBlank c with
  | false => rfl
  | true => rw [not_isNameChar_of_isBlank hb] at h; cases h

theorem not_isQuote_of_isNameChar {c : CodePoint} (h : isNameChar c = true) : isQuote c = false := by
  simp only [isNameChar, Bool.not_eq_true', Bool.or_eq_false_iff] at h
  exact h.1.2

theorem not_isQuote_of_isBlank {c : CodePoint} (h : isBlank c = true) : isQuote c = false := by
  cases hq : isQuote c with
  | false => rfl
  | true => rw [not_isBlank_of_isQuote hq] at h; cases h

theorem isBlank_equals : isBlank '=' = false := by decide

/-- What has an equals sign behind blanks is read as an assignment, if a value follows. -/
theorem assigned?_append {front back raw v s : Text} (hfront : ∀ c ∈ front, isBlank c = true)
    (hback : ∀ c ∈ back, isBlank c = true) (hv : Spells raw v)
    (hs : raw.any isQuote = false → ∀ c ∈ s.head?, isBareChar c = false) :
    assigned? (front ++ ('=' : CodePoint) :: (back ++ raw) ++ s) =
      some (front ++ ('=' : CodePoint) :: (back ++ raw), v, s) := by
  have hequals : ∀ c ∈ (('=' : CodePoint) :: (back ++ (raw ++ s))).head?, isBlank c = false := by
    intro c hc
    cases hc
    exact isBlank_equals
  obtain ⟨htake, hdrop⟩ := Text.takeWhile_append_of_all hfront hequals
  obtain ⟨htake', hdrop'⟩ := Text.takeWhile_append_of_all hback (hv.head?_not_isBlank s)
  simp only [List.append_assoc, List.cons_append]
  rw [assigned?, hdrop]
  simp only [htake, hdrop', htake', hv.written? hs, Option.map_some, List.append_assoc, List.cons_append]

theorem any_isQuote_assigned {name front back raw : Text} (hname : ∀ c ∈ name, isNameChar c = true)
    (hfront : ∀ c ∈ front, isBlank c = true) (hback : ∀ c ∈ back, isBlank c = true) :
    (name ++ (front ++ ('=' : CodePoint) :: (back ++ raw))).any isQuote = raw.any isQuote := by
  have hnone : ∀ s : Text, (∀ c ∈ s, isQuote c = false) → s.any isQuote = false :=
    fun s hs => List.any_eq_false.mpr fun c hc => by simp [hs c hc]
  have hequals : isQuote '=' = false := by decide
  simp [List.any_append, hnone name fun c hc => not_isQuote_of_isNameChar (hname c hc),
    hnone front fun c hc => not_isQuote_of_isBlank (hfront c hc),
    hnone back fun c hc => not_isQuote_of_isBlank (hback c hc), hequals]

theorem legible_of_read? {s after : Text} {a : Attribute} (h : read? s = some (a, after)) : a.Legible := by
  simp only [read?] at h
  split at h
  · cases h
  · rename_i hname
    have hne : s.takeWhile isNameChar ≠ [] := by simpa using hname
    have hchars : ∀ c ∈ s.takeWhile isNameChar, isNameChar c = true := fun c hc => List.mem_takeWhile_imp hc
    split at h
    · rename_i raw v rest hassigned
      cases h
      rw [assigned?] at hassigned
      split at hassigned
      · simp only [Option.map_eq_some_iff, Prod.mk.injEq, Prod.exists] at hassigned
        obtain ⟨written, v', after', hwritten, rfl, rfl, -⟩ := hassigned
        rw [List.append_assoc, List.cons_append]
        exact .assigned hne hchars (fun c hc => List.mem_takeWhile_imp hc) (fun c hc => List.mem_takeWhile_imp hc)
          (spells_of_written? hwritten)
      · cases hassigned
    · cases h
      exact .alone hne hchars

/-- All attributes that are read in a text are legible. -/
theorem legible_of_mem_all {s : Text} {a : Attribute} (h : a ∈ all s) : a.Legible := by
  have hfrom : ∀ (steps : Nat) (s : Text), a ∈ allFrom steps s → a.Legible := by
    intro steps
    induction steps with
    | zero => intro s hs; cases hs
    | succ steps ih =>
      intro s hs
      cases s with
      | nil => cases hs
      | cons c rest =>
        rw [allFrom] at hs
        split at hs
        · rename_i b after hread
          rcases List.mem_cons.mp hs with rfl | hs
          · exact legible_of_read? hread
          · exact ih _ hs
        · exact ih _ hs
  exact hfrom _ _ h

namespace Legible

variable {a : Attribute} (h : a.Legible)

include h

/-- A legible attribute is read back. -/
theorem read?_raw {s : Text} (hs : a.Ends s) : read? (a.raw ++ s) = some (a, s) := by
  cases h with
  | alone hne hchars =>
    obtain ⟨hhead, hassigned⟩ := hs.alone rfl
    obtain ⟨htake, hdrop⟩ := Text.takeWhile_append_of_all hchars hhead
    simp only [read?, htake, hdrop, hassigned]
    simpa using hne
  | @assigned name front back raw v hne hchars hfront hback hv =>
    have hbare : raw.any isQuote = false → ∀ c ∈ s.head?, isBareChar c = false := by
      intro hraw
      refine hs.bare ?_
      rw [isBare, isQuoted, any_isQuote_assigned hchars hfront hback, hraw]
      rfl
    have hhead : ∀ c ∈ (front ++ ('=' : CodePoint) :: (back ++ raw) ++ s).head?, isNameChar c = false := by
      intro c hc
      cases front with
      | nil => cases hc; decide
      | cons d front => cases hc; exact not_isNameChar_of_isBlank (hfront _ List.mem_cons_self)
    obtain ⟨htake, hdrop⟩ := Text.takeWhile_append_of_all hchars hhead
    rw [← List.append_assoc] at htake hdrop
    simp only [read?, htake, hdrop, assigned?_append hfront hback hv hbare]
    simpa using hne

theorem raw_eq_cons : ∃ c rest, a.raw = c :: rest ∧ isNameChar c = true := by
  cases h with
  | alone hne hchars =>
    obtain ⟨c, name, rfl⟩ := List.exists_cons_of_ne_nil hne
    exact ⟨c, name, rfl, hchars c List.mem_cons_self⟩
  | assigned hne hchars =>
    obtain ⟨c, name, rfl⟩ := List.exists_cons_of_ne_nil hne
    exact ⟨c, _, rfl, hchars c List.mem_cons_self⟩

end Legible

/-! ## The attributes of a text -/

theorem length_lt_of_read? {s after : Text} {a : Attribute} (h : read? s = some (a, after)) :
    after.length < s.length := by
  obtain ⟨c, rest, hraw, -⟩ := (legible_of_read? h).raw_eq_cons
  rw [append_of_read? h, hraw, List.length_append, List.length_cons]
  omega

/-- More steps than characters change nothing. -/
theorem allFrom_of_length_le (n m : Nat) (s : Text) (hn : s.length ≤ n) (hm : s.length ≤ m) :
    allFrom n s = allFrom m s := by
  induction n generalizing m s with
  | zero =>
    obtain rfl := List.length_eq_zero_iff.mp (Nat.le_zero.mp hn)
    cases m <;> rfl
  | succ n ih =>
    cases s with
    | nil => cases m <;> rfl
    | cons c rest =>
      cases m with
      | zero => cases hm
      | succ m =>
        rw [List.length_cons] at hn hm
        rw [allFrom, allFrom]
        cases hread : read? (c :: rest) with
        | none => exact ih m rest (by omega) (by omega)
        | some found =>
          obtain ⟨a, after⟩ := found
          have hlt := length_lt_of_read? hread
          rw [List.length_cons] at hlt
          simp only [ih m after (by omega) (by omega)]

theorem all_of_read? {s after : Text} {a : Attribute} (h : read? s = some (a, after)) : all s = a :: all after := by
  have hlt := length_lt_of_read? h
  cases s with
  | nil => cases hlt
  | cons c rest =>
    rw [List.length_cons] at hlt
    rw [all, List.length_cons, allFrom, h]
    exact congrArg (a :: ·) (allFrom_of_length_le _ _ after (by omega) (Nat.le_refl _))

theorem all_cons_of_read? {c : CodePoint} {rest : Text} (h : read? (c :: rest) = none) :
    all (c :: rest) = all rest := by
  rw [all, List.length_cons, allFrom, h]
  rfl

/-- In front of a blank or of the end of a tag nothing is an attribute. -/
theorem read?_of_not_isNameChar {c : CodePoint} (hc : isNameChar c = false) (rest : Text) :
    read? (c :: rest) = none := by
  simp [read?, hc]

/-- Blanks are skipped. -/
theorem all_append_of_blank {gap : Text} (hgap : ∀ c ∈ gap, isBlank c = true) (s : Text) : all (gap ++ s) = all s := by
  induction gap with
  | nil => rfl
  | cons c gap ih =>
    rw [List.forall_mem_cons] at hgap
    rw [List.cons_append, all_cons_of_read? (read?_of_not_isNameChar (not_isNameChar_of_isBlank hgap.1) _), ih hgap.2]

/-! ## Attributes side by side -/

/-- Attributes fill a text if they stand in it one after the other, with blanks in front of each and nothing else. -/
inductive Fill : List Attribute → Text → Prop
  | nil : Fill [] []
  | cons {gap s : Text} {a : Attribute} {attributes : List Attribute} : gap ≠ [] → (∀ c ∈ gap, isBlank c = true) →
      a.Legible → Fill attributes s → Fill (a :: attributes) (gap ++ (a.raw ++ s))

/-- What is a name behind blanks is not assigned to anything. -/
theorem assigned?_append_of_isNameChar {gap : Text} (hgap : ∀ b ∈ gap, isBlank b = true) {c : CodePoint}
    (hc : isNameChar c = true) (s : Text) : assigned? (gap ++ c :: s) = none := by
  have hequals : c ≠ '=' := by
    rintro rfl
    exact absurd hc (by decide)
  rw [assigned?, List.dropWhile_append_of_pos hgap, List.dropWhile_cons_of_neg (by simp [not_isBlank_of_isNameChar hc])]
  split
  · rename_i heq
    cases heq
    exact absurd rfl hequals
  · rfl

theorem ends_nil (a : Attribute) : a.Ends [] := ⟨fun _ => ⟨by simp, by simp [assigned?]⟩, by simp⟩

theorem not_isBareChar_of_isBlank {c : CodePoint} (h : isBlank c = true) : isBareChar c = false := by
  simp [isBareChar, h]

namespace Fill

variable {attributes : List Attribute} {s : Text}

/-- An attribute ends in front of those that follow it; the last one ends if what is behind them adds nothing to it. -/
theorem ends (h : Fill attributes s) {a : Attribute} {t : Text} (ht : attributes = [] → a.Ends t) :
    a.Ends (s ++ t) := by
  cases h with
  | nil => exact ht rfl
  | @cons gap s b _ hne hgap hlegible _ =>
    obtain ⟨c, raw, hraw, hc⟩ := hlegible.raw_eq_cons
    obtain ⟨d, gap, rfl⟩ := List.exists_cons_of_ne_nil hne
    have hd := hgap d List.mem_cons_self
    refine ⟨fun _ => ⟨fun e he => ?_, ?_⟩, fun _ e he => ?_⟩
    · cases he
      exact not_isNameChar_of_isBlank hd
    · rw [hraw, List.append_assoc]
      exact assigned?_append_of_isNameChar hgap hc _
    · cases he
      exact not_isBareChar_of_isBlank hd

/-- The attributes that fill a text are those that are read in it. -/
theorem all_eq (h : Fill attributes s) : all s = attributes := by
  induction h with
  | nil => rfl
  | @cons gap s a attributes _ hgap hlegible h ih =>
    have hends := h.ends fun _ => a.ends_nil
    rw [List.append_nil] at hends
    rw [all_append_of_blank hgap, all_of_read? (hlegible.read?_raw hends), ih]

theorem length_le (h : Fill attributes s) : attributes.length ≤ s.length := by
  induction h with
  | nil => exact Nat.le_refl 0
  | cons hne _ _ _ ih =>
    have := List.length_pos_iff.mpr hne
    simp only [List.length_cons, List.length_append]
    omega

end Fill

/-- Attributes, with a space in front of each. -/
def spaced (attributes : List Attribute) : Text := attributes.flatMap fun a => ' ' :: a.raw

theorem fill_spaced {attributes : List Attribute} (h : ∀ a ∈ attributes, a.Legible) :
    Fill attributes (spaced attributes) := by
  induction attributes with
  | nil => exact .nil
  | cons a rest ih =>
    rw [List.forall_mem_cons] at h
    exact .cons (List.cons_ne_nil (' ' : CodePoint) []) (List.forall_mem_singleton.mpr (by decide)) h.1 (ih h.2)

/-! ## Well-formed attributes -/

/-- An attribute that stands alone, or has a value in double quotes. -/
structure WellFormed (a : Attribute) : Prop where
  name_ne_nil : a.name ≠ []
  name_chars : ∀ c ∈ a.name, isNameChar c = true
  written : (a.value = none ∧ a.raw = a.name) ∨
    ∃ v : Text, a.value = some v ∧ ('\x22' : CodePoint) ∉ v ∧
      a.raw = a.name ++ ('=' : CodePoint) :: '\x22' :: (v ++ (['\x22'] : Text))

theorem WellFormed.legible {a : Attribute} (h : a.WellFormed) : a.Legible := by
  obtain ⟨name, value, raw⟩ := a
  obtain ⟨hne, hchars, hwritten⟩ := h
  simp only at hne hchars hwritten
  rcases hwritten with ⟨rfl, rfl⟩ | ⟨v, rfl, hv, rfl⟩
  · exact .alone hne hchars
  · have hblank : ∀ c ∈ [], isBlank c = true := nofun
    exact .assigned hne hchars hblank hblank (.quoted (by decide) hv)

theorem WellFormed.isBare_eq_false {a : Attribute} (h : a.WellFormed) : a.isBare = false := by
  rcases h.written with ⟨hvalue, -⟩ | ⟨v, -, -, hraw⟩
  · rw [isBare, hvalue]
    rfl
  · have hquote : isQuote '\x22' = true := by decide
    simp [isBare, isQuoted, hraw, hquote]

end Attribute

end HtmlTemplate
