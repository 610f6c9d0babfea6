import HtmlTemplate.Markup.Tag
import HtmlTemplate.Proofs.Markup.WrittenAttribute

/-!
# Tags as they are written

Attributes fill the part of a tag that is read as theirs (`Tag.fill_sectionFrom`). A slash goes on with a bare value. So a
tag that writes legible attributes with a space in front of each is read back, whatever follows, unless its slash would
stand right behind a bare value (`open?_of_legible`); in particular a well-formed tag, whose values are in double quotes
and may hold any other character, so that angle brackets and slashes in them end nothing (`open?_source`). Close tags
are read back as well (`close?_closer`).
-/

namespace HtmlTemplate

/-! ## Open tags -/

namespace Tag

/-- A legal tag name. -/
def IsName (name : Text) : Prop := ∃ c rest, name = c :: rest ∧ isNameStart c = true ∧ ∀ d ∈ rest, isNameChar d = true

theorem name?_append {name s : Text} (h : IsName name) (hs : ∀ c ∈ s.head?, isNameChar c = false) :
    name? (name ++ s) = some (name, s) := by
  obtain ⟨c, rest, rfl, hc, hrest⟩ := h
  obtain ⟨htake, hdrop⟩ := Text.takeWhile_append_of_all hrest hs
  simp only [List.cons_append, name?, hc, if_true, htake, hdrop]

theorem isName_of_name? {s name after : Text} (h : name? s = some (name, after)) : IsName name := by
  cases s with
  | nil => cases h
  | cons c rest =>
    rw [name?] at h
    split at h
    · rename_i hc
      cases h
      exact ⟨c, _, rfl, hc, fun d hd => List.mem_takeWhile_imp hd⟩
    · cases h

/-- The end of an open tag. -/
def ending (selfClosing : Bool) : Text := if selfClosing then ['/', '>'] else ['>']

theorem openEnd?_ending (selfClosing : Bool) (after : Text) :
    openEnd? (ending selfClosing ++ after) = some (ending selfClosing, selfClosing, after) := by
  have hclose : isBlank '>' = false := by decide
  have hslash : isBlank '/' = false := by decide
  cases selfClosing <;> simp [openEnd?, ending, hclose, hslash]

theorem openEnd?_other {s : Text} (hplain : ∀ after, s.dropWhile isBlank ≠ ('>' : CodePoint) :: after)
    (hslash : ∀ after, s.dropWhile isBlank ≠ ('/' : CodePoint) :: '>' :: after) : openEnd? s = none := by
  rw [openEnd?]
  split
  · next heq => exact absurd heq (hplain _)
  · next heq => exact absurd heq (hslash _)
  · rfl

/-- A tag does not end in front of what is no blank, no angle bracket and no slash. -/
theorem openEnd?_append_of_ne {gap : Text} {c : CodePoint} (hgap : ∀ b ∈ gap, isBlank b = true)
    (hblank : isBlank c = false) (hplain : c ≠ '>') (hslash : c ≠ '/') (rest : Text) :
    openEnd? (gap ++ c :: rest) = none := by
  have hdrop : (gap ++ c :: rest).dropWhile isBlank = c :: rest := by
    rw [List.dropWhile_append_of_pos hgap, List.dropWhile_cons_of_neg (by simp [hblank])]
  refine openEnd?_other (fun after heq => hplain ?_) fun after heq => hslash ?_
  · exact (List.cons.inj (hdrop.symm.trans heq)).1
  · exact (List.cons.inj (hdrop.symm.trans heq)).1

/-- The end of a tag ends an attribute, but a slash goes on with a bare value. -/
theorem ends_ending {a : Attribute} {selfClosing : Bool} (h : selfClosing = true → a.isBare = false) (after : Text) :
    a.Ends (ending selfClosing ++ after) := by
  have hclose : isBlank '>' = false := by decide
  have hslash : isBlank '/' = false := by decide
  cases selfClosing with
  | false =>
    refine ⟨fun _ => ⟨fun c hc => ?_, by simp [ending, Attribute.assigned?, hclose]⟩, fun _ c hc => ?_⟩
    · cases hc
      decide
    · cases hc
      decide
  | true =>
    refine ⟨fun _ => ⟨fun c hc => ?_, by simp [ending, Attribute.assigned?, hslash]⟩, fun hbare => ?_⟩
    · cases hc
      decide
    · rw [h rfl] at hbare
      cases hbare

/-- More steps than characters change nothing. -/
theorem sectionFrom_of_length_le (n m : Nat) (s : Text) (hn : s.length ≤ n) (hm : s.length ≤ m) :
    sectionFrom n s = sectionFrom m s := by
  have hnil : ∀ k, sectionFrom k [] = ([], []) := fun k => by cases k <;> rfl
  induction n generalizing m s with
  | zero =>
    obtain rfl := List.length_eq_zero_iff.mp (Nat.le_zero.mp hn)
    rw [hnil, hnil]
  | succ n ih =>
    cases m with
    | zero =>
      obtain rfl := List.length_eq_zero_iff.mp (Nat.le_zero.mp hm)
      rw [hnil, hnil]
    | succ m =>
      have hblanks := (List.dropWhile_sublist isBlank (l := s)).length_le
      rw [sectionFrom, sectionFrom]
      cases hread : Attribute.read? (s.dropWhile isBlank) with
      | none => rfl
      | some found =>
        obtain ⟨a, after⟩ := found
        have hlt := Attribute.length_lt_of_read? hread
        simp only [ih m after (by omega) (by omega)]

theorem exists_fill_sectionFrom (steps : Nat) (s : Text) :
    ∃ attributes, Attribute.Fill attributes (sectionFrom steps s).1 := by
  induction steps generalizing s with
  | zero => exact ⟨[], .nil⟩
  | succ steps ih =>
    rw [sectionFrom]
    split
    · rename_i a after hread
      split
      · exact ⟨[], .nil⟩
      · rename_i hgap
        obtain ⟨attributes, hfill⟩ := ih after
        have hne : s.takeWhile isBlank ≠ [] := by simpa using hgap
        refine ⟨a :: attributes, ?_⟩
        change Attribute.Fill _ (s.takeWhile isBlank ++ a.raw ++ (sectionFrom steps after).1)
        rw [List.append_assoc]
        exact .cons hne (fun c hc => List.mem_takeWhile_imp hc) (Attribute.legible_of_read? hread) hfill
    · exact ⟨[], .nil⟩

/-- What is read as the attributes of a tag is filled with attributes, and these are the ones that are read in it. -/
theorem fill_sectionFrom (steps : Nat) (s : Text) :
    Attribute.Fill (Attribute.all (sectionFrom steps s).1) (sectionFrom steps s).1 := by
  obtain ⟨attributes, hfill⟩ := exists_fill_sectionFrom steps s
  rwa [hfill.all_eq]

/-- The attributes of a tag are what is in front of its end. -/
theorem sectionFrom_of_fill {attributes : List Attribute} {s : Text} (h : Attribute.Fill attributes s)
    {selfClosing : Bool} (hlast : selfClosing = true → ∀ a ∈ attributes.getLast?, a.isBare = false) (after : Text)
    (steps : Nat) (hsteps : attributes.length ≤ steps) :
    sectionFrom steps (s ++ (ending selfClosing ++ after)) = (s, ending selfClosing ++ after) := by
  induction h generalizing steps with
  | nil =>
    have hread : ∀ s : Text, Attribute.read? ((ending selfClosing ++ s).dropWhile isBlank) = none := by
      intro s
      have hclose : isBlank '>' = false := by decide
      have hslash : isBlank '/' = false := by decide
      cases selfClosing with
      | false => simpa [ending, hclose] using Attribute.read?_of_not_isNameChar (by decide) s
      | true => simpa [ending, hslash] using Attribute.read?_of_not_isNameChar (by decide) ('>' :: s)
    cases steps with
    | zero => rfl
    | succ steps => simp only [sectionFrom, List.nil_append, hread]
  | @cons gap s a attributes hne hgap hlegible h ih =>
    have hrest : selfClosing = true → ∀ b ∈ attributes.getLast?, b.isBare = false := by
      intro hslash b hb
      refine hlast hslash b ?_
      rw [List.getLast?_cons, Option.mem_def.mp hb]
      rfl
    have hends := h.ends (a := a) (t := ending selfClosing ++ after) fun hnil => by
      subst hnil
      exact ends_ending (fun hslash => hlast hslash a rfl) after
    obtain ⟨c, raw, hraw, hc⟩ := hlegible.raw_eq_cons
    have hhead : ∀ d ∈ (a.raw ++ (s ++ (ending selfClosing ++ after))).head?, isBlank d = false := by
      intro d hd
      rw [hraw] at hd
      cases hd
      exact Attribute.not_isBlank_of_isNameChar hc
    obtain ⟨htake, hdrop⟩ := Text.takeWhile_append_of_all hgap hhead
    obtain ⟨steps, rfl⟩ : ∃ k, steps = k + 1 := ⟨steps - 1, by simp at hsteps; omega⟩
    simp only [List.append_assoc, sectionFrom, htake, hdrop, hlegible.read?_raw hends,
      ih hrest steps (by simpa using hsteps)]
    simp [hne]

end Tag

namespace OpenTag

/-- An open tag that is written with one space in front of each attribute, and no slash right behind a bare value. -/
structure Legible (tag : OpenTag) : Prop where
  name : Tag.IsName tag.name
  attributes : ∀ a ∈ tag.attributes, a.Legible
  source : tag.source = ('<' : CodePoint) :: tag.name ++ Attribute.spaced tag.attributes ++ Tag.ending tag.selfClosing
  slash : tag.selfClosing = true → ∀ a ∈ tag.attributes.getLast?, a.isBare = false

/-- An open tag that is written with one space in front of each attribute. -/
structure WellFormed (tag : OpenTag) : Prop where
  name : Tag.IsName tag.name
  attributes : ∀ a ∈ tag.attributes, a.WellFormed
  source : tag.source = ('<' : CodePoint) :: tag.name ++ Attribute.spaced tag.attributes ++ Tag.ending tag.selfClosing

theorem WellFormed.legible {tag : OpenTag} (h : tag.WellFormed) : tag.Legible where
  name := h.name
  attributes a ha := (h.attributes a ha).legible
  source := h.source
  slash _ a ha := (h.attributes a (List.mem_of_getLast? ha)).isBare_eq_false

end OpenTag

namespace Tag

/-- A legible open tag is read back. -/
theorem open?_of_legible {tag : OpenTag} (h : tag.Legible) (after : Text) :
    open? (tag.source ++ after) = some (tag, after) := by
  obtain ⟨name, attributes, source, selfClosing⟩ := tag
  obtain ⟨hname, hattributes, hsource, hslash⟩ := h
  simp only at hname hattributes hsource hslash
  subst hsource
  have hhead : ∀ c ∈ (Attribute.spaced attributes ++ (ending selfClosing ++ after)).head?, isNameChar c = false := by
    intro c hc
    cases attributes with
    | nil => cases selfClosing <;> cases hc <;> decide
    | cons a rest => cases hc; decide
  have hfill := Attribute.fill_spaced hattributes
  have hsteps : attributes.length ≤ (Attribute.spaced attributes ++ (ending selfClosing ++ after)).length := by
    have := hfill.length_le
    rw [List.length_append]
    omega
  have hfilled := sectionFrom_of_fill hfill hslash after _ hsteps
  simp only [List.cons_append, List.append_assoc, open?, name?_append hname hhead, Option.bind_eq_bind,
    Option.bind_some, hfilled, openEnd?_ending, hfill.all_eq]
  rfl

/-- A well-formed open tag is read back. -/
theorem open?_source {tag : OpenTag} (h : tag.WellFormed) (after : Text) :
    open? (tag.source ++ after) = some (tag, after) := open?_of_legible h.legible after

/-- The name and the attributes of a tag that is read are legible. -/
theorem legible_of_open? {s after : Text} {tag : OpenTag} (h : open? s = some (tag, after)) :
    IsName tag.name ∧ ∀ a ∈ tag.attributes, a.Legible := by
  unfold open? at h
  split at h
  · simp only [Option.bind_eq_bind, Option.bind_eq_some_iff, Prod.exists] at h
    obtain ⟨name, afterName, hname, closing, slash, after', -, h⟩ := h
    have h := Option.some.inj h
    simp only [Prod.mk.injEq] at h
    obtain ⟨rfl, -⟩ := h
    exact ⟨isName_of_name? hname, fun a ha => Attribute.legible_of_mem_all ha⟩
  · cases h

/-- The close tag of an element. -/
def closer (name : Text) : Text := ('<' : CodePoint) :: '/' :: name ++ (['>'] : Text)

/-- A close tag is read back. -/
theorem close?_closer {name : Text} (h : IsName name) (after : Text) :
    close? (closer name ++ after) = some (name, closer name, after) := by
  have hblank : isBlank '>' = false := by decide
  have hhead : ∀ c ∈ (('>' : CodePoint) :: after).head?, isNameChar c = false := by
    intro c hc
    cases hc
    decide
  simp [closer, close?, name?_append h hhead, hblank]

end Tag

end HtmlTemplate
