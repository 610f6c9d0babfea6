import HtmlTemplate.Proofs.Markup.Tags
import HtmlTemplate.Proofs.Markup.WrittenTag

/-!
# Tags without some of their attributes

A tag that loses attributes is written anew: what is left of them as it was written, with one space in front of each,
and the end of the tag right behind the last one. Read on its own, such a tag is the one it was written for, with one
exception: a slash at the end of a tag goes on with a bare value, and then the tag closes itself no longer
(`open?_without`).
-/

namespace HtmlTemplate

namespace Attribute

/-- The attribute with a slash behind its value. -/
def withSlash (a : Attribute) : Attribute := ⟨a.name, a.value.map (· ++ (['/'] : Text)), a.raw ++ (['/'] : Text)⟩

/-- A slash goes on with a bare value. -/
theorem Legible.withSlash {a : Attribute} (h : a.Legible) (hbare : a.isBare = true) : a.withSlash.Legible := by
  cases h with
  | alone => cases hbare
  | @assigned name front back raw v hne hchars hfront hback hv =>
    cases hv with
    | quoted hquote _ =>
      rw [isBare, isQuoted, any_isQuote_assigned hchars hfront hback] at hbare
      simp [hquote] at hbare
    | bare hv hvchars =>
      have hslash : ∀ c ∈ raw ++ (['/'] : Text), isBareChar c = true := by
        intro c hc
        rcases List.mem_append.mp hc with hc | hc
        · exact hvchars c hc
        · rw [List.mem_singleton.mp hc]
          decide
      have hlegible := Legible.assigned hne hchars hfront hback (.bare (by simp) hslash)
      simpa [Attribute.withSlash] using hlegible

end Attribute

namespace OpenTag

variable {tag : OpenTag}

/-- A tag is written anew as one that is read back, if no slash comes right behind a bare value. -/
theorem legible_withAttributes (hname : Tag.IsName tag.name) {attributes : List Attribute}
    (h : ∀ a ∈ attributes, a.Legible)
    (hslash : tag.selfClosing = true → ∀ a ∈ attributes.getLast?, a.isBare = false) :
    (tag.withAttributes attributes).Legible := ⟨hname, h, rfl, hslash⟩

/-- The slash of a tag that is written anew goes on with a bare value. -/
theorem open?_withAttributes_of_bare (hname : Tag.IsName tag.name) {front : List Attribute} {a : Attribute}
    (h : ∀ b ∈ front ++ [a], b.Legible) (hself : tag.selfClosing = true) (hbare : a.isBare = true) :
    Tag.open? (tag.withAttributes (front ++ [a])).source =
      some (⟨tag.name, front ++ [a.withSlash], (tag.withAttributes (front ++ [a])).source, false⟩, []) := by
  rw [List.forall_mem_append, List.forall_mem_singleton] at h
  -- the same text is how a tag is written whose last value has the slash
  have hsource : (tag.withAttributes (front ++ [a])).source =
      ('<' : CodePoint) :: tag.name ++ Attribute.spaced (front ++ [a.withSlash]) ++ Tag.ending false := by
    simp [withAttributes, hself, Attribute.spaced, Attribute.withSlash, Tag.ending]
  have hlegible : OpenTag.Legible
      ⟨tag.name, front ++ [a.withSlash], (tag.withAttributes (front ++ [a])).source, false⟩ := by
    refine ⟨hname, ?_, hsource, fun hslash => absurd hslash Bool.false_ne_true⟩
    rw [List.forall_mem_append, List.forall_mem_singleton]
    exact ⟨h.1, h.2.withSlash hbare⟩
  have hread := Tag.open?_of_legible hlegible []
  rwa [List.append_nil] at hread

end OpenTag

namespace Markup

/-- **A tag without some of its attributes.** What a tag of a tree becomes without the attributes of some names is read,
on its own, as a tag of the same name, with exactly the attributes that are left and with the same end, unless the tag
closes itself and the last attribute that is left has a bare value: then the slash becomes a part of that value. -/
theorem open?_without {source : Text} {tag : OpenTag} (h : tag ∈ Node.tagsOf (parse source))
    (names : List Text) :
    let kept := tag.attributes.filter fun a => !names.any fun name => a.isCalled name
    let written := (tag.without names).source
    (Tag.open? written = some (⟨tag.name, kept, written, tag.selfClosing⟩, []) ↔
        ¬ (tag.selfClosing = true ∧ ∃ a ∈ kept.getLast?, a.isBare = true)) ∧
      ∀ front a, kept = front ++ [a] → tag.selfClosing = true → a.isBare = true →
        Tag.open? written = some (⟨tag.name, front ++ [a.withSlash], written, false⟩, []) := by
  intro kept written
  obtain ⟨s, after, -, hopen⟩ := exists_open?_of_mem_tagsOf h
  obtain ⟨hname, hattributes⟩ := Tag.legible_of_open? hopen
  have hkept : ∀ a ∈ kept, a.Legible := fun a ha => hattributes a ((List.mem_filter.mp ha).1)
  have hslash : ∀ front a, kept = front ++ [a] → tag.selfClosing = true → a.isBare = true →
      Tag.open? written = some (⟨tag.name, front ++ [a.withSlash], written, false⟩, []) := by
    intro front a heq hself hbare
    have hwritten : written = (tag.withAttributes (front ++ [a])).source := by rw [← heq]; rfl
    rw [hwritten]
    exact OpenTag.open?_withAttributes_of_bare hname (heq ▸ hkept) hself hbare
  refine ⟨⟨?_, fun hnot => ?_⟩, hslash⟩
  · rintro hread ⟨hself, a, ha, hbare⟩
    obtain ⟨front, heq⟩ := List.getLast?_eq_some_iff.mp ha
    rw [hslash front a heq hself hbare, hself] at hread
    simp at hread
  · have hlast : tag.selfClosing = true → ∀ a ∈ kept.getLast?, a.isBare = false := by
      intro hself a ha
      rw [Bool.eq_false_iff]
      exact fun hbare => hnot ⟨hself, a, ha, hbare⟩
    have hread := Tag.open?_of_legible (OpenTag.legible_withAttributes hname hkept hlast) []
    rwa [List.append_nil] at hread

/-- A component with a directive between attributes that are written in all ways. -/
def cardSource : Text := "<p><Card A = 'x' x-if=\"on\" B=\x7b\x7bn\x7d\x7d c/></p>".text

theorem open?_without_card :
    let tag : OpenTag := ⟨"Card".text,
      [⟨"A".text, some "x".text, "A = 'x'".text⟩, ⟨"x-if".text, some "on".text, "x-if=\"on\"".text⟩,
        ⟨"B".text, some "\x7b\x7bn\x7d\x7d".text, "B=\x7b\x7bn\x7d\x7d".text⟩, ⟨"c".text, none, "c".text⟩],
      "<Card A = 'x' x-if=\"on\" B=\x7b\x7bn\x7d\x7d c/>".text, true⟩
    let kept := tag.attributes.filter fun a => !(["X-IF".text].any fun name => a.isCalled name)
    let written := (tag.without ["X-IF".text]).source
    tag ∈ Node.tagsOf (parse cardSource) ∧
      (Tag.open? written = some (⟨tag.name, kept, written, tag.selfClosing⟩, []) ↔
        ¬ (tag.selfClosing = true ∧ ∃ a ∈ kept.getLast?, a.isBare = true)) ∧
      ∀ front a, kept = front ++ [a] → tag.selfClosing = true → a.isBare = true →
        Tag.open? written = some (⟨tag.name, front ++ [a.withSlash], written, false⟩, []) := by
  intro tag kept written
  have htag : tag ∈ Node.tagsOf (parse cardSource) := by decide +kernel
  exact ⟨htag, open?_without htag ["X-IF".text]⟩

/-- An image without its condition: the slash becomes a part of the bare value in front of it. -/
theorem slash_joins_bare_value :
    let tag : OpenTag := ⟨"img".text,
      [⟨"src".text, some "a".text, "src=a".text⟩, ⟨"x-if".text, some "b".text, "x-if='b'".text⟩],
      "<img src=a x-if='b'/>".text, true⟩
    let bare : Text := "<img src=a/>".text
    tag ∈ Node.tagsOf (parse "<img src=a x-if='b'/>".text) ∧ (tag.without ["x-if".text]).source = bare ∧
      Tag.open? bare = some (⟨"img".text, [⟨"src".text, some "a/".text, "src=a/".text⟩], bare, false⟩, []) := by
  refine ⟨?_, ?_, ?_⟩ <;> decide +kernel

end Markup

end HtmlTemplate
