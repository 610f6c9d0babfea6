import HtmlTemplate.Interpolation.Escape
import Mathlib.Data.List.Basic

/-!
# Escaping, character by character

The five passes of the escaping do not get in each other's way, for no entity holds a character that a later pass looks
for (`foldl_replaceChar`). So the escaping puts its entity for each character at once, wherever the character stands.
The entities are told from each other and from all other characters by their fronts, and reading them back gives the
text (`unescapeHtml_escapeHtml`); whatever looks like markup in the result is an entity (`escapeHtml_at_once`).
-/

namespace HtmlTemplate

namespace Text

/-! ## Passes over a text -/

/-- What a table has for a character; a character that it does not have stands for itself. -/
def substitute (table : List (CodePoint × Text)) (c : CodePoint) : Text := (table.lookup c).getD [c]

theorem replaceChar_eq_flatMap (c : CodePoint) (replacement s : Text) :
    replaceChar c replacement s = s.flatMap fun d => if d = c then replacement else [d] := by
  induction s with
  | nil => rfl
  | cons d rest ih => rw [replaceChar, ih, List.flatMap_cons]

theorem flatMap_substitute_of_notMem {table : List (CodePoint × Text)} {s : Text} (h : ∀ pass ∈ table, pass.1 ∉ s) :
    s.flatMap (substitute table) = s := by
  have hself : ∀ c ∈ s, substitute table c = [c] := by
    intro c hc
    have hnone : table.lookup c = none := by
      rw [List.lookup_eq_none_iff]
      intro pass hpass
      simpa using fun heq : c = pass.1 => h pass hpass (heq ▸ hc)
    simp [substitute, hnone]
  induction s with
  | nil => rfl
  | cons c s ih =>
    have hrest := ih (fun pass hpass hmem => h pass hpass (List.mem_cons_of_mem c hmem))
      fun d hd => hself d (List.mem_cons_of_mem c hd)
    simp [hself c List.mem_cons_self, hrest]

/-- Passes over a text, each of which puts in nothing that a later one looks for, replace all characters at once. -/
theorem foldl_replaceChar {table : List (CodePoint × Text)} (h : table.Pairwise fun pass later => later.1 ∉ pass.2)
    (s : Text) :
    table.foldl (fun s (c, replacement) => replaceChar c replacement s) s = s.flatMap (substitute table) := by
  induction table generalizing s with
  | nil => exact (flatMap_substitute_of_notMem (by simp)).symm
  | cons pass rest ih =>
    obtain ⟨c, replacement⟩ := pass
    obtain ⟨hlater, hrest⟩ := List.pairwise_cons.mp h
    rw [List.foldl_cons, ih hrest]
    dsimp only
    rw [replaceChar_eq_flatMap, List.flatMap_assoc]
    congr 1
    funext d
    by_cases hd : d = c
    · simp [hd, substitute, flatMap_substitute_of_notMem hlater]
    · have hne : (d == c) = false := by simpa using hd
      simp [hd, hne, substitute, List.lookup_cons]

end Text

/-! ## Entities -/

theorem escapeHtml_eq (s : Text) : escapeHtml s = s.flatMap (Text.substitute entities) :=
  Text.foldl_replaceChar (by decide) s

theorem escapeHtml_cons (c : CodePoint) (s : Text) :
    escapeHtml (c :: s) = Text.substitute entities c ++ escapeHtml s := by
  simp [escapeHtml_eq]

/-- What stands for a character: its entity, or the character if it is none that means something. -/
theorem substitute_cases (c : CodePoint) :
    (c, Text.substitute entities c) ∈ entities ∨ Text.substitute entities c = [c] ∧ c ∉ entities.map Prod.fst := by
  by_cases h : c ∈ entities.map Prod.fst
  · have hall : ∀ entry ∈ entities, (entry.1, Text.substitute entities entry.1) ∈ entities := by decide
    obtain ⟨entry, hentry, rfl⟩ := List.mem_map.mp h
    exact .inl (hall entry hentry)
  · have hnone : entities.lookup c = none := by
      rw [List.lookup_eq_none_iff]
      intro entry hentry
      simpa using fun heq : c = entry.1 => h (heq ▸ List.mem_map_of_mem hentry)
    exact .inr ⟨by simp [Text.substitute, hnone], h⟩

/-- The entity at the front of a text: the character that it stands for, and the text after it. -/
def entityAt? (s : Text) : Option (CodePoint × Text) :=
  entities.findSome? fun (c, entity) => (entity.isPrefixOf? s).map fun after => (c, after)

theorem length_lt_of_entityAt? {s after : Text} {c : CodePoint} (h : entityAt? s = some (c, after)) :
    after.length < s.length := by
  obtain ⟨⟨d, entity⟩, hmem, hfound⟩ := List.exists_of_findSome?_eq_some h
  obtain ⟨rest, hprefix, heq⟩ := Option.map_eq_some_iff.mp hfound
  cases heq
  have hpos : ∀ entry ∈ entities, 0 < entry.2.length := by decide
  have hentity : 0 < entity.length := hpos _ hmem
  have hlength := congrArg List.length (Text.append_of_isPrefixOf? hprefix)
  rw [List.length_append] at hlength
  omega

/-- The text with the characters that its entities stand for. -/
def unescapeHtml : Text → Text
  | [] => []
  | c :: rest =>
    match _h : entityAt? (c :: rest) with
    | some (d, after) => d :: unescapeHtml after
    | none => c :: unescapeHtml rest
termination_by s => s.length
decreasing_by
  · exact length_lt_of_entityAt? ‹_›
  · exact Nat.lt_succ_self _

/-- No entity is the front of another one, so each is read as what it is. -/
theorem entityAt?_entity {c : CodePoint} {entity : Text} (h : (c, entity) ∈ entities) (rest : Text) :
    entityAt? (entity ++ rest) = some (c, rest) := by
  simp only [entities, List.mem_cons, Prod.mk.injEq, List.not_mem_nil, or_false] at h
  rcases h with ⟨rfl, rfl⟩ | ⟨rfl, rfl⟩ | ⟨rfl, rfl⟩ | ⟨rfl, rfl⟩ | ⟨rfl, rfl⟩ <;> rfl

/-- Every entity begins with the ampersand, and holds no other one. -/
theorem exists_of_mem_entities {entry : CodePoint × Text} (h : entry ∈ entities) :
    ∃ name, entry.2 = ('&' : CodePoint) :: name ∧ ('&' : CodePoint) ∉ name := by
  have hall : ∀ entry ∈ entities, entry.2 = ('&' : CodePoint) :: entry.2.tail ∧ ('&' : CodePoint) ∉ entry.2.tail := by
    decide
  exact ⟨_, hall entry h⟩

theorem entityAt?_of_ne {c : CodePoint} (h : c ≠ '&') (rest : Text) : entityAt? (c :: rest) = none := by
  rw [entityAt?, List.findSome?_eq_none_iff]
  intro entry hentry
  obtain ⟨name, hname, -⟩ := exists_of_mem_entities hentry
  simp [hname, List.isPrefixOf?, h.symm]

theorem unescapeHtml_entity {c : CodePoint} {entity : Text} (h : (c, entity) ∈ entities) (rest : Text) :
    unescapeHtml (entity ++ rest) = c :: unescapeHtml rest := by
  have hat := entityAt?_entity h rest
  obtain ⟨name, rfl, -⟩ := exists_of_mem_entities h
  rw [List.cons_append] at hat ⊢
  rw [unescapeHtml]
  split
  · rename_i d after hd
    rw [hat] at hd
    cases hd
    rfl
  · rename_i hnone
    rw [hat] at hnone
    cases hnone

theorem unescapeHtml_of_ne {c : CodePoint} (h : c ≠ '&') (rest : Text) :
    unescapeHtml (c :: rest) = c :: unescapeHtml rest := by
  rw [unescapeHtml]
  split
  · rename_i d after hd
    rw [entityAt?_of_ne h] at hd
    cases hd
  · rfl

theorem ampersand_mem_entities : ('&' : CodePoint) ∈ entities.map Prod.fst := by decide

theorem unescapeHtml_escapeHtml (s : Text) : unescapeHtml (escapeHtml s) = s := by
  induction s with
  | nil => rw [escapeHtml_eq, List.flatMap_nil, unescapeHtml]
  | cons c s ih =>
    rw [escapeHtml_cons]
    rcases substitute_cases c with hmem | ⟨hself, hnot⟩
    · rw [unescapeHtml_entity hmem, ih]
    · have hne : c ≠ '&' := fun heq => hnot (heq ▸ ampersand_mem_entities)
      rw [hself, List.singleton_append, unescapeHtml_of_ne hne, ih]

/-! ## What is left of markup -/

/-- What is put in for a character holds no quotation mark and no angle bracket. -/
theorem notMem_substitute {c : CodePoint} (hc : c ∈ entities.map Prod.fst) (hne : c ≠ '&') (d : CodePoint) :
    c ∉ Text.substitute entities d := by
  rcases substitute_cases d with hmem | ⟨hself, hnot⟩
  · have hall : ∀ entry ∈ entities, entry.1 ≠ '&' → ∀ other ∈ entities, entry.1 ∉ other.2 := by decide
    obtain ⟨entry, hentry, rfl⟩ := List.mem_map.mp hc
    exact hall entry hentry hne _ hmem
  · rw [hself, List.mem_singleton]
    exact fun heq => hnot (heq ▸ hc)

theorem notMem_escapeHtml {c : CodePoint} (hc : c ∈ entities.map Prod.fst) (hne : c ≠ '&') (s : Text) :
    c ∉ escapeHtml s := by
  rw [escapeHtml_eq, List.mem_flatMap]
  rintro ⟨d, -, hmem⟩
  exact notMem_substitute hc hne d hmem

/-- An ampersand in what is put in for a character is the first of an entity. -/
theorem mem_entities_of_ampersand {c : CodePoint} {before after : Text}
    (h : Text.substitute entities c = before ++ ('&' : CodePoint) :: after) :
    before = [] ∧ (c, ('&' : CodePoint) :: after) ∈ entities := by
  rcases substitute_cases c with hmem | ⟨hself, hnot⟩
  · obtain ⟨name, hname, hnone⟩ := exists_of_mem_entities hmem
    rw [h] at hmem
    replace hname : before ++ ('&' : CodePoint) :: after = ('&' : CodePoint) :: name := h.symm.trans hname
    cases before with
    | nil => exact ⟨rfl, hmem⟩
    | cons d before =>
      rw [List.cons_append, List.cons.injEq] at hname
      exact absurd (hname.2 ▸ List.mem_append_right before List.mem_cons_self) hnone
  · have hc : ('&' : CodePoint) ∈ [c] := hself ▸ h ▸ List.mem_append_right before List.mem_cons_self
    rw [List.mem_singleton] at hc
    exact absurd (hc ▸ ampersand_mem_entities) hnot

theorem exists_entity_of_suffix {s after : Text} (h : ('&' : CodePoint) :: after <:+ escapeHtml s) :
    ∃ entry ∈ entities, entry.2 <+: '&' :: after := by
  induction s with
  | nil => exact absurd (List.suffix_nil.mp h) (List.cons_ne_nil _ _)
  | cons c s ih =>
    obtain ⟨before, hbefore⟩ := h
    rw [escapeHtml_cons] at hbefore
    rcases List.append_eq_append_iff.mp hbefore with ⟨front, hfront, hback⟩ | ⟨front, -, hback⟩
    · cases front with
      | nil => exact ih ⟨[], hback⟩
      | cons d front =>
        -- the ampersand is in what stands for `c`
        rw [List.cons_append, List.cons.injEq] at hback
        obtain ⟨rfl, rfl⟩ := hback
        obtain ⟨-, hmem⟩ := mem_entities_of_ampersand hfront
        exact ⟨_, hmem, List.prefix_append (('&' : CodePoint) :: front) _⟩
    · exact ih ⟨front, hback.symm⟩

/-- **Escaping at once.** The passes of the escaping put, for each of the five characters that mean something in HTML,
its entity in the place of the character, and leave all other characters. So the escaping of two texts one after the
other is that of each; reading the entities back gives the text, so no two texts are escaped alike; and the result
holds no angle bracket, no quotation mark, and no ampersand but those that begin one of the five entities. -/
theorem escapeHtml_at_once :
    (∀ s, escapeHtml s = s.flatMap fun c => (entities.lookup c).getD [c]) ∧
      (∀ s t, escapeHtml (s ++ t) = escapeHtml s ++ escapeHtml t) ∧
      (∀ s, unescapeHtml (escapeHtml s) = s) ∧ Function.Injective escapeHtml ∧
      (∀ s, ∀ c ∈ (['<', '>', '\x22', '\x27'] : Text), c ∉ escapeHtml s) ∧
      ∀ s after, ('&' : CodePoint) :: after <:+ escapeHtml s → ∃ entry ∈ entities, entry.2 <+: '&' :: after := by
  refine ⟨escapeHtml_eq, fun s t => ?_, unescapeHtml_escapeHtml, ?_, fun s c hc => ?_, fun s after h => ?_⟩
  · simp only [escapeHtml_eq, List.flatMap_append]
  · exact Function.LeftInverse.injective unescapeHtml_escapeHtml
  · simp only [List.mem_cons, List.not_mem_nil, or_false] at hc
    rcases hc with rfl | rfl | rfl | rfl <;> exact notMem_escapeHtml (by decide) (by decide) s
  · exact exists_entity_of_suffix h

theorem escapeHtml_at_once_ampersand :
    ('&' : CodePoint) :: "amp;lt;".text <:+ escapeHtml "<&lt;".text ∧
      unescapeHtml (escapeHtml "<&lt;".text) = "<&lt;".text ∧
      ∃ entry ∈ entities, entry.2 <+: '&' :: "amp;lt;".text := by
  obtain ⟨-, -, hunescape, -, -, hentity⟩ := escapeHtml_at_once
  have hsuffix : ('&' : CodePoint) :: "amp;lt;".text <:+ escapeHtml "<&lt;".text := by decide
  exact ⟨hsuffix, hunescape _, hentity _ _ hsuffix⟩

end HtmlTemplate
