import HtmlTemplate.Pattern.Reader
import HtmlTemplate.Proofs.Markup.WrittenAttribute
import HtmlTemplate.Proofs.Pattern.Matching

/-!
# The pattern of an attribute

The pattern of attributes matches the attribute that is read (`run_pattern`), and nothing where none is read
(`run_pattern_eq_none`). It could match a name, a bare value and an assignment in other ways as well: too short, or not
at all. They do not count if what follows is `Eager`: if it fails where an attribute could end too early whenever it
fails where the attribute ends. So the attributes of a text are the matches of the pattern, one behind the other
(`map_ofMatch_allMatches`).
-/

namespace HtmlTemplate

namespace Attribute

open Pattern Cursor

/-! ## The pattern -/

/-- The pattern of an attribute, as it is written: it keeps the name and the value. -/
def patternSource : Text :=
  "([^\\s\x22\x27<>/=]+)(?:\\s*=\\s*(?:\x22([^\x22]*)\x22|\x27([^\x27]*)\x27|([^\\s\x22\x27=<>\x60]+)))?".text

/-- The set of what is neither a blank nor one of some characters. -/
def neither (s : Text) : CharSet := ⟨true, .ofClass false .blank false :: s.map fun c => .one c.toNat⟩

/-- The characters of a name. -/
def nameSet : CharSet := neither ['\x22', '\x27', '<', '>', '/', '=']

/-- The characters of a bare value. -/
def bareSet : CharSet := neither ['\x22', '\x27', '=', '<', '>', '\x60']

/-- At least `least` blanks, and then another pattern. -/
def gap (least : Nat) (p : Pattern) : Pattern := .sequence (many .exact (blankOr []) least) p

/-- Some characters of a set, kept under a number or not, and then another pattern. -/
def part (kept : Bool) (n : Nat) (set : CharSet) (least : Nat) (p : Pattern) : Pattern :=
  .sequence (if kept then .group (some n) (.sequence (many .exact set least) .nothing) else many .exact set least) p

/-- A value in quotes. -/
def quoted (kept : Bool) (n : Nat) (quote : CodePoint) : Pattern :=
  word .exact [quote] <| part kept n (oneOf true [quote]) 0 <| word .exact [quote] .nothing

/-- A value. -/
def valuePattern (kept : Bool) : Pattern :=
  .choice (quoted kept 2 '\x22') (.choice (quoted kept 3 '\x27') (part kept 4 bareSet 1 .nothing))

/-- An equals sign and a value. -/
def assignment (kept : Bool) : Pattern :=
  gap 0 <| word .exact ['='] <| gap 0 <| .sequence (.group none (valuePattern kept)) .nothing

/-- An equals sign and a value, or nothing. -/
def maybeAssignment (kept : Bool) : Pattern :=
  .sequence (.repetition 0 (some 1) .greedy (.group none (assignment kept))) .nothing

/-- An attribute, the name and the value of which are kept or not. -/
def pattern (kept : Bool) : Pattern := part kept 1 nameSet 1 (maybeAssignment kept)

theorem read_patternSource : (Pattern.read false patternSource).map Prod.fst = .ok (pattern true) := by decide +kernel

/-! ## Sets of characters -/

theorem has_neither (s : Text) (c : CodePoint) : (neither s).has .exact c = !(isBlank c || s.contains c) := by
  have hblank : (CharItem.ofClass false .blank false).has .exact c = isBlank c := by simp [CharItem.has, CharClass.has]
  rw [CharSet.has, neither, List.any_cons, hblank, any_one fun d _ => Folding.exact_same d, Bool.bne_true]

theorem has_nameSet (c : CodePoint) : nameSet.has .exact c = isNameChar c := by
  rw [nameSet, has_neither, isNameChar, isQuote]
  simp only [List.contains_cons, List.contains_nil, Bool.or_false, Bool.or_assoc]

theorem has_bareSet (c : CodePoint) : bareSet.has .exact c = isBareChar c := by
  rw [bareSet, has_neither, isBareChar, isQuote]
  simp only [List.contains_cons, List.contains_nil, Bool.or_false, Bool.or_assoc]

theorem has_allBut (quote c : CodePoint) : (oneOf true [quote]).has .exact c = (c != quote) := by
  have hall := any_one (s := [quote]) (fun d _ => Folding.exact_same d) c
  rw [CharSet.has, oneOf, hall, List.contains_cons, List.contains_nil, Bool.or_false, Bool.bne_true]
  rfl

/-! ## Parts -/

/-- What a part of a match adds to what is kept. -/
def noted (kept : Bool) (n : Nat) (s : Text) (groups : List (Nat × Text)) : List (Nat × Text) :=
  if kept then (n, s) :: groups else groups

section Parts

variable {kept : Bool} {n least : Nat} {set : CharSet} {p : Pattern} {before s rest : Text} {groups : List (Nat × Text)}
  {next : Following}

theorem run_sign (c d : CodePoint) : (word .exact [c] p).run (between before (d :: rest) groups) next =
    if d = c then p.run (between (d :: before) rest groups) next else none := by
  rw [run_word_cons, Folding.exact_same]
  simp only [beq_iff_eq]
  rfl

theorem run_gap (hs : ∀ c ∈ s, isBlank c = true) (hrest : ∀ c ∈ rest.head?, isBlank c = false)
    (hleast : least ≤ s.length)
    (hp : ∀ before c r, isBlank c = true → p.run (between before (c :: r) groups) next = none) :
    (gap least p).run (between before (s ++ rest) groups) next =
      p.run (between (s.reverse ++ before) rest groups) next :=
  run_many_eq (fun c hc => (has_blank c).trans (hs c hc)) (fun c hc => (has_blank c).trans (hrest c hc)) hleast
    fun before c r hc => hp before c r ((has_blank c).symm.trans hc)

theorem run_part_kept (before rest : Text) (groups : List (Nat × Text)) (next : Following) :
    (part true n set least p).run (between before rest groups) next =
      (many .exact set least).run (between before rest groups) fun d =>
        p.run { d with groups := (n, (between before rest groups).textTo d) :: d.groups } next := rfl

/-- A run of characters is taken as a whole, if what follows fails behind every part of it when it fails behind it. -/
theorem run_part (hs : ∀ c ∈ s, set.has .exact c = true) (hrest : ∀ c ∈ rest.head?, set.has .exact c = false)
    (hleast : least ≤ s.length)
    (hp : p.run (between (s.reverse ++ before) rest (noted kept n s groups)) next = none → ∀ u v, s = u ++ v → v ≠ [] →
      ∀ groups', p.run (between (u.reverse ++ before) (v ++ rest) groups') next = none) :
    (part kept n set least p).run (between before (s ++ rest) groups) next =
      p.run (between (s.reverse ++ before) rest (noted kept n s groups)) next := by
  cases kept with
  | false => exact run_many_eq_of_end hs hrest hleast fun hend u v heq hne => hp hend u v heq hne groups
  | true =>
    rw [run_part_kept]
    refine (run_many_eq_of_end hs hrest hleast fun hend u v heq hne => ?_).trans ?_
    · rw [textTo_between] at hend
      exact hp hend u v heq hne _
    · rw [textTo_between]
      rfl

theorem run_part_eq_none (hp : ∀ u v groups', rest = u ++ v → (∀ c ∈ u, set.has .exact c = true) → least ≤ u.length →
      p.run (between (u.reverse ++ before) v groups') next = none) :
    (part kept n set least p).run (between before rest groups) next = none := by
  cases kept with
  | false => exact run_many_eq_none fun u v heq hu hleast => hp u v groups heq hu hleast
  | true => exact run_many_eq_none fun u v heq hu hleast => hp u v _ heq hu hleast

end Parts

/-! ## Reading an attribute -/

/-- What an attribute goes on with behind a place where it could also end: the rest of a name, what is assigned to a
name, or the rest of a bare value. -/
inductive Remainder : Text → Prop
  | name {s : Text} : s ≠ [] → (∀ c ∈ s, isNameChar c = true) → Remainder s
  | assigned {gap s : Text} : (∀ c ∈ gap, isBlank c = true) → Remainder (gap ++ ('=' : CodePoint) :: s)
  | bare {s : Text} : s ≠ [] → (∀ c ∈ s, isBareChar c = true) → Remainder s

/-- What follows an attribute is eager if it fails where the attribute could end too early whenever it fails where the
attribute ends. -/
def Eager (next : Following) : Prop :=
  ∀ {s : Text}, Remainder s → ∀ before rest groups groups',
    next (between (s.reverse ++ before) rest groups) = none → next (between before (s ++ rest) groups') = none

theorem eager_some : Eager some := fun _ _ _ _ _ h => by cases h

section Reading

variable {kept : Bool} {before s : Text} {groups : List (Nat × Text)} {next : Following}

theorem upTo?_eq_none_iff {quote : CodePoint} : upTo? quote s = none ↔ quote ∉ s := by
  induction s with
  | nil => simp [upTo?]
  | cons c s ih =>
    rw [upTo?, List.mem_cons, not_or]
    split
    · rename_i hc
      simp [hc]
    · rename_i hc
      rw [Option.map_eq_none_iff, ih]
      exact ⟨fun h => ⟨Ne.symm hc, h⟩, fun h => h.2⟩

/-- A value in quotes ends at the next quote. -/
theorem run_quoted {n : Nat} {quote : CodePoint} {v : Text} (hv : quote ∉ v) (after : Text) :
    (quoted kept n quote).run (between before (quote :: (v ++ quote :: after)) groups) next =
      next (between ((quote :: (v ++ [quote])).reverse ++ before) after (noted kept n v groups)) := by
  have hchars : ∀ c ∈ v, (oneOf true [quote]).has .exact c = true := by
    intro c hc
    rw [has_allBut, bne_iff_ne]
    exact fun heq => hv (heq ▸ hc)
  have hend : ∀ c ∈ (quote :: after).head?, (oneOf true [quote]).has .exact c = false := by
    intro c hc
    cases hc
    rw [has_allBut, bne_self_eq_false]
  rw [quoted, run_sign, if_pos rfl]
  refine (run_part hchars hend (Nat.zero_le _) fun _ u w heq hne groups' => ?_).trans ?_
  · obtain ⟨c, w, rfl⟩ := List.exists_cons_of_ne_nil hne
    rw [List.cons_append, run_sign, if_neg]
    rintro rfl
    exact hv (heq ▸ List.mem_append_right u List.mem_cons_self)
  · rw [run_sign, if_pos rfl]
    simp only [List.reverse_cons, List.reverse_append, List.reverse_nil, List.nil_append, List.append_assoc,
      List.cons_append]
    rfl

theorem run_quoted_of_ne {n : Nat} {quote c : CodePoint} (hc : c ≠ quote) (rest : Text) :
    (quoted kept n quote).run (between before (c :: rest) groups) next = none := by
  rw [quoted, run_sign, if_neg hc]

theorem run_quoted_unclosed {n : Nat} {quote : CodePoint} {rest : Text} (hquote : quote ∉ rest) :
    (quoted kept n quote).run (between before (quote :: rest) groups) next = none := by
  rw [quoted, run_sign, if_pos rfl]
  refine run_part_eq_none fun u v groups' heq _ _ => ?_
  cases v with
  | nil => rfl
  | cons c v =>
    rw [run_sign, if_neg]
    rintro rfl
    exact hquote (heq ▸ List.mem_append_right u List.mem_cons_self)

theorem run_bare (hnext : Eager next) {v after : Text} (hne : v ≠ []) (hv : ∀ c ∈ v, isBareChar c = true)
    (hafter : ∀ c ∈ after.head?, isBareChar c = false) :
    (part kept 4 bareSet 1 .nothing).run (between before (v ++ after) groups) next =
      next (between (v.reverse ++ before) after (noted kept 4 v groups)) := by
  refine run_part (fun c hc => (has_bareSet c).trans (hv c hc)) (fun c hc => (has_bareSet c).trans (hafter c hc))
    (List.length_pos_iff.mpr hne) fun hend u w heq hne groups' => ?_
  have hw : Remainder w := .bare hne fun c hc => hv c (heq ▸ List.mem_append_right u hc)
  subst heq
  rw [List.reverse_append, List.append_assoc] at hend
  exact hnext hw _ _ _ _ hend

theorem run_bare_eq_none (hs : ∀ c ∈ s.head?, isBareChar c = false) :
    (part kept 4 bareSet 1 .nothing).run (between before s groups) next = none := by
  refine run_part_eq_none fun u w groups' heq hu hleast => ?_
  cases u with
  | nil => cases hleast
  | cons c u =>
    have hc := hs c (by rw [heq]; rfl)
    rw [← has_bareSet, hu c List.mem_cons_self] at hc
    cases hc

theorem eq_of_isQuote {c : CodePoint} (h : isQuote c = true) : c = '\x22' ∨ c = '\x27' := by
  simpa [isQuote] using h

theorem not_isBareChar_of_isQuote {c : CodePoint} (h : isQuote c = true) : isBareChar c = false := by
  simp [isBareChar, h]

/-- A value in quotes, a bare value, or none: then the text begins with none of the characters of a bare value, and with
a quote only if that is never closed. -/
theorem written?_cases (s : Text) :
    (∃ quote v after, isQuote quote = true ∧ quote ∉ v ∧ s = quote :: (v ++ quote :: after) ∧
      written? s = some (quote :: (v ++ [quote]), v, after)) ∨
    (∃ v after, v ≠ [] ∧ (∀ c ∈ v, isBareChar c = true) ∧ (∀ c ∈ after.head?, isBareChar c = false) ∧ s = v ++ after ∧
      written? s = some (v, v, after)) ∨
    (∀ c ∈ s.head?, isBareChar c = false) ∧ (∀ quote rest, isQuote quote = true → s = quote :: rest → quote ∉ rest) ∧
      written? s = none := by
  cases s with
  | nil => exact .inr (.inr ⟨nofun, nofun, rfl⟩)
  | cons c rest =>
    rw [written?]
    split
    · rename_i hquote
      cases hup : upTo? c rest with
      | none =>
        refine .inr (.inr ⟨fun d hd => ?_, fun quote rest' _ heq => ?_, rfl⟩)
        · cases hd
          exact not_isBareChar_of_isQuote hquote
        · cases heq
          exact upTo?_eq_none_iff.mp hup
      | some found =>
        obtain ⟨v, after⟩ := found
        exact .inl ⟨c, v, after, hquote, notMem_of_upTo? hup, congrArg (c :: ·) (append_of_upTo? hup), rfl⟩
    · rename_i hquote
      split
      · rename_i hbare
        refine .inr (.inl ⟨_, _, ?_, fun d hd => List.mem_takeWhile_imp hd, fun d hd => ?_,
          (List.takeWhile_append_dropWhile).symm, rfl⟩)
        · rw [List.takeWhile_cons_of_pos hbare]
          exact List.cons_ne_nil _ _
        · exact Text.head?_dropWhile isBareChar _ d hd
      · rename_i hbare
        refine .inr (.inr ⟨fun d hd => ?_, fun quote rest' hq heq => ?_, rfl⟩)
        · cases hd
          simpa using hbare
        · cases heq
          exact absurd hq hquote

/-- A value is kept under one of three numbers. -/
theorem run_value (kept : Bool) (before : Text) (groups : List (Nat × Text)) (hnext : Eager next) {raw v after : Text}
    (h : written? s = some (raw, v, after)) :
    ∃ n ∈ [2, 3, 4], (valuePattern kept).run (between before s groups) next =
      next (between (raw.reverse ++ before) after (noted kept n v groups)) := by
  rcases written?_cases s with ⟨quote, v, after, hquote, hv, rfl, hs⟩ | ⟨v, after, hne, hv, hafter, rfl, hs⟩ |
    ⟨-, -, hs⟩
  · cases h.symm.trans hs
    have hbare : ∀ d ∈ (quote :: (v ++ quote :: after)).head?, isBareChar d = false := by
      intro d hd
      cases hd
      exact not_isBareChar_of_isQuote hquote
    rcases eq_of_isQuote hquote with rfl | rfl
    · refine ⟨2, by decide, ?_⟩
      rw [valuePattern, run, run, run_quoted hv, run_quoted_of_ne (by decide), run_bare_eq_none hbare]
      exact orElse_eq_first fun _ => rfl
    · refine ⟨3, by decide, ?_⟩
      rw [valuePattern, run, run, run_quoted_of_ne (by decide), run_quoted hv, run_bare_eq_none hbare, orElse_none]
      exact orElse_eq_first fun _ => rfl
  · cases h.symm.trans hs
    obtain ⟨c, v, rfl⟩ := List.exists_cons_of_ne_nil hne
    have hc := not_isQuote_of_isBareChar (hv c List.mem_cons_self)
    have hdouble : c ≠ '\x22' := by
      rintro rfl
      cases hc
    have hsingle : c ≠ '\x27' := by
      rintro rfl
      cases hc
    refine ⟨4, by decide, ?_⟩
    rw [valuePattern, run, run, List.cons_append, run_quoted_of_ne hdouble, run_quoted_of_ne hsingle]
    exact run_bare hnext hne hv hafter
  · cases h.symm.trans hs

theorem run_quoted_eq_none {n : Nat} {quote : CodePoint} (h : ∀ rest, s = quote :: rest → quote ∉ rest) :
    (quoted kept n quote).run (between before s groups) next = none := by
  cases s with
  | nil => rfl
  | cons c rest =>
    by_cases hc : c = quote
    · subst hc
      exact run_quoted_unclosed (h rest rfl)
    · exact run_quoted_of_ne hc rest

theorem run_value_eq_none (h : written? s = none) :
    (valuePattern kept).run (between before s groups) next = none := by
  rcases written?_cases s with ⟨_, _, _, -, -, -, hs⟩ | ⟨_, _, -, -, -, -, hs⟩ | ⟨hbare, hquote, -⟩
  · cases h.symm.trans hs
  · cases h.symm.trans hs
  · rw [valuePattern, run, run, run_quoted_eq_none fun rest => hquote _ rest rfl,
      run_quoted_eq_none fun rest => hquote _ rest rfl, run_bare_eq_none hbare]
    rfl

theorem written?_of_isBlank {c : CodePoint} (hc : isBlank c = true) (rest : Text) : written? (c :: rest) = none := by
  have hquote : isQuote c = false := not_isQuote_of_isBlank hc
  simp [written?, hquote, not_isBareChar_of_isBlank hc]

/-- An equals sign may have blanks on both sides. -/
theorem run_equals {front back t : Text} (hfront : ∀ c ∈ front, isBlank c = true) (hback : ∀ c ∈ back, isBlank c = true)
    (ht : ∀ c ∈ t.head?, isBlank c = false) :
    (assignment kept).run (between before (front ++ ('=' : CodePoint) :: (back ++ t)) groups) next =
      (valuePattern kept).run (between ((front ++ ('=' : CodePoint) :: back).reverse ++ before) t groups) next := by
  have hhead : ∀ c ∈ (('=' : CodePoint) :: (back ++ t)).head?, isBlank c = false := by
    intro c hc
    cases hc
    exact isBlank_equals
  refine (run_gap hfront hhead (Nat.zero_le _) fun before c r hc => ?_).trans ?_
  · rw [run_sign, if_neg]
    rintro rfl
    rw [isBlank_equals] at hc
    cases hc
  · rw [run_sign, if_pos rfl]
    refine (run_gap hback ht (Nat.zero_le _) fun before c r hc => run_value_eq_none (written?_of_isBlank hc r)).trans ?_
    rw [List.reverse_append, List.reverse_cons, List.append_assoc, List.append_assoc]
    rfl

theorem run_assignment (kept : Bool) (before : Text) (groups : List (Nat × Text)) (hnext : Eager next)
    {raw v after : Text} (h : assigned? s = some (raw, v, after)) :
    ∃ n ∈ [2, 3, 4], (assignment kept).run (between before s groups) next =
      next (between (raw.reverse ++ before) after (noted kept n v groups)) := by
  have hs := (List.takeWhile_append_dropWhile (p := isBlank) (l := s)).symm
  rw [assigned?] at h
  split at h
  · rename_i rest hrest
    simp only [Option.map_eq_some_iff, Prod.mk.injEq, Prod.exists] at h
    obtain ⟨written, v, after, hwritten, rfl, rfl, rfl⟩ := h
    obtain ⟨n, hn, hrun⟩ := run_value kept
      ((s.takeWhile isBlank ++ ('=' : CodePoint) :: rest.takeWhile isBlank).reverse ++ before) groups hnext hwritten
    refine ⟨n, hn, ?_⟩
    rw [hrest, ← List.takeWhile_append_dropWhile (p := isBlank) (l := rest)] at hs
    rw [List.reverse_append, List.append_assoc, ← hrun, ← run_equals (fun c hc => List.mem_takeWhile_imp hc)
      (fun c hc => List.mem_takeWhile_imp hc) (Text.head?_dropWhile isBlank rest), ← hs]
  · cases h

theorem run_assignment_eq_none (h : assigned? s = none) :
    (assignment kept).run (between before s groups) next = none := by
  have hs := (List.takeWhile_append_dropWhile (p := isBlank) (l := s)).symm
  rw [assigned?] at h
  split at h
  · rename_i rest hrest
    rw [Option.map_eq_none_iff] at h
    rw [hrest, ← List.takeWhile_append_dropWhile (p := isBlank) (l := rest)] at hs
    rw [hs, run_equals (fun c hc => List.mem_takeWhile_imp hc) (fun c hc => List.mem_takeWhile_imp hc)
      (Text.head?_dropWhile isBlank rest), run_value_eq_none h]
  · rename_i hother
    have hword : ∀ before t, (∀ rest, t ≠ ('=' : CodePoint) :: rest) →
        (word .exact ['='] (gap 0 (.sequence (.group none (valuePattern kept)) .nothing))).run
          (between before t groups) next = none := by
      intro before t ht
      cases t with
      | nil => rfl
      | cons c t =>
        rw [run_sign, if_neg]
        rintro rfl
        exact ht t rfl
    rw [hs]
    refine (run_gap (fun c hc => List.mem_takeWhile_imp hc) (Text.head?_dropWhile isBlank s) (Nat.zero_le _)
      fun before c r hc => hword _ _ fun rest heq => ?_).trans (hword _ _ hother)
    cases heq
    cases hc

theorem remainder_of_assigned? {raw v after : Text} (h : assigned? s = some (raw, v, after)) : Remainder raw := by
  rw [assigned?] at h
  split at h
  · simp only [Option.map_eq_some_iff, Prod.mk.injEq, Prod.exists] at h
    obtain ⟨written, v, after, -, rfl, -⟩ := h
    rw [List.append_assoc]
    exact .assigned fun c hc => List.mem_takeWhile_imp hc
  · cases h

theorem run_maybeAssignment (c : Cursor) (next : Following) :
    (maybeAssignment kept).run c next = orElse ((assignment kept).run c next) fun _ => next c := run_optional ..

/-- What an attribute adds to what is kept: its name, and its value under one of three numbers. -/
def Keeps (kept : Bool) (a : Attribute) (groups groups' : List (Nat × Text)) : Prop :=
  match a.value with
  | none => groups' = noted kept 1 a.name groups
  | some v => ∃ n ∈ [2, 3, 4], groups' = noted kept n v (noted kept 1 a.name groups)

theorem Keeps.eq {a : Attribute} {groups groups' : List (Nat × Text)} (h : Keeps false a groups groups') :
    groups' = groups := by
  rw [Keeps] at h
  split at h
  · exact h
  · obtain ⟨n, -, h⟩ := h
    exact h

/-- A name is taken as a whole. -/
theorem run_name (kept : Bool) (before : Text) (groups : List (Nat × Text)) (hnext : Eager next) {name t : Text}
    (hne : name ≠ []) (hname : ∀ c ∈ name, isNameChar c = true) (ht : ∀ c ∈ t.head?, isNameChar c = false) :
    (pattern kept).run (between before (name ++ t) groups) next =
      (maybeAssignment kept).run (between (name.reverse ++ before) t (noted kept 1 name groups)) next := by
  refine run_part (fun c hc => (has_nameSet c).trans (hname c hc)) (fun c hc => (has_nameSet c).trans (ht c hc))
    (List.length_pos_iff.mpr hne) fun hend u v heq hv groups' => ?_
  subst heq
  have hchars : ∀ c ∈ v, isNameChar c = true := fun c hc => hname c (List.mem_append_right u hc)
  rw [run_maybeAssignment] at hend ⊢
  have hbehind := eq_none_of_orElse hend
  rw [List.reverse_append, List.append_assoc] at hbehind
  -- behind a part of the name stands the rest of it, and no equals sign
  have hassigned : assigned? (v ++ t) = none := by
    obtain ⟨c, v, rfl⟩ := List.exists_cons_of_ne_nil hv
    change assigned? ([] ++ c :: (v ++ t)) = none
    exact assigned?_append_of_isNameChar (List.forall_mem_nil _) (hchars c List.mem_cons_self) (v ++ t)
  rw [run_assignment_eq_none hassigned]
  exact hnext (.name hv hchars) _ _ _ _ hbehind

/-- The pattern matches the attribute that is read, if what follows is eager. -/
theorem run_pattern (kept : Bool) (before : Text) (groups : List (Nat × Text)) (hnext : Eager next) {a : Attribute}
    {after : Text} (h : read? s = some (a, after)) :
    ∃ groups', Keeps kept a groups groups' ∧
      (pattern kept).run (between before s groups) next = next (between (a.raw.reverse ++ before) after groups') := by
  have hs := (List.takeWhile_append_dropWhile (p := isNameChar) (l := s)).symm
  simp only [read?] at h
  split at h
  · cases h
  · rename_i hname
    have hne : s.takeWhile isNameChar ≠ [] := by simpa using hname
    have hrun := run_name kept before groups hnext hne (fun c hc => List.mem_takeWhile_imp hc)
      (Text.head?_dropWhile isNameChar s)
    rw [← hs, run_maybeAssignment] at hrun
    split at h
    · rename_i raw v rest hassigned
      cases h
      have hrest := append_of_assigned? hassigned
      obtain ⟨n, hn, hvalue⟩ := run_assignment kept ((s.takeWhile isNameChar).reverse ++ before)
        (noted kept 1 (s.takeWhile isNameChar) groups) hnext hassigned
      refine ⟨_, ⟨n, hn, rfl⟩, ?_⟩
      rw [hrun, List.reverse_append, List.append_assoc, ← hvalue]
      refine orElse_eq_first fun hnone => ?_
      rw [hvalue] at hnone
      rw [hrest]
      exact hnext (remainder_of_assigned? hassigned) _ _ _ _ hnone
    · rename_i hassigned
      cases h
      refine ⟨_, rfl, ?_⟩
      rw [hrun, run_assignment_eq_none hassigned]
      rfl

/-- The pattern matches nowhere else. -/
theorem run_pattern_eq_none (h : read? s = none) : (pattern kept).run (between before s groups) next = none := by
  refine run_part_eq_none fun u v groups' heq hu hleast => ?_
  cases u with
  | nil => cases hleast
  | cons c u =>
    have hc : isNameChar c = true := (has_nameSet c).symm.trans (hu c List.mem_cons_self)
    rw [heq, List.cons_append, read?, List.takeWhile_cons_of_pos hc] at h
    simp only [List.isEmpty_cons, Bool.false_eq_true, if_false] at h
    split at h <;> cases h

end Reading

/-! ## All attributes of a text -/

/-- The attribute in a match: the name, the value under the number under which one is kept, and the whole match. -/
def ofMatch (found : Cursor × Cursor) : Attribute where
  name := (found.2.groups.lookup 1).getD []
  value := (found.2.groups.lookup 2).or ((found.2.groups.lookup 3).or (found.2.groups.lookup 4))
  raw := found.1.textTo found.2

theorem ofMatch_of_keeps {a : Attribute} {before after back : Text} {groups : List (Nat × Text)}
    (h : Keeps true a [] groups) :
    ofMatch (between before (a.raw ++ after) [], between back after groups) = a := by
  obtain ⟨name, value, raw⟩ := a
  rw [ofMatch, textTo_between]
  cases value with
  | none =>
    cases h
    rfl
  | some v =>
    obtain ⟨n, hn, rfl⟩ := h
    simp only [List.mem_cons, List.not_mem_nil, or_false] at hn
    rcases hn with rfl | rfl | rfl <;> rfl

/-- **The attributes of a text are the matches of the pattern.** -/
theorem map_ofMatch_allMatches (s : Text) : ((pattern true).allMatches s).map ofMatch = all s := by
  -- a search passes characters without using up a step, so the induction is on the length
  have hfrom : ∀ (n : Nat) (s before : Text) (steps : Nat), s.length ≤ n → s.length ≤ steps →
      ((pattern true).matchesFrom steps (between before s [])).map ofMatch = all s := by
    intro n
    induction n with
    | zero =>
      intro s before steps hn _
      obtain rfl := List.length_eq_zero_iff.mp (Nat.le_zero.mp hn)
      rw [matchesFrom_nil (run_pattern_eq_none rfl)]
      rfl
    | succ n ih =>
      intro s before steps hn hsteps
      cases hread : read? s with
      | none =>
        cases s with
        | nil =>
          rw [matchesFrom_nil (run_pattern_eq_none hread)]
          rfl
        | cons c rest =>
          rw [List.length_cons] at hn hsteps
          rw [matchesFrom_cons (run_pattern_eq_none hread), all_cons_of_read? hread]
          exact ih rest _ steps (by omega) (by omega)
      | some found =>
        obtain ⟨a, after⟩ := found
        have hlt := length_lt_of_read? hread
        obtain ⟨groups, hkeeps, hrun⟩ := run_pattern true before [] eager_some hread
        obtain ⟨steps, rfl⟩ : ∃ k, steps = k + 1 := ⟨steps - 1, by omega⟩
        rw [matchesFrom_of_run hrun, List.map_cons, all_of_read? hread]
        congr 1
        · rw [append_of_read? hread]
          exact ofMatch_of_keeps hkeeps
        · exact ih after _ steps (by omega) (by omega)
  exact hfrom s.length s [] s.length (Nat.le_refl _) (Nat.le_refl _)

end Attribute

end HtmlTemplate
