import HtmlTemplate.Proofs.Markup.AttributePattern
import HtmlTemplate.Proofs.Markup.WrittenTag

/-!
# The pattern of an open tag

The pattern of open tags matches the tag that is read, and nothing where none is read (`match_cases`). It tries an
attribute more before one less, and for each attribute the ways that the pattern of attributes has; but neither another
attribute nor the end of the tag begins where an attribute could end too early (`eager_afterRound`, `final_end`). One
place is in doubt: the slash at the end of a bare value could be the one of the tag. A tag ends behind that slash as
well, so it stays in the value (`openEnd?_of_remainder`). Hence the attributes are matched as they are read
(`runRounds_attributePattern`), and the pattern of attributes finds in them what the pattern of tags has matched there
(`fill_of_match`).
-/

namespace HtmlTemplate

namespace Tag

open Pattern Cursor

/-! ## The pattern -/

/-- The pattern of an open tag, as it is written: it keeps the name, the attributes and the slash. -/
def patternSource : Text :=
  ("<([A-Za-z][\\w:.\\-]*)" ++
    "((?:\\s+[^\\s\x22\x27<>/=]+(?:\\s*=\\s*(?:\x22[^\x22]*\x22|\x27[^\x27]*\x27|[^\\s\x22\x27=<>\x60]+))?)*)" ++
    "\\s*(/?)>").text

/-- The letters that a name begins with. -/
def startSet : CharSet := ⟨false, [.range 'A'.toNat 'Z'.toNat, .range 'a'.toNat 'z'.toNat]⟩

/-- The characters that a name goes on with. -/
def tailSet : CharSet := ⟨false, .ofClass false .word false :: ([':', '.', '-'] : Text).map fun c => .one c.toNat⟩

/-- A name, which is kept, and then another pattern. -/
def named (p : Pattern) : Pattern :=
  .sequence (.group (some 1) (.sequence (.char .exact startSet) (.sequence (many .exact tailSet 0) .nothing))) p

/-- An attribute with blanks in front. -/
def attributePattern : Pattern := .group none (Attribute.gap 1 (Attribute.pattern false))

/-- Attributes, which are kept, and then another pattern. -/
def attributed (p : Pattern) : Pattern :=
  .sequence (.group (some 2) (.sequence (.repetition 0 none .greedy attributePattern) .nothing)) p

/-- A slash. -/
def slashSign : Pattern := .char .exact ⟨false, [.one ('/' : CodePoint).toNat]⟩

/-- A slash or none, which is kept, and the end. -/
def endSign : Pattern :=
  .sequence (.group (some 3) (.sequence (.repetition 0 (some 1) .greedy slashSign) .nothing))
    (word .exact ['>'] .nothing)

/-- The end of an open tag. -/
def endPattern : Pattern := Attribute.gap 0 endSign

/-- An open tag. -/
def pattern : Pattern := word .exact ['<'] <| named <| attributed endPattern

theorem read_patternSource : (Pattern.read false patternSource).map Prod.fst = .ok pattern := by decide +kernel

/-! ## One attribute -/

section Attributes

variable {before s : Text} {groups : List (Nat × Text)} {next : Following}

theorem run_attributePattern_eq (c : Cursor) (next : Following) : attributePattern.run c next =
    (many .exact (blankOr []) 1).run c fun d => (Attribute.pattern false).run d next := rfl

theorem run_attributePattern_eq_none
    (h : s.takeWhile isBlank = [] ∨ Attribute.read? (s.dropWhile isBlank) = none) :
    attributePattern.run (between before s groups) next = none := by
  rw [run_attributePattern_eq]
  refine run_many_eq_none fun u v heq hu hleast => Attribute.run_pattern_eq_none ?_
  have hblank : ∀ c ∈ u, isBlank c = true := fun c hc => (has_blank c).symm.trans (hu c hc)
  cases u with
  | nil => cases hleast
  | cons c u =>
    rw [heq, List.takeWhile_append_of_pos hblank, List.dropWhile_append_of_pos hblank] at h
    rcases h with h | h
    · cases h
    · cases v with
      | nil => rfl
      | cons d v =>
        cases hd : isBlank d with
        | false => rwa [List.dropWhile_cons_of_neg (by simp [hd])] at h
        | true => exact Attribute.read?_of_not_isNameChar (Attribute.not_isNameChar_of_isBlank hd) v

theorem run_attributePattern (hnext : Attribute.Eager next) {a : Attribute} {after : Text}
    (hgap : s.takeWhile isBlank ≠ []) (h : Attribute.read? (s.dropWhile isBlank) = some (a, after)) :
    attributePattern.run (between before s groups) next =
      next (between ((s.takeWhile isBlank ++ a.raw).reverse ++ before) after groups) := by
  obtain ⟨groups', hkeeps, hrun⟩ :=
    Attribute.run_pattern false ((s.takeWhile isBlank).reverse ++ before) groups hnext h
  rw [hkeeps.eq] at hrun
  have hrunGap : (Attribute.gap 1 (Attribute.pattern false)).run
      (between before (s.takeWhile isBlank ++ s.dropWhile isBlank) groups) next =
      (Attribute.pattern false).run (between ((s.takeWhile isBlank).reverse ++ before) (s.dropWhile isBlank) groups)
        next :=
    Attribute.run_gap (fun c hc => List.mem_takeWhile_imp hc) (Text.head?_dropWhile isBlank s)
      (List.length_pos_iff.mpr hgap) fun before c r hc =>
        Attribute.run_pattern_eq_none (Attribute.read?_of_not_isNameChar (Attribute.not_isNameChar_of_isBlank hc) r)
  rw [List.takeWhile_append_dropWhile] at hrunGap
  rw [List.reverse_append, List.append_assoc, ← hrun, ← hrunGap]
  rfl

/-- What an attribute goes on with begins no attribute. -/
theorem run_attributePattern_of_remainder (hs : Attribute.Remainder s) (rest : Text) :
    attributePattern.run (between before (s ++ rest) groups) next = none := by
  have hhead : ∀ {s : Text}, s ≠ [] → (∀ c ∈ s, isBlank c = false) → (s ++ rest).takeWhile isBlank = [] := by
    intro s hne hs
    obtain ⟨c, s, rfl⟩ := List.exists_cons_of_ne_nil hne
    exact List.takeWhile_cons_of_neg (by simp [hs c List.mem_cons_self])
  apply run_attributePattern_eq_none
  cases hs with
  | name hne hs => exact .inl (hhead hne fun c hc => Attribute.not_isBlank_of_isNameChar (hs c hc))
  | @assigned gap s hgap =>
    have hdrop : (gap ++ ('=' : CodePoint) :: s ++ rest).dropWhile isBlank = ('=' : CodePoint) :: (s ++ rest) := by
      rw [List.append_assoc, List.dropWhile_append_of_pos hgap]
      exact List.dropWhile_cons_of_neg (by decide)
    rw [hdrop]
    exact .inr (Attribute.read?_of_not_isNameChar (by decide) _)
  | bare hne hs => exact .inl (hhead hne fun c hc => Attribute.not_isBlank_of_isBareChar (hs c hc))

/-! ## All attributes -/

/-- What follows the attributes of a tag fails in front of another attribute, and where an attribute could end too early
whenever it fails where it ends. -/
structure Final (next : Following) : Prop where
  eager : Attribute.Eager next
  another : ∀ {gap : Text} {c : CodePoint}, (∀ b ∈ gap, isBlank b = true) → Attribute.isNameChar c = true →
    ∀ before rest groups, next (between before (gap ++ c :: rest) groups) = none

/-- To look for more attributes is as eager as what follows them. -/
theorem eager_afterRound (hnext : Attribute.Eager next) (rounds : Nat) (c : Cursor) :
    Attribute.Eager (afterRound attributePattern.run rounds 0 none c next .greedy) := by
  intro s hs before rest groups groups' hnone
  have hbehind : next (between (s.reverse ++ before) rest groups) = none := by
    rw [afterRound] at hnone
    split at hnone
    · exact hnone
    · cases rounds with
      | zero => exact hnone
      | succ rounds =>
        rw [Option.map_none, runRounds_star] at hnone
        exact eq_none_of_orElse hnone
  rw [afterRound]
  split
  · exact hnext hs _ _ _ _ hbehind
  · cases rounds with
    | zero => exact hnext hs _ _ _ _ hbehind
    | succ rounds =>
      rw [Option.map_none, runRounds_star, run_attributePattern_of_remainder hs]
      exact hnext hs _ _ _ _ hbehind

/-- The attributes of a tag are matched as they are read, if the end of the tag follows. -/
theorem runRounds_attributePattern (before : Text) (groups : List (Nat × Text)) (hnext : Final next) (rounds : Nat)
    (hrounds : s.length < rounds) :
    runRounds attributePattern.run .greedy rounds 0 none (between before s groups) next =
      next (between ((sectionFrom rounds s).1.reverse ++ before) (sectionFrom rounds s).2 groups) := by
  induction rounds generalizing before s with
  | zero => cases hrounds
  | succ rounds ih =>
    rw [runRounds_star, sectionFrom]
    cases hread : Attribute.read? (s.dropWhile isBlank) with
    | none =>
      rw [run_attributePattern_eq_none (.inr hread)]
      rfl
    | some found =>
      obtain ⟨a, after⟩ := found
      cases hgap : (s.takeWhile isBlank).isEmpty with
      | true =>
        rw [run_attributePattern_eq_none (.inl (List.isEmpty_iff.mp hgap))]
        rfl
      | false =>
        have hne : s.takeWhile isBlank ≠ [] := by simpa using hgap
        have hlt := Attribute.length_lt_of_read? hread
        have hdrop := (List.dropWhile_sublist isBlank (l := s)).length_le
        have hlater : (between ((s.takeWhile isBlank ++ a.raw).reverse ++ before) after groups).left ≠
            (between before s groups).left := (hlt.trans_le hdrop).ne
        -- to give the attribute up helps nothing, as a tag does not end in front of a name
        have hstop : next (between before s groups) = none := by
          obtain ⟨c, raw, hraw, hc⟩ := (Attribute.legible_of_read? hread).raw_eq_cons
          rw [← List.takeWhile_append_dropWhile (p := isBlank) (l := s), Attribute.append_of_read? hread, hraw]
          exact hnext.another (fun b hb => List.mem_takeWhile_imp hb) hc ..
        rw [run_attributePattern (eager_afterRound hnext.eager rounds _) hne hread, afterRound, decide_eq_false hlater,
          Bool.and_false, if_neg Bool.false_ne_true, orElse_eq_first fun _ => hstop]
        refine (ih _ (by omega)).trans ?_
        rw [← List.append_assoc, ← List.reverse_append]
        rfl

end Attributes

/-! ## The end -/

section Ends

variable {before s : Text} {groups : List (Nat × Text)} {next : Following}

/-- What is kept of the slash of a tag, if there is one. -/
def slashText (selfClosing : Bool) : Text := if selfClosing then ['/'] else []

/-- What follows a slash or none. -/
def behindSlash (c : Cursor) (next : Following) (d : Cursor) : Option Cursor :=
  (word .exact ['>'] .nothing).run { d with groups := (3, c.textTo d) :: d.groups } next

theorem run_endSign (c : Cursor) (next : Following) : endSign.run c next =
    orElse (slashSign.run c (behindSlash c next)) fun _ => behindSlash c next c :=
  run_optional ..

theorem behindSlash_self (c : CodePoint) (rest : Text) :
    behindSlash (between before (c :: rest) groups) next (between before (c :: rest) groups) =
      if c = '>' then next (between ('>' :: before) rest ((3, []) :: groups)) else none := by
  have htext : (between before (c :: rest) groups).textTo (between before (c :: rest) groups) = [] :=
    textTo_between before [] (c :: rest) before groups groups
  rw [behindSlash, htext]
  refine (Attribute.run_sign '>' c).trans ?_
  split
  · rename_i hc
    rw [hc]
    rfl
  · rfl

theorem run_slashSign (c : CodePoint) (rest : Text) :
    slashSign.run (between before (c :: rest) groups) (behindSlash (between before (c :: rest) groups) next) =
      if c = '/' then (word .exact ['>'] .nothing).run (between ('/' :: before) rest ((3, ['/']) :: groups)) next
      else none := by
  rw [slashSign, run_char_cons, has_one, Folding.exact_same]
  by_cases hc : c = '/'
  · subst hc
    have htext : (between before ('/' :: rest) groups).textTo (between ('/' :: before) rest groups) = ['/'] :=
      textTo_between before ['/'] rest ('/' :: before) groups groups
    rw [beq_self_eq_true, if_pos rfl, if_pos rfl, behindSlash, htext]
    rfl
  · rw [beq_eq_false_iff_ne.mpr hc, if_neg Bool.false_ne_true, if_neg hc]

theorem run_endSign_plain (after : Text) : endSign.run (between before ('>' :: after) groups) next =
    next (between ('>' :: before) after ((3, []) :: groups)) := by
  rw [run_endSign, run_slashSign, if_neg (by decide), behindSlash_self, if_pos rfl, orElse_none]

theorem run_endSign_slash (after : Text) : endSign.run (between before ('/' :: '>' :: after) groups) next =
    next (between ('>' :: '/' :: before) after ((3, ['/']) :: groups)) := by
  rw [run_endSign, run_slashSign, if_pos rfl, Attribute.run_sign, if_pos rfl, behindSlash_self, if_neg (by decide)]
  exact orElse_eq_first fun _ => rfl

theorem run_endSign_eq_none (hplain : ∀ after, s ≠ ('>' : CodePoint) :: after)
    (hslash : ∀ after, s ≠ ('/' : CodePoint) :: '>' :: after) : endSign.run (between before s groups) next = none := by
  rw [run_endSign]
  cases s with
  | nil => rfl
  | cons c s =>
    have hc : c ≠ '>' := by
      rintro rfl
      exact hplain s rfl
    rw [run_slashSign, behindSlash_self, if_neg hc]
    split
    · rename_i heq
      subst heq
      cases s with
      | nil => rfl
      | cons d s =>
        rw [Attribute.run_sign, if_neg, orElse_none]
        rintro rfl
        exact hslash s rfl
    · rfl

/-- The end of a tag is matched as it is read. -/
theorem run_endPattern : endPattern.run (between before s groups) next =
    match openEnd? s with
    | some (closing, slash, after) =>
      next (between (closing.reverse ++ before) after ((3, slashText slash) :: groups))
    | none => none := by
  have hs := (List.takeWhile_append_dropWhile (p := isBlank) (l := s)).symm
  have hgap : endPattern.run (between before s groups) next =
      endSign.run (between ((s.takeWhile isBlank).reverse ++ before) (s.dropWhile isBlank) groups) next := by
    conv_lhs => rw [hs]
    refine Attribute.run_gap (fun c hc => List.mem_takeWhile_imp hc) (Text.head?_dropWhile isBlank s) (Nat.zero_le _)
      fun before c r hc => run_endSign_eq_none (fun after heq => ?_) fun after heq => ?_
    · cases heq
      cases hc
    · cases heq
      cases hc
  rw [hgap]
  cases hend : openEnd? s with
  | none =>
    rw [openEnd?] at hend
    split at hend
    · cases hend
    · cases hend
    · rename_i hplain hslash
      exact run_endSign_eq_none hplain hslash
  | some found =>
    rw [openEnd?] at hend
    split at hend
    · rename_i after hdrop
      cases hend
      rw [hdrop, run_endSign_plain]
      simp [slashText]
    · rename_i after hdrop
      cases hend
      rw [hdrop, run_endSign_slash]
      simp [slashText]
    · cases hend

end Ends

section Closing

variable {s : Text}

theorem openEnd?_append_of_isNameChar {gap : Text} {c : CodePoint} (hgap : ∀ b ∈ gap, isBlank b = true)
    (hc : Attribute.isNameChar c = true) (rest : Text) : openEnd? (gap ++ c :: rest) = none := by
  refine openEnd?_append_of_ne hgap (Attribute.not_isBlank_of_isNameChar hc) ?_ ?_ rest
  · rintro rfl
    exact absurd hc (by decide)
  · rintro rfl
    exact absurd hc (by decide)

/-- A tag does not end where an attribute could end too early, unless it ends where the attribute ends. -/
theorem openEnd?_of_remainder (hs : Attribute.Remainder s) {rest : Text} (h : openEnd? rest = none) :
    openEnd? (s ++ rest) = none := by
  cases hs with
  | name hne hs =>
    obtain ⟨c, s, rfl⟩ := List.exists_cons_of_ne_nil hne
    change openEnd? ([] ++ c :: (s ++ rest)) = none
    exact openEnd?_append_of_isNameChar (List.forall_mem_nil _) (hs c List.mem_cons_self) (s ++ rest)
  | assigned hgap =>
    rw [List.append_assoc]
    exact openEnd?_append_of_ne hgap Attribute.isBlank_equals (by decide) (by decide) _
  | bare hne hs =>
    obtain ⟨c, s, rfl⟩ := List.exists_cons_of_ne_nil hne
    rw [List.forall_mem_cons] at hs
    have hblank := Attribute.not_isBlank_of_isBareChar hs.1
    have hdrop : (c :: s ++ rest).dropWhile isBlank = c :: (s ++ rest) :=
      List.dropWhile_cons_of_neg (by simp [hblank])
    refine openEnd?_other (fun after heq => ?_) fun after heq => ?_
    · cases hdrop.symm.trans heq
      exact absurd hs.1 (by decide)
    · -- behind the slash is either what ends the tag where the attribute ends, or what is in no bare value
      have hbehind := (List.cons.inj (hdrop.symm.trans heq)).2
      cases s with
      | nil =>
        rw [List.nil_append] at hbehind
        rw [hbehind] at h
        cases h
      | cons d s =>
        cases (List.cons.inj hbehind).1
        exact absurd (hs.2 '>' List.mem_cons_self) (by decide)

end Closing

/-- The end of a tag follows its attributes. -/
theorem final_end (c : Cursor) :
    Final fun d => endPattern.run { d with groups := (2, c.textTo d) :: d.groups } some := by
  have hend : ∀ before s groups, endPattern.run (between before s groups) some = none ↔ openEnd? s = none := by
    intro before s groups
    rw [run_endPattern]
    cases openEnd? s <;> simp
  refine ⟨fun hs before rest groups groups' h => ?_, fun hgap hc before rest groups => ?_⟩
  · exact (hend _ _ _).mpr (openEnd?_of_remainder hs ((hend _ _ _).mp h))
  · exact (hend _ _ _).mpr (openEnd?_append_of_isNameChar hgap hc rest)

/-! ## The whole tag -/

theorem has_startSet (c : CodePoint) : startSet.has .exact c = isNameStart c := by
  simp [startSet, CharSet.has, CharItem.has, Folding.variants, isNameStart, CodePoint.le_def]
  exact Bool.or_comm _ _

theorem has_tailSet (c : CodePoint) : tailSet.has .exact c = isNameChar c := by
  have hword : (CharItem.ofClass false .word false).has .exact c = isWord c := by simp [CharItem.has, CharClass.has]
  rw [CharSet.has, tailSet, List.any_cons, hword, any_one fun d _ => Folding.exact_same d, Bool.bne_false, isNameChar]

theorem not_isBlank_of_isNameChar {c : CodePoint} (h : isNameChar c = true) : isBlank c = false := by
  rw [isNameChar, Bool.or_eq_true] at h
  rcases h with h | h
  · exact not_isBlank_of_isWord h
  · simp only [List.contains_cons, List.contains_nil, Bool.or_false, Bool.or_eq_true, beq_iff_eq] at h
    rcases h with rfl | rfl | rfl <;> decide

section Whole

variable {before s : Text} {groups : List (Nat × Text)} {next : Following}

/-- A name is taken as a whole, if what follows cannot begin with one of its characters. -/
theorem run_named {p : Pattern}
    (hp : ∀ before c rest groups, isNameChar c = true → p.run (between before (c :: rest) groups) next = none) :
    (named p).run (between before s groups) next =
      match name? s with
      | some (name, rest) => p.run (between (name.reverse ++ before) rest ((1, name) :: groups)) next
      | none => none := by
  cases s with
  | nil => rfl
  | cons c t =>
    have hrun : (named p).run (between before (c :: t) groups) next =
        if startSet.has .exact c then
          (many .exact tailSet 0).run (between (c :: before) t groups) fun d =>
            p.run { d with groups := (1, (between before (c :: t) groups).textTo d) :: d.groups } next
        else none := rfl
    rw [hrun, has_startSet, name?]
    split
    · have hs := (List.takeWhile_append_dropWhile (p := isNameChar) (l := t)).symm
      have htext := textTo_between before (c :: t.takeWhile isNameChar) (t.dropWhile isNameChar)
        ((t.takeWhile isNameChar).reverse ++ c :: before) groups groups
      rw [List.cons_append, ← hs] at htext
      conv_lhs => enter [2]; rw [hs]
      refine (run_many_eq (fun d hd => (has_tailSet d).trans (List.mem_takeWhile_imp hd))
        (fun d hd => (has_tailSet d).trans (Text.head?_dropWhile isNameChar t d hd)) (Nat.zero_le _)
        fun before d r hd => hp _ _ _ _ ((has_tailSet d).symm.trans hd)).trans ?_
      rw [htext]
      change _ = p.run (between ((c :: t.takeWhile isNameChar).reverse ++ before) _ _) next
      rw [reverse_cons_append]
      rfl
    · rfl

/-- The attributes of a tag and its end are matched as they are read. -/
theorem run_attributed : (attributed endPattern).run (between before s groups) some =
    endPattern.run (between ((sectionFrom s.length s).1.reverse ++ before) (sectionFrom s.length s).2
      ((2, (sectionFrom s.length s).1) :: groups)) some := by
  have hsteps : sectionFrom (s.length + 1) s = sectionFrom s.length s :=
    sectionFrom_of_length_le _ _ s (Nat.le_succ _) (Nat.le_refl _)
  have hrun := runRounds_attributePattern before groups (final_end (between before s groups)) (s.length + 1)
    (Nat.lt_succ_self _)
  rw [hsteps] at hrun
  have htext := textTo_between before (sectionFrom s.length s).1 (sectionFrom s.length s).2
    ((sectionFrom s.length s).1.reverse ++ before) groups groups
  rw [append_of_sectionFrom] at htext
  rw [htext] at hrun
  refine Eq.trans ?_ hrun
  rw [attributed, run, run, run, run, Nat.zero_add]
  rfl

theorem sectionFrom_of_not_isBlank {c : CodePoint} (hc : isBlank c = false) (steps : Nat) (rest : Text) :
    sectionFrom steps (c :: rest) = ([], c :: rest) := by
  cases steps with
  | zero => rfl
  | succ steps =>
    have htake : (c :: rest).takeWhile isBlank = [] := List.takeWhile_cons_of_neg (by simp [hc])
    rw [sectionFrom, htake]
    split <;> rfl

theorem run_attributed_of_isNameChar {c : CodePoint} (hc : isNameChar c = true) (rest : Text) :
    (attributed endPattern).run (between before (c :: rest) groups) some = none := by
  have hblank := not_isBlank_of_isNameChar hc
  have hend : openEnd? (c :: rest) = none := by
    change openEnd? ([] ++ c :: rest) = none
    refine openEnd?_append_of_ne (List.forall_mem_nil _) hblank ?_ ?_ rest
    · rintro rfl
      exact absurd hc (by decide)
    · rintro rfl
      exact absurd hc (by decide)
  rw [run_attributed, sectionFrom_of_not_isBlank hblank, run_endPattern, hend]

/-- An open tag is matched as it is read. -/
theorem run_pattern : pattern.run (between before ('<' :: s) groups) some =
    (name? s).bind fun (name, afterName) =>
      let (filled, afterAttributes) := sectionFrom afterName.length afterName
      (openEnd? afterAttributes).map fun (closing, slash, after) =>
        between ((('<' : CodePoint) :: name ++ filled ++ closing).reverse ++ before) after
          ((3, slashText slash) :: (2, filled) :: (1, name) :: groups) := by
  rw [pattern, Attribute.run_sign, if_pos rfl, run_named fun _ _ _ _ hc => run_attributed_of_isNameChar hc _]
  cases name? s with
  | none => rfl
  | some found =>
    obtain ⟨name, afterName⟩ := found
    simp only [Option.bind_some]
    rw [run_attributed, run_endPattern]
    cases openEnd? (sectionFrom afterName.length afterName).2 with
    | none => rfl
    | some found =>
      obtain ⟨closing, slash, after⟩ := found
      simp

theorem run_pattern_of_ne {c : CodePoint} (hc : c ≠ '<') (rest : Text) :
    pattern.run (between before (c :: rest) groups) some = none := by
  rw [pattern, Attribute.run_sign, if_neg hc]

/-- Either no tag is matched and none is read, or the tag that is read is matched, and attributes fill what the match
keeps of them. -/
theorem match_cases (before s : Text) :
    open? s = none ∧ pattern.run (between before s []) some = none ∨
      ∃ tag filled closing after, open? s = some (tag, after) ∧
        tag.source = ('<' : CodePoint) :: tag.name ++ filled ++ closing ∧
        tag.attributes = Attribute.all filled ∧ Attribute.Fill (Attribute.all filled) filled ∧
        pattern.run (between before s []) some = some (between (tag.source.reverse ++ before) after
          [(3, slashText tag.selfClosing), (2, filled), (1, tag.name)]) := by
  cases s with
  | nil => exact .inl ⟨rfl, rfl⟩
  | cons c s =>
    by_cases hc : c = '<'
    · subst hc
      rw [run_pattern, open?]
      cases hname : name? s with
      | none => exact .inl ⟨rfl, rfl⟩
      | some found =>
        obtain ⟨name, afterName⟩ := found
        simp only [Option.bind_eq_bind, Option.bind_some]
        cases hend : openEnd? (sectionFrom afterName.length afterName).2 with
        | none => exact .inl ⟨rfl, rfl⟩
        | some found =>
          obtain ⟨closing, slash, after⟩ := found
          exact .inr ⟨_, _, closing, after, rfl, rfl, rfl, fill_sectionFrom _ _, rfl⟩
    · refine .inl ⟨?_, run_pattern_of_ne hc s⟩
      unfold open?
      split
      · rename_i heq
        cases heq
        exact absurd rfl hc
      · rfl

end Whole

/-- **The attributes of an open tag.** At whatever place of a text the pattern of open tags matches, the tag is read that
is matched. Its attributes fill what the match keeps of them: each stands there as it is written, a name alone or a name
with a value, behind one blank or more, and nothing else is there. They are also the matches of the other pattern in it,
one behind the other. At all other places no tag is read. -/
theorem fill_of_match {p q : Pattern} (hp : (Pattern.read false patternSource).map Prod.fst = .ok p)
    (hq : (Pattern.read false Attribute.patternSource).map Prod.fst = .ok q) (before s : Text) :
    (p.run (between before s []) some = none → open? s = none) ∧
      ∀ d, p.run (between before s []) some = some d →
        ∃ tag filled closing, open? s = some (tag, d.rest) ∧
          tag.source = ('<' : CodePoint) :: tag.name ++ filled ++ closing ∧
          d.groups = [(3, slashText tag.selfClosing), (2, filled), (1, tag.name)] ∧
          (q.allMatches filled).map Attribute.ofMatch = tag.attributes ∧ Attribute.all filled = tag.attributes ∧
          Attribute.Fill tag.attributes filled := by
  cases hp.symm.trans read_patternSource
  cases hq.symm.trans Attribute.read_patternSource
  rcases match_cases before s with ⟨hopen, hrun⟩ | ⟨tag, filled, closing, after, hopen, hsource, hall, hfill, hrun⟩
  · exact ⟨fun _ => hopen, fun d hd => by rw [hrun] at hd; cases hd⟩
  · refine ⟨fun hnone => (by rw [hrun] at hnone; cases hnone), fun d hd => ?_⟩
    cases hrun.symm.trans hd
    refine ⟨tag, filled, closing, hopen, hsource, rfl, ?_, hall.symm, hall ▸ hfill⟩
    rw [Attribute.map_ofMatch_allMatches, hall]

/-- A link with attributes that are written in all ways. -/
def linkSource : Text := "<a  href=/b?c title = 'x > \"y\"'\n  class=\"\" hidden/>".text

theorem fill_of_match_link :
    (Pattern.read false patternSource).map Prod.fst = .ok pattern ∧
      (Pattern.read false Attribute.patternSource).map Prod.fst = .ok (Attribute.pattern true) ∧
      ∃ d, pattern.run (between [] linkSource []) some = some d ∧
        ∃ tag filled closing, open? linkSource = some (tag, d.rest) ∧
          tag.source = ('<' : CodePoint) :: tag.name ++ filled ++ closing ∧
          d.groups = [(3, slashText tag.selfClosing), (2, filled), (1, tag.name)] ∧
          ((Attribute.pattern true).allMatches filled).map Attribute.ofMatch = tag.attributes ∧
          Attribute.all filled = tag.attributes ∧ Attribute.Fill tag.attributes filled := by
  have hsome : (pattern.run (between [] linkSource []) some).isSome = true := by decide +kernel
  obtain ⟨d, hd⟩ := Option.isSome_iff_exists.mp hsome
  exact ⟨read_patternSource, Attribute.read_patternSource, d, hd,
    (fill_of_match read_patternSource Attribute.read_patternSource [] linkSource).2 d hd⟩

end Tag

end HtmlTemplate
