import HtmlTemplate.Config.Basic
import HtmlTemplate.Proofs.Pattern.Forward

/-!
# Comments that name a template

The pattern that finds the name of a template, if no other is set (`ofSource_defaultPattern`), reads two forms of a
comment. The name in quotes may be any (`run_directive_quoted`). The name behind a colon ends at the first `-`, and
there the comment must end too (`run_directive_colon`): a comment whose name has a `-` in it is passed over
(`run_directive_colon_eq_none`).
-/

namespace HtmlTemplate

namespace NamePattern

open Pattern Cursor

/-! ## The pattern -/

/-- The name in quotes. -/
def quotedForm : Pattern :=
  spread (blankOr []) 1 <| word .unicode "name".text <|
    spread (blankOr []) 0 <| word .unicode ['='] <|
    spread (blankOr []) 0 <| word .unicode ['\x22'] <|
    captured 1 (oneOf true ['\x22']) <| word .unicode ['\x22'] .nothing

/-- The name behind a colon or a blank. It is meant to end where the comment ends, but no `-` at all is let in. -/
def colonForm : Pattern := spread (blankOr [':']) 1 <| captured 2 (oneOf true ['-', '-', '>']) .nothing

/-- What is behind the name. -/
def closing : Pattern := spread (blankOr []) 0 <| word .unicode "-->".text .nothing

/-- The comment that names a template. -/
def directive : Pattern :=
  word .unicode "<!--".text <| spread (blankOr []) 0 <| word .unicode "@template".text <|
    .sequence (.group none (.choice quotedForm colonForm)) closing

/-- The pattern that finds the name, if no other is set. -/
def default : NamePattern := ⟨Config.defaultPattern, true, directive, 2, []⟩

theorem ofSource_defaultPattern : ofSource true Config.defaultPattern = .ok default := by decide +kernel

/-! ## The comment -/

section Directive

variable {before rest name : Text} {groups : List (Nat × Text)} {next : Following}

/-- No word in the comment begins with what could be taken for a blank. -/
theorem has_blank_of_same {c d : CodePoint} (hc : c ∈ (['@', 'n', '=', '\x22', '-'] : Text))
    (h : Folding.unicode.same c.toNat d = true) : (blankOr []).has .unicode d = false := by
  have hall : ((['@', 'n', '=', '\x22', '-'] : Text).all fun c =>
      formsOf (lowerCode c.toNat) = [c.toNat] && !isBlank c) = true := by decide +kernel
  have hforms := List.all_eq_true.mp hall c hc
  rw [Bool.and_eq_true, decide_eq_true_eq, Bool.not_eq_true'] at hforms
  rw [has_blank]
  by_contra hblank
  rw [Bool.not_eq_false] at hblank
  rw [Folding.same, hforms.1, lowerCode_of_isBlank hblank, List.contains_iff_mem, List.mem_singleton] at h
  rw [CodePoint.toNat_inj.mp h, hforms.2] at hblank
  cases hblank

theorem has_blank_of_space : ∀ c ∈ ([' '] : Text), (blankOr []).has .unicode c = true :=
  List.forall_mem_singleton.mpr (by decide)

/-- The comment ends behind blanks. -/
theorem run_closing {s : Text} (hs : ∀ c ∈ s, isBlank c = true) :
    closing.run (between before (s ++ ("-->".text ++ rest)) groups) next =
      next (between ("-->".text.reverse ++ (s.reverse ++ before)) rest groups) := by
  refine run_spread_word (fun c hc => ?_) (Nat.zero_le _) fun d hd => has_blank_of_same (by decide) hd
  rw [has_blank, hs c hc]

theorem has_quoted {c : CodePoint} : (oneOf true ['\x22']).has .unicode c = true ↔ c ≠ '\x22' := by
  rw [has_oneOf true (by decide)]
  simp

/-- The name in quotes is what stands between them. -/
theorem run_quotedForm (hname : ('\x22' : CodePoint) ∉ name) (hne : name ≠ []) :
    quotedForm.run (between before (" name=\x22".text ++ (name ++ ((['\x22'] : Text) ++ rest))) groups) next =
      next (between ('\x22' :: (name.reverse ++ (" name=\x22".text.reverse ++ before))) rest
        ((1, name) :: groups)) := by
  have hnone : ∀ c ∈ [], (blankOr []).has .unicode c = true := List.forall_mem_nil _
  refine (run_spread_word has_blank_of_space (Nat.le_refl 1) fun d hd => has_blank_of_same (by decide) hd).trans ?_
  refine (run_spread_word hnone (Nat.le_refl 0) fun d hd => has_blank_of_same (by decide) hd).trans ?_
  refine (run_spread_word hnone (Nat.le_refl 0) fun d hd => has_blank_of_same (by decide) hd).trans ?_
  refine run_captured_word (fun c hc => has_quoted.mpr fun heq => hname (heq ▸ hc)) hne fun d hd => ?_
  rw [← Bool.not_eq_true, has_quoted, not_not]
  exact CodePoint.toNat_inj.mp ((Folding.unicode_same_iff (by decide)).mp hd)

/-- What the comment begins with in both forms. -/
def opening : Text := "<!-- @template".text

theorem run_directive : directive.run (between before (opening ++ rest) groups) next =
    (Pattern.choice quotedForm colonForm).run (between (opening.reverse ++ before) rest groups)
      fun d => closing.run d next := by
  refine (run_word (w := "<!--".text)).trans ?_
  exact run_spread_word has_blank_of_space (Nat.zero_le 1) fun d hd => has_blank_of_same (by decide) hd

/-- The comment `<!-- @template name="…" -->`. -/
def quotedDirective (name : Text) : Text := opening ++ (" name=\x22".text ++ (name ++ "\x22 -->".text))

/-- The comment `<!-- @template: … -->`. -/
def colonDirective (name : Text) : Text := opening ++ (": ".text ++ (name ++ " -->".text))

/-- A name in quotes may be what has no quote in it. -/
theorem run_directive_quoted (before rest : Text) (hname : ('\x22' : CodePoint) ∉ name) (hne : name ≠ []) :
    ∃ d, directive.run (between before (quotedDirective name ++ rest) []) some = some d ∧ d.groups = [(1, name)] := by
  have htext : quotedDirective name ++ rest =
      opening ++ (" name=\x22".text ++ (name ++ ((['\x22'] : Text) ++ (([' '] : Text) ++ ("-->".text ++ rest))))) := by
    simp [quotedDirective, String.text]
  rw [htext, run_directive, run, run_quotedForm hname hne, run_closing (List.forall_mem_singleton.mpr (by decide))]
  exact ⟨_, rfl, rfl⟩

theorem has_kept {c : CodePoint} : (oneOf true ['-', '-', '>']).has .unicode c = true ↔ c ≠ '-' ∧ c ≠ '>' := by
  rw [has_oneOf true (by decide)]
  simp

theorem has_colonOrBlank (c : CodePoint) : (blankOr [':']).has .unicode c = (c == ':' || isBlank c) := by
  rw [has_blankOr (by decide), List.contains_cons, List.contains_nil, Bool.or_false]

/-- There is no name in quotes behind a colon. -/
theorem run_quotedForm_colon : quotedForm.run (between before (": ".text ++ rest) groups) next = none := by
  refine run_many_eq_none fun s r heq hs hleast => ?_
  cases s with
  | nil => cases hleast
  | cons c s =>
    have hc : ':' = c := (List.cons.inj heq).1
    have hblank := hs c List.mem_cons_self
    rw [← hc] at hblank
    cases hblank

/-- The name behind a colon is kept with the blank behind it. -/
theorem run_colonForm {d : Cursor} (hname : ∀ c ∈ name, c ≠ '-' ∧ c ≠ '>')
    (hfront : ∀ c ∈ name.head?, c ≠ ':' ∧ isBlank c = false) (hne : name ≠ [])
    (hnext : next (between ((name ++ ([' '] : Text)).reverse ++ (": ".text.reverse ++ before)) ('-' :: rest)
      ((2, name ++ ([' '] : Text)) :: groups)) = some d) :
    colonForm.run (between before (": ".text ++ ((name ++ ([' '] : Text)) ++ ('-' : CodePoint) :: rest)) groups) next =
      some d := by
  have hkept : ∀ c ∈ name ++ ([' '] : Text), (oneOf true ['-', '-', '>']).has .unicode c = true := by
    intro c hc
    rw [has_kept]
    rcases List.mem_append.mp hc with hc | hc
    · exact hname c hc
    · rw [List.mem_singleton.mp hc]
      decide
  have hhead : ∀ c ∈ ((name ++ ([' '] : Text)) ++ ('-' : CodePoint) :: rest).head?,
      (blankOr [':']).has .unicode c = false := by
    intro c hc
    rw [List.head?_append_of_ne_nil _ (by simp), List.head?_append_of_ne_nil _ hne] at hc
    rw [has_colonOrBlank, beq_eq_false_iff_ne.mpr (hfront c hc).1, (hfront c hc).2]
    rfl
  have hdash : ∀ c ∈ (('-' : CodePoint) :: rest).head?, (oneOf true ['-', '-', '>']).has .unicode c = false := by
    intro c hc
    cases hc
    decide
  have hcolon : ∀ c ∈ ": ".text, (blankOr [':']).has .unicode c = true := List.all_eq_true.mp (by decide)
  exact run_many_of_run hcolon hhead (by decide) (run_captured_of_run hkept (by simp) hdash hnext)

/-- The name behind a colon may be what has neither `-` nor `>` in it. -/
theorem run_directive_colon (before rest : Text) (hname : ∀ c ∈ name, c ≠ '-' ∧ c ≠ '>')
    (hfront : ∀ c ∈ name.head?, c ≠ ':' ∧ isBlank c = false) (hne : name ≠ []) :
    ∃ d, directive.run (between before (colonDirective name ++ rest) []) some = some d ∧
      d.groups = [(2, name ++ ([' '] : Text))] := by
  have htext : colonDirective name ++ rest =
      opening ++ (": ".text ++ ((name ++ ([' '] : Text)) ++ ("-->".text ++ rest))) := by
    simp [colonDirective, String.text]
  have hclosing : ∀ before groups, closing.run (between before ("-->".text ++ rest) groups) some =
      some (between ("-->".text.reverse ++ before) rest groups) :=
    fun before groups => run_closing (s := []) (List.forall_mem_nil _)
  rw [htext, run_directive, run, run_quotedForm_colon]
  exact ⟨_, run_colonForm hname hfront hne (hclosing _ _), rfl⟩

/-- The text behind the first `-` of a name does not end the comment. -/
theorem not_prefix_of_dash (hdash : ('-' : CodePoint) ∈ name) (hgreater : ('>' : CodePoint) ∉ name) {s r : Text}
    (hs : ('-' : CodePoint) ∉ s) (heq : ": ".text ++ (name ++ (" -->".text ++ rest)) = s ++ r) :
    ¬ "-->".text <+: r := by
  rintro ⟨x, rfl⟩
  obtain ⟨u, w, rfl, hu⟩ := List.eq_append_cons_of_mem hdash
  -- what is in front of the first `-` is the same on both sides, and so is what is behind it
  have hfront : ∀ {front : Text}, ('-' : CodePoint) ∉ front → ∀ c ∈ front, (c != '-') = true := fun h c hc =>
    bne_iff_ne.mpr fun heq => h (heq ▸ hc)
  have hu' : ('-' : CodePoint) ∉ ": ".text ++ u := by
    rw [List.mem_append, not_or]
    exact ⟨by decide, hu⟩
  have hdrop := congrArg (List.dropWhile (· != ('-' : CodePoint))) heq
  rw [List.append_assoc, ← List.append_assoc, List.dropWhile_append_of_pos (hfront hu'),
    List.dropWhile_append_of_pos (hfront hs)] at hdrop
  have hbehind : w ++ (" -->".text ++ rest) = ('-' : CodePoint) :: '>' :: x := List.tail_eq_of_cons_eq hdrop
  cases w with
  | nil => cases (List.cons.inj hbehind).1
  | cons c w =>
    cases w with
    | nil => cases (List.cons.inj (List.cons.inj hbehind).2).1
    | cons d w =>
      have hd : d = '>' := (List.cons.inj (List.cons.inj hbehind).2).1
      exact hgreater (by simp [hd])

/-- A comment with a `-` in the name behind the colon is no comment that names a template. -/
theorem run_directive_colon_eq_none (before rest : Text) (hdash : ('-' : CodePoint) ∈ name)
    (hgreater : ('>' : CodePoint) ∉ name) :
    directive.run (between before (colonDirective name ++ rest) []) some = none := by
  have htext : colonDirective name ++ rest = opening ++ (": ".text ++ (name ++ (" -->".text ++ rest))) := by
    simp [colonDirective, String.text]
  rw [htext, run_directive, run, run_quotedForm_colon]
  change colonForm.run _ _ = none
  refine run_many_eq_none fun front r hfront hcolons _ => ?_
  refine run_captured_eq_none fun kept r hkept hchars => ?_
  change closing.run _ some = none
  refine run_many_eq_none fun blanks r hblanks hspaces _ => ?_
  refine run_word_eq_none (by decide) ?_
  refine not_prefix_of_dash (s := front ++ (kept ++ blanks)) hdash hgreater ?_ (by rw [hfront, hkept, hblanks]; simp)
  rw [List.mem_append, List.mem_append, not_or, not_or]
  exact ⟨fun h => absurd (hcolons '-' h) (by decide), fun h => absurd (hchars '-' h) (by decide),
    fun h => absurd (hspaces '-' h) (by decide)⟩

end Directive

/-! ## The name that a source declares -/

section Declared

variable {p : NamePattern} {before s rest name : Text}

/-- The name in a match: the first candidate that is not blank. -/
def nameIn (p : NamePattern) (found : Cursor × Cursor) : Option Text :=
  ((p.candidates found.1 found.2).map Text.trim).find? fun name => !name.isEmpty

/-- The name that is found from a place on. -/
def nameFrom (p : NamePattern) (c : Cursor) : Option Text := (p.pattern.search c.left c).bind p.nameIn

theorem declaredName?_eq (p : NamePattern) (source : Text) : p.declaredName? source = p.nameFrom (.start source) := by
  have hleft : (Cursor.start source).left = source.length := rfl
  rw [declaredName?, firstMatch?, nameFrom, hleft]
  cases p.pattern.search source.length (.start source) <;> rfl

/-- The name does not depend on what is in front of the place. -/
theorem nameFrom_facing (hp : p.pattern.isForward = true) {c c' : Cursor} (h : c.facing = c'.facing) :
    p.nameFrom c = p.nameFrom c' := by
  have hfacing : ∀ found?, Option.bind found? p.nameIn = (found?.map (Prod.map facing facing)).bind p.nameIn := by
    intro found?
    rw [Option.bind_map]
    rfl
  rw [nameFrom, nameFrom, hfacing, search_alike hp c.left h, ← hfacing, left_eq_of_facing h]

/-- Places without a match are passed. -/
theorem nameFrom_append (before : Text) (h : ∀ u c v, s = u ++ c :: v →
      p.pattern.run (between (u.reverse ++ before) (c :: (v ++ rest)) []) some = none) :
    p.nameFrom (between before (s ++ rest) []) = p.nameFrom (between (s.reverse ++ before) rest []) :=
  congrArg (Option.bind · p.nameIn) (search_append h)

theorem nameFrom_of_run {c d : Cursor} (h : p.pattern.run c some = some d) : p.nameFrom c = p.nameIn (c, d) := by
  rw [nameFrom]
  cases c.left with
  | zero => rw [search, h]; rfl
  | succ n => rw [search, h]; rfl

/-- What begins with the sign that begins a comment does not complete one. -/
theorem not_prefix_append {c : CodePoint} {v : Text} (hmark : ¬ "<!--".text <:+: c :: v) :
    ¬ "<!--".text <+: c :: (v ++ ('<' : CodePoint) :: rest) := by
  rintro ⟨x, hx⟩
  rw [← List.cons_append] at hx
  rcases List.append_eq_append_iff.mp hx with ⟨more, hcv, -⟩ | ⟨more, hword, hrest⟩
  · rw [hcv] at hmark
    exact hmark (List.prefix_append _ _).isInfix
  · cases more with
    | nil =>
      rw [hword, List.append_nil] at hmark
      exact hmark (List.infix_refl _)
    | cons d more =>
      cases (List.cons.inj hrest).1
      have hmem : ('<' : CodePoint) ∈ (['!', '-', '-'] : Text) := by
        rw [show (['!', '-', '-'] : Text) = v ++ ('<' : CodePoint) :: more from (List.cons.inj hword).2]
        simp
      revert hmem
      decide

/-- A text without the beginning of a comment, in front of a comment, has no part in the name. -/
theorem declaredName?_append (hmark : ¬ "<!--".text <:+: before) :
    default.declaredName? (before ++ ('<' : CodePoint) :: rest) =
      default.nameFrom (between before.reverse ('<' :: rest) []) := by
  rw [declaredName?_eq]
  refine (nameFrom_append [] fun u c v heq => ?_).trans (by rw [List.append_nil])
  refine run_word_eq_none (by decide) (not_prefix_append fun hinfix => hmark ?_)
  rw [heq]
  exact hinfix.trans (List.suffix_append u (c :: v)).isInfix

/-- The name in a match that has kept one part. -/
theorem nameIn_default {n : Nat} {c d : Cursor} (hn : n = 1 ∨ n = 2) (hgroups : d.groups = [(n, s)])
    (htrim : s.trim = name) (hne : name ≠ []) : default.nameIn (c, d) = some name := by
  have hcandidates : default.candidates c d = [s] := by
    rcases hn with rfl | rfl <;> simp [candidates, default, hgroups, List.range, List.range.loop]
  rw [nameIn, hcandidates, List.map_singleton, htrim]
  exact List.find?_cons_of_pos (by simpa using hne)

end Declared

/-! ## Usual names -/

/-- The digits and the letters of ASCII. -/
def alphanumericTable : CharTable := [(0x30, 0x39), (0x41, 0x5A), (0x61, 0x7A)]

/-- A name as it is usually given: letters and digits of ASCII, and `_` and `-` between them. -/
structure IsPlainName (name : Text) : Prop where
  chars : ∀ c ∈ name, (alphanumericTable.has c || c = '_' || c = '-') = true
  front : ∃ c, name.head? = some c ∧ alphanumericTable.has c = true
  back : ∃ c, name.getLast? = some c ∧ alphanumericTable.has c = true

theorem isBlank_of_alphanumeric {c : CodePoint} (h : alphanumericTable.has c = true) : isBlank c = false := by
  have hbounds : ∀ range ∈ alphanumericTable, 0x20 < range.1 ∧ range.2 < 0x85 := by decide
  obtain ⟨range, hrange, hfirst, hlast⟩ := exists_of_hasCode h
  obtain ⟨hlow, hhigh⟩ := hbounds range hrange
  exact isBlank_of_between (hlow.trans_le hfirst) (hlast.trans_lt hhigh)

namespace IsPlainName

variable {name : Text}

theorem notMem (h : IsPlainName name) {c : CodePoint} (hc : alphanumericTable.has c = false) (hlow : c ≠ '_')
    (hdash : c ≠ '-') : c ∉ name := by
  intro hmem
  have hchar := h.chars c hmem
  rw [hc, decide_eq_false hlow, decide_eq_false hdash] at hchar
  cases hchar

theorem ne_nil (h : IsPlainName name) : name ≠ [] := by
  obtain ⟨c, hc, -⟩ := h.front
  rintro rfl
  cases hc

theorem head_not_blank (h : IsPlainName name) : ∀ c ∈ name.head?, isBlank c = false := by
  obtain ⟨d, hd, hname⟩ := h.front
  intro c hc
  rw [hd] at hc
  cases hc
  exact isBlank_of_alphanumeric hname

theorem firm (h : IsPlainName name) : name.Firm where
  front := h.head_not_blank
  back := by
    obtain ⟨d, hd, hname⟩ := h.back
    intro c hc
    rw [hd] at hc
    cases hc
    exact isBlank_of_alphanumeric hname

/-- The blank that is kept behind a name does not belong to it. -/
theorem trim_append (h : IsPlainName name) : Text.trim (name ++ ([' '] : Text)) = name := by
  have hleft : Text.trimLeft (name ++ ([' '] : Text)) = name ++ ([' '] : Text) := by
    obtain ⟨c, rest, rfl⟩ := List.exists_cons_of_ne_nil h.ne_nil
    exact List.dropWhile_cons_of_neg (by simpa using h.head_not_blank c rfl)
  have hright : name.trimRight = name := by
    rw [Text.trimRight_eq, List.rdropWhile_eq_self_iff]
    exact fun hne => by simpa using h.firm.back _ (List.getLast?_eq_some_getLast hne)
  rw [Text.trim, hleft, Text.trimRight_eq, List.rdropWhile_concat_pos _ _ _ (by decide), ← Text.trimRight_eq, hright]

end IsPlainName

/-! ## The two forms of the comment -/

section Forms

variable {name before after : Text}

/-- A name in quotes is declared. -/
theorem declaredName?_quoted (hname : IsPlainName name) (hmark : ¬ "<!--".text <:+: before) :
    default.declaredName? (before ++ (quotedDirective name ++ after)) = some name := by
  obtain ⟨d, hd, hgroups⟩ := run_directive_quoted before.reverse after
    (hname.notMem (by decide) (by decide) (by decide)) hname.ne_nil
  refine (declaredName?_append hmark).trans ?_
  refine (nameFrom_of_run hd).trans ?_
  exact nameIn_default (.inl rfl) hgroups (Text.trim_of_firm hname.firm) hname.ne_nil

/-- A name behind a colon is declared if there is no `-` in it. -/
theorem declaredName?_colon (hname : IsPlainName name) (hdash : ('-' : CodePoint) ∉ name)
    (hmark : ¬ "<!--".text <:+: before) :
    default.declaredName? (before ++ (colonDirective name ++ after)) = some name := by
  have hchars : ∀ c ∈ name, c ≠ '-' ∧ c ≠ '>' := by
    refine fun c hc => ⟨fun heq => hdash (heq ▸ hc), fun heq => ?_⟩
    exact hname.notMem (c := '>') (by decide) (by decide) (by decide) (heq ▸ hc)
  have hfront : ∀ c ∈ name.head?, c ≠ ':' ∧ isBlank c = false := by
    refine fun c hc => ⟨fun heq => ?_, hname.head_not_blank c hc⟩
    exact hname.notMem (c := ':') (by decide) (by decide) (by decide) (heq ▸ List.mem_of_mem_head? hc)
  obtain ⟨d, hd, hgroups⟩ := run_directive_colon before.reverse after hchars hfront hname.ne_nil
  refine (declaredName?_append hmark).trans ?_
  refine (nameFrom_of_run hd).trans ?_
  exact nameIn_default (.inr rfl) hgroups hname.trim_append hname.ne_nil

/-- A comment with a `-` in the name behind a colon is passed over. -/
theorem declaredName?_colon_of_dash (hname : IsPlainName name) (hdash : ('-' : CodePoint) ∈ name)
    (hmark : ¬ "<!--".text <:+: before) :
    default.declaredName? (before ++ (colonDirective name ++ after)) = default.declaredName? after := by
  have hgreater : ('>' : CodePoint) ∉ name := hname.notMem (by decide) (by decide) (by decide)
  have hless : ('<' : CodePoint) ∉ name := hname.notMem (by decide) (by decide) (by decide)
  have htail : ('<' : CodePoint) ∉ (colonDirective name).tail := by
    have hshape : (colonDirective name).tail = opening.tail ++ (": ".text ++ (name ++ " -->".text)) := rfl
    rw [hshape, List.mem_append, List.mem_append, List.mem_append, not_or, not_or, not_or]
    exact ⟨by decide, by decide, hless, by decide⟩
  refine (declaredName?_append hmark).trans ?_
  refine (nameFrom_append (s := colonDirective name) before.reverse fun u c v heq => ?_).trans ?_
  · cases u with
    | nil =>
      have hnone := run_directive_colon_eq_none before.reverse after hdash hgreater
      rw [heq] at hnone
      exact hnone
    | cons b u =>
      refine run_word_eq_none (by decide) fun hprefix => htail ?_
      rw [heq, List.cons_append, List.tail_cons, ← (List.cons_prefix_cons.mp hprefix).1]
      exact List.mem_append_right u List.mem_cons_self
  · rw [declaredName?_eq]
    exact nameFrom_facing rfl rfl

end Forms

/-- **The comments that name a template.** The default pattern finds a usual name that is written in quotes, wherever
the first comment of the source is the one that names the template. A name that is written behind a colon it finds just
as well if there is no `-` in it; and if there is one, the comment is passed over, and what is behind it decides. -/
theorem declaredName?_of_directive {name before : Text} (hname : IsPlainName name)
    (hmark : ¬ "<!--".text <:+: before) (after : Text) :
    ∃ p, ofSource true Config.defaultPattern = .ok p ∧
      p.declaredName? (before ++ quotedDirective name ++ after) = some name ∧
      p.declaredName? (before ++ colonDirective name ++ after) =
        if ('-' : CodePoint) ∈ name then p.declaredName? after else some name := by
  refine ⟨default, ofSource_defaultPattern, ?_, ?_⟩
  · rw [List.append_assoc]
    exact declaredName?_quoted hname hmark
  · rw [List.append_assoc]
    split
    · rename_i hdash
      exact declaredName?_colon_of_dash hname hdash hmark
    · rename_i hdash
      exact declaredName?_colon hname hdash hmark

theorem declaredName?_of_directive_card :
    IsPlainName "user-card".text ∧ ¬ "<!--".text <:+: "<p>".text ∧
      ∃ p, ofSource true Config.defaultPattern = .ok p ∧
        p.declaredName? ("<p>".text ++ quotedDirective "user-card".text ++ "</p>".text) =
          some "user-card".text ∧
        p.declaredName? ("<p>".text ++ colonDirective "user-card".text ++ "</p>".text) =
          p.declaredName? "</p>".text := by
  have hname : IsPlainName "user-card".text :=
    ⟨List.all_eq_true.mp (by decide), ⟨'u', rfl, by decide⟩, ⟨'d', rfl, by decide⟩⟩
  have hmark : ¬ "<!--".text <:+: "<p>".text := by decide
  obtain ⟨p, hp, hquoted, hcolon⟩ := declaredName?_of_directive hname hmark "</p>".text
  exact ⟨hname, hmark, p, hp, hquoted, hcolon.trans (if_pos (by decide))⟩

/-- Behind a colon the same name is not found. -/
theorem hyphenated_name_not_declared :
    IsPlainName "user-card".text ∧
      ∃ p, ofSource true Config.defaultPattern = .ok p ∧ p.declaredName? (colonDirective "user-card".text) = none :=
  ⟨⟨List.all_eq_true.mp (by decide), ⟨'u', rfl, by decide⟩, ⟨'d', rfl, by decide⟩⟩, default,
    ofSource_defaultPattern, by decide +kernel⟩

end NamePattern

end HtmlTemplate
