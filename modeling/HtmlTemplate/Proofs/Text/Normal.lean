import HtmlTemplate.Text.Blank
import HtmlTemplate.Text.Case
import HtmlTemplate.Text.Word
import Mathlib.Data.List.DropRight
import Mathlib.Data.List.TakeWhile

/-!
# Trimmed texts and texts in lower case

A trimmed text has no blank at its ends (`firm_trim`), and a text without one is left as it is (`trim_of_firm`). The
lower-case form of a text consists of characters that are their own lower-case forms (`settled_lower`), so it is its own
one (`lower_lower`). Neither makes the other undone: what is no blank has no blank among its forms, so the lower-case
form of a trimmed text is trimmed (`Firm.lower`).
-/

namespace HtmlTemplate

namespace Text

/-! ## Blanks at the ends -/

/-- Whether no blank is at the ends of a text. -/
structure Firm (s : Text) : Prop where
  front : ∀ c ∈ s.head?, isBlank c = false
  back : ∀ c ∈ s.getLast?, isBlank c = false

theorem trimRight_eq (s : Text) : s.trimRight = s.rdropWhile isBlank := rfl

/-- What is left behind characters of a kind begins with none of them. -/
theorem head?_dropWhile (p : CodePoint → Bool) (s : Text) : ∀ c ∈ (s.dropWhile p).head?, p c = false := by
  intro c hc
  have h := List.head?_dropWhile_not p s
  rwa [Option.mem_def.mp hc] at h

theorem head?_trimLeft (s : Text) : ∀ c ∈ s.trimLeft.head?, isBlank c = false := head?_dropWhile isBlank s

theorem firm_trim (s : Text) : s.trim.Firm where
  front c hc := by
    obtain ⟨rest, hrest⟩ : s.trim <+: s.trimLeft := List.rdropWhile_prefix isBlank s.trimLeft
    refine head?_trimLeft s c ?_
    rw [← hrest, List.head?_append, hc]
    rfl
  back c hc := by
    rw [trim, trimRight, List.getLast?_reverse] at hc
    exact head?_trimLeft s.trimLeft.reverse c hc

theorem trim_of_firm {s : Text} (h : s.Firm) : s.trim = s := by
  have hleft : s.trimLeft = s := by
    cases s with
    | nil => rfl
    | cons c rest => exact List.dropWhile_cons_of_neg (by simpa using h.front c rfl)
  rw [trim, hleft, trimRight_eq, List.rdropWhile_eq_self_iff]
  exact fun hne => by simpa using h.back _ (List.getLast?_eq_some_getLast hne)

theorem trim_trim (s : Text) : s.trim.trim = s.trim := trim_of_firm (firm_trim s)

theorem trim_eq_nil_iff {s : Text} : s.trim = [] ↔ s.allBlank = true := by
  rw [trim, trimRight_eq, List.rdropWhile_eq_nil_iff, allBlank, List.all_eq_true]
  refine ⟨fun h c hc => ?_, fun h c hc => h c (List.dropWhile_sublist isBlank |>.mem hc)⟩
  -- a text that is dropped up to a blank is dropped whole
  have hnil : s.trimLeft = [] := by
    cases hs : s.trimLeft with
    | nil => rfl
    | cons d rest =>
      rw [hs] at h
      have hd := head?_trimLeft s d (by rw [hs]; rfl)
      rw [h d List.mem_cons_self] at hd
      cases hd
  exact List.dropWhile_eq_nil_iff.mp hnil c hc

end Text

/-! ## Lower-case forms

A capital has a form that is no capital. The table of capitals is looked through by its runs and not by its characters:
the forms of a run lie beside every other run, or between its members (`settles_lowerRuns`). -/

/-- Whether a character is in lower case, or has no case. -/
structure Settled (c : CodePoint) : Prop where
  lowerChar_eq : lowerChar c = c
  ne_dotted : c ≠ 'İ'
  ne_sigma : c ≠ 'Σ'

instance (c : CodePoint) : Decidable (Settled c) :=
  decidable_of_iff (lowerChar c = c ∧ c ≠ 'İ' ∧ c ≠ 'Σ')
    ⟨fun ⟨h, h', h''⟩ => ⟨h, h', h''⟩, fun ⟨h, h', h''⟩ => ⟨h, h', h''⟩⟩

/-- Whether a code point is in a run. -/
def CaseRun.Has : CaseRun → Nat → Prop
  | (first, last, step, _), n => first ≤ n ∧ n ≤ last ∧ (n - first) % step = 0

-- a comparison of two runs stays one of numbers, since the whole table is compared with itself
/-- Whether a run from `front` to `back` lies beside another run, or between its members. -/
def CaseRun.besides (front back step : Nat) (run : CaseRun) : Bool :=
  Nat.blt back run.1 || Nat.blt run.2.1 front ||
    ((front == back || step == 2) && run.2.2.1 == 2 && front % 2 != run.1 % 2)

/-- What no form of a capital is: a capital, a blank, or the dotted capital. -/
def unsettled : List CaseRun :=
  (0x130, 0x130, 1, 0) :: (blankTable.map fun (first, last) => (first, last, 1, 0) : List CaseRun) ++ lowerRuns

/-- Whether the forms of a run of capitals are settled. -/
def CaseRun.settles : CaseRun → Bool
  | (first, last, step, shift) =>
    match (first + shift : Int), (last + shift : Int) with
    | .ofNat front, .ofNat back => Nat.blt back 0x110000 && unsettled.all (CaseRun.besides front back step)
    | _, _ => false

theorem settles_lowerRuns : lowerRuns.all CaseRun.settles = true := by decide +kernel

theorem lowerShift_cases (runs : List CaseRun) (n : Nat) :
    lowerShift runs n = 0 ∨ ∃ run ∈ runs, run.Has n ∧ lowerShift runs n = run.2.2.2 := by
  induction runs with
  | nil => exact .inl rfl
  | cons run rest ih =>
    obtain ⟨first, last, step, shift⟩ := run
    rw [lowerShift]
    split
    · exact .inl rfl
    · rename_i hfirst
      split
      · rename_i hrun
        simp only [Bool.and_eq_true, decide_eq_true_eq, beq_iff_eq] at hrun
        exact .inr ⟨_, List.mem_cons_self, ⟨Nat.le_of_not_lt hfirst, hrun.1, hrun.2⟩, rfl⟩
      · exact ih.imp_right fun ⟨run, hmem, hhas⟩ => ⟨run, List.mem_cons_of_mem _ hmem, hhas⟩

theorem CaseRun.not_has_of_besides {front back step n : Nat} {run : CaseRun} (h : run.besides front back step = true)
    (hfront : front ≤ n) (hback : n ≤ back) (hstep : (n - front) % step = 0) : ¬ run.Has n := by
  obtain ⟨first, last, step', shift⟩ := run
  rintro ⟨hfirst, hlast, hstep'⟩
  simp only [CaseRun.besides, Bool.or_eq_true, Bool.and_eq_true, Nat.blt_eq, beq_iff_eq, bne_iff_ne] at h
  rcases h with (h | h) | ⟨⟨h | h, rfl⟩, hparity⟩
  · omega
  · omega
  · omega
  · subst h
    omega

/-- The form of a capital is in no run of what is not settled. -/
theorem CaseRun.not_has_of_mem {run : CaseRun} {n : Nat} (hrun : run ∈ lowerRuns) (hn : run.Has n) :
    ∃ m : Nat, (n + run.2.2.2 : Int) = m ∧ m < 0x110000 ∧ ∀ r ∈ unsettled, ¬ r.Has m := by
  have hsettles := List.all_eq_true.mp settles_lowerRuns run hrun
  obtain ⟨first, last, step, shift⟩ := run
  obtain ⟨hfirst, hlast, hstep⟩ := hn
  rw [CaseRun.settles] at hsettles
  split at hsettles
  · rename_i front back hfront hback
    rw [Int.ofNat_eq_natCast] at hfront hback
    rw [Bool.and_eq_true, Nat.blt_eq] at hsettles
    refine ⟨front + (n - first), by dsimp only; omega, by omega, fun r hr => ?_⟩
    exact CaseRun.not_has_of_besides (List.all_eq_true.mp hsettles.2 r hr) (by omega) (by omega)
      (by rwa [Nat.add_sub_cancel_left])
  · cases hsettles

theorem exists_of_hasCode {table : CharTable} {n : Nat} (h : table.hasCode n = true) :
    ∃ range ∈ table, range.1 ≤ n ∧ n ≤ range.2 := by
  induction table with
  | nil => cases h
  | cons range rest ih =>
    obtain ⟨first, last⟩ := range
    rw [CharTable.hasCode] at h
    split at h
    · cases h
    · rename_i hfirst
      split at h
      · rename_i hlast
        exact ⟨_, List.mem_cons_self, Nat.le_of_not_lt hfirst, hlast⟩
      · obtain ⟨range, hmem, hrange⟩ := ih h
        exact ⟨range, List.mem_cons_of_mem _ hmem, hrange⟩

/-- The characters of ASCII above the blank are none. -/
theorem isBlank_of_between {c : CodePoint} (h : 0x20 < c.toNat) (h' : c.toNat < 0x85) : isBlank c = false := by
  have hafter : ¬ c.toNat < 0x1C := by omega
  simp [isBlank, CharTable.has, blankTable, CharTable.hasCode]
  omega

theorem not_isBlank_of_isWord {c : CodePoint} (h : isWord c = true) : isBlank c = false := by
  by_contra hblank
  obtain ⟨blanks, hblanks, hrange⟩ := exists_of_hasCode (Bool.not_eq_false _ ▸ hblank)
  obtain ⟨words, hwords, hword⟩ := exists_of_hasCode h
  have hapart : ∀ word ∈ wordTable, ∀ range ∈ blankTable, word.2 < range.1 ∨ range.2 < word.1 := by decide +kernel
  have := hapart words hwords blanks hblanks
  omega

/-- A blank has no case. -/
theorem lowerCode_of_isBlank {c : CodePoint} (h : isBlank c = true) : lowerCode c.toNat = c.toNat := by
  have hall : ∀ range ∈ blankTable, ∀ n ∈ List.range' range.1 (range.2 + 1 - range.1), lowerCode n = n := by
    decide +kernel
  obtain ⟨range, hrange, hfirst, hlast⟩ := exists_of_hasCode h
  exact hall range hrange _ (List.mem_range'_1.mpr (by omega))

theorem lowerShift_of_not_has {m : Nat} (h : ∀ r ∈ unsettled, ¬ r.Has m) : lowerShift lowerRuns m = 0 := by
  rcases lowerShift_cases lowerRuns m with hzero | ⟨run, hrun, hhas, -⟩
  · exact hzero
  · exact absurd hhas (h run (List.mem_append_right _ hrun))

theorem hasCode_of_not_has {m : Nat} (h : ∀ r ∈ unsettled, ¬ r.Has m) : blankTable.hasCode m = false := by
  by_contra hblank
  obtain ⟨range, hrange, hfirst, hlast⟩ := exists_of_hasCode (by simpa using hblank)
  refine h (range.1, range.2, 1, 0) ?_ ⟨hfirst, hlast, Nat.mod_one _⟩
  exact List.mem_append_left _ (List.mem_cons_of_mem _ (List.mem_map_of_mem hrange))

/-- A code point that is in no such run is that of a settled character, and of no blank. -/
theorem settled_ofNat {m : Nat} (hm : m < 0x110000) (h : ∀ r ∈ unsettled, ¬ r.Has m) :
    Settled (CodePoint.ofNat m) ∧ isBlank (CodePoint.ofNat m) = false := by
  have hdotted : m ≠ 0x130 := fun hm => h _ List.mem_cons_self (by rw [hm]; exact ⟨Nat.le_refl _, Nat.le_refl _, rfl⟩)
  have htoNat : (CodePoint.ofNat m).toNat = m := CodePoint.toNat_ofNat hm
  have hcode : lowerCode m = m := by
    rw [lowerCode, if_neg hdotted, lowerShift_of_not_has h]
    simp
  refine ⟨⟨by rw [lowerChar, htoNat, hcode], fun heq => ?_, fun heq => ?_⟩, ?_⟩
  · rw [heq] at htoNat
    exact hdotted htoNat.symm
  · rw [heq] at htoNat
    rw [← htoNat] at hcode
    exact absurd hcode (by decide +kernel)
  · rw [isBlank, CharTable.has, htoNat]
    exact hasCode_of_not_has h

/-- A character but for the two special ones has a form that is settled, and that is a blank only if it is one. -/
theorem settled_lowerChar {c : CodePoint} (hdotted : c ≠ 'İ') (hsigma : c ≠ 'Σ') :
    Settled (lowerChar c) ∧ (isBlank c = false → isBlank (lowerChar c) = false) := by
  have hcode : lowerChar c = CodePoint.ofNat (c.toNat + lowerShift lowerRuns c.toNat).toNat := by
    have hne : c.toNat ≠ 0x130 := fun h => hdotted (CodePoint.toNat_inj.mp h)
    rw [lowerChar, lowerCode, if_neg hne]
  rcases lowerShift_cases lowerRuns c.toNat with hzero | ⟨run, hrun, hhas, hshift⟩
  · have hself : lowerChar c = c := by
      rw [hcode, hzero, Int.add_zero, Int.toNat_natCast, CodePoint.ofNat_toNat]
    rw [hself]
    exact ⟨⟨hself, hdotted, hsigma⟩, id⟩
  · obtain ⟨m, hsum, hm, hclear⟩ := CaseRun.not_has_of_mem hrun hhas
    rw [hcode, hshift, hsum, Int.toNat_natCast]
    obtain ⟨hsettled, hblank⟩ := settled_ofNat hm hclear
    exact ⟨hsettled, fun _ => hblank⟩

/-- The forms of the two special characters. -/
def specialForms : Text := ['i', '\u0307', 'ς', 'σ']

theorem settled_specialForms {d : CodePoint} (h : d ∈ specialForms) : Settled d ∧ isBlank d = false := by
  have hall : (specialForms.all fun d => decide (Settled d ∧ isBlank d = false)) = true := by decide +kernel
  exact of_decide_eq_true (List.all_eq_true.mp hall d h)

namespace Text

/-- The forms of a character stand in front of those of the rest. -/
theorem lowerAfter_cons (before : Text) (c : CodePoint) (rest : Text) :
    ∃ d image, lowerAfter before (c :: rest) = d :: image ++ lowerAfter (c :: before) rest ∧
      ∀ x ∈ d :: image, Settled x ∧ (isBlank c = false → isBlank x = false) := by
  have hspecial : ∀ {image : Text}, image ⊆ specialForms →
      ∀ x ∈ image, Settled x ∧ (isBlank c = false → isBlank x = false) := by
    intro image himage x hx
    obtain ⟨hsettled, hblank⟩ := settled_specialForms (himage hx)
    exact ⟨hsettled, fun _ => hblank⟩
  rw [lowerAfter]
  split
  · exact ⟨_, _, rfl, hspecial (by simp [specialForms])⟩
  · rename_i hdotted
    split
    · split
      · exact ⟨_, _, rfl, hspecial (by simp [specialForms])⟩
      · exact ⟨_, _, rfl, hspecial (by simp [specialForms])⟩
    · rename_i hsigma
      exact ⟨_, _, rfl, fun x hx => List.mem_singleton.mp hx ▸ settled_lowerChar hdotted hsigma⟩

theorem settled_lowerAfter (before s : Text) : ∀ c ∈ lowerAfter before s, Settled c := by
  induction s generalizing before with
  | nil => exact nofun
  | cons c rest ih =>
    obtain ⟨d, image, heq, himage⟩ := lowerAfter_cons before c rest
    intro x hx
    rw [heq, List.mem_append] at hx
    exact hx.elim (fun hx => (himage x hx).1) (ih _ x)

theorem settled_lower (s : Text) : ∀ c ∈ s.lower, Settled c := settled_lowerAfter [] s

theorem lowerAfter_of_settled (before : Text) {s : Text} (h : ∀ c ∈ s, Settled c) : lowerAfter before s = s := by
  induction s generalizing before with
  | nil => rfl
  | cons c rest ih =>
    obtain ⟨hc, hrest⟩ := List.forall_mem_cons.mp h
    rw [lowerAfter, if_neg hc.ne_dotted, if_neg hc.ne_sigma, hc.lowerChar_eq, ih _ hrest]
    rfl

theorem lower_lower (s : Text) : s.lower.lower = s.lower := lowerAfter_of_settled [] (settled_lower s)

theorem lower_eq_nil_iff {s : Text} : s.lower = [] ↔ s = [] := by
  cases s with
  | nil => exact iff_of_true rfl rfl
  | cons c rest =>
    obtain ⟨d, image, heq, -⟩ := lowerAfter_cons [] c rest
    rw [lower, heq]
    exact iff_of_false nofun nofun

/-- The last form of a text is one of its last character. -/
theorem back_lowerAfter (before : Text) {s : Text} (h : ∀ c ∈ s.getLast?, isBlank c = false) :
    ∀ c ∈ (lowerAfter before s).getLast?, isBlank c = false := by
  induction s generalizing before with
  | nil => exact nofun
  | cons c rest ih =>
    obtain ⟨d, image, heq, himage⟩ := lowerAfter_cons before c rest
    intro x hx
    rw [heq, List.getLast?_append] at hx
    cases rest with
    | nil => exact (himage x (List.mem_of_getLast? hx)).2 (h c rfl)
    | cons c' rest =>
      obtain ⟨d', image', heq', -⟩ := lowerAfter_cons (c :: before) c' rest
      refine ih (c :: before) (fun y hy => h y (by rwa [List.getLast?_cons_cons])) x ?_
      rw [heq', List.cons_append, List.getLast?_cons] at hx ⊢
      exact hx

theorem Firm.lower {s : Text} (h : s.Firm) : s.lower.Firm where
  front := by
    cases s with
    | nil => exact nofun
    | cons c rest =>
      obtain ⟨d, image, heq, himage⟩ := lowerAfter_cons [] c rest
      intro x hx
      rw [Text.lower, heq] at hx
      cases hx
      exact (himage d List.mem_cons_self).2 (h.front c rfl)
  back := back_lowerAfter [] h.back

end Text

end HtmlTemplate
