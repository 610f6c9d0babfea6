import HtmlTemplate.Config.Schema
import HtmlTemplate.Proofs.Number.Rounding

/-!
# What the rules for settings allow

Which data each rule allows, and what settings look like that break no rule (`violations_eq_nil_iff`).
-/

namespace HtmlTemplate

namespace Number

/-- A whole number is less than nought exactly if its integer is. -/
theorem isNegative_iff {n : Number} {k : ℤ} (h : n.toInt? = some k) : n.isNegative = true ↔ k < 0 := by
  rcases n with n | (i | s | ⟨s, m, e⟩)
  · cases h
    exact decide_eq_true_iff
  · cases h
  · cases h
  · obtain ⟨hb, hscale⟩ := Double.scale_eq m one_ne_zero (-e)
    rw [toInt?, Double.toInt?, Double.ratio?] at h
    generalize Double.scale m 1 (-e) = ab at hb hscale h
    obtain ⟨a, b⟩ := ab
    have ha : a = 0 ↔ m = 0 := by
      have hb' : (b : ℚ) ≠ 0 := by exact_mod_cast hb
      have hpow : (2 : ℚ) ^ e ≠ 0 := zpow_ne_zero _ two_ne_zero
      have hzero : (a : ℚ) / b = 0 ↔ (m : ℚ) = 0 := by simp [hscale, hpow]
      simpa [hb] using hzero
    have hb'' : 0 < (b : ℤ) := by omega
    simp only [Option.ite_none_right_eq_some, Option.some.injEq] at h
    obtain ⟨hmod, rfl⟩ := h
    cases s with
    | false =>
      have hnonneg : 0 ≤ (a : ℤ) / b := by positivity
      simpa [isNegative] using hnonneg
    | true =>
      have hmul : (b : ℤ) * (-(a : ℤ) / b) = -a := Int.mul_ediv_cancel' (Int.dvd_of_emod_eq_zero hmod)
      have hneg : -(a : ℤ) / b < 0 ↔ a ≠ 0 := by
        constructor
        · rintro hlt rfl
          simp at hlt
        · intro h0
          by_contra hge
          have := mul_nonneg hb''.le (not_lt.mp hge)
          omega
      simpa [isNegative, ha] using hneg.symm

end Number

namespace Schema

variable {d : Datum} {check : Datum → List Breach} {settings : Settings Datum}

theorem checkText_eq_nil_iff : checkText d = [] ↔ ∃ s, d = .text s ∧ s ≠ [] := by
  fun_cases checkText d <;> simp_all

theorem checkExtension_eq_nil_iff : checkExtension d = [] ↔ ∃ s, d = .text ('.' :: s) := by
  fun_cases checkExtension d <;> simp_all

theorem checkBool_eq_nil_iff : checkBool d = [] ↔ ∃ b, d = .bool b := by
  fun_cases checkBool d <;> simp_all

theorem checkNatural_eq_nil_iff : checkNatural d = [] ↔ ∃ n, d = .number n ∧ ∃ k : ℕ, n.toInt? = some (k : ℤ) := by
  cases d with
  | number n =>
    have hwhole : n.isWhole = n.toInt?.isSome := by cases n <;> rfl
    cases h : n.toInt? with
    | none => simp [checkNatural, hwhole, h]
    | some k =>
      have hnegative := Number.isNegative_iff h
      simp only [checkNatural, hwhole, h, Option.isSome_some, if_true, List.nil_append, ite_eq_right_iff,
        List.cons_ne_nil, imp_false, hnegative, Datum.number.injEq, exists_eq_left', Option.some.injEq]
      constructor
      · exact fun hk => ⟨k.toNat, by omega⟩
      · omega
  | _ => simp [checkNatural]

theorem checkItems_eq_nil_iff (place : Text) (index : ℕ) (items : List Datum) :
    checkItems check place index items = [] ↔ ∀ d ∈ items, check d = [] := by
  induction items generalizing index with
  | nil => simp [checkItems]
  | cons d rest ih => simp [checkItems, ih]

theorem checkList_eq_nil_iff (place : Text) :
    checkList check place d = [] ↔
      ∃ identity items, d = .list identity items ∧ items ≠ [] ∧ ∀ item ∈ items, check item = [] := by
  fun_cases checkList check place d <;> simp_all [checkItems_eq_nil_iff]

/-- A rule for what some settings give by a name. -/
def Given (settings : Settings Datum) (name : String) (check : Datum → Prop) : Prop :=
  ∀ d, settings.find? name.text = some d → check d

theorem checkSettings_eq_nil_iff :
    (∀ name ∈ settingNames, ∀ d, settings.find? name = some d → checkSetting name d = []) ↔
      Given settings "caseInsensitiveNames" (checkBool · = []) ∧
        Given settings "contentVarName" (checkText · = []) ∧
        Given settings "directories" (checkList checkText "directories".text · = []) ∧
        Given settings "encoding" (checkText · = []) ∧
        Given settings "extensions" (checkList checkExtension "extensions".text · = []) ∧
        Given settings "maxDepth" (checkNatural · = []) ∧
        Given settings "nameDirectivePattern" (checkText · = []) := by
  have hone {name : String} {check : Datum → List Breach}
      (h : ∀ d, checkSetting name.text d = (check d).map (Violation.mk name.text)) :
      (∀ d, settings.find? name.text = some d → checkSetting name.text d = []) ↔
        Given settings name (check · = []) :=
    forall₂_congr fun d _ => by rw [h, List.map_eq_nil_iff]
  rw [settingNames, List.forall_mem_map]
  simp only [List.forall_mem_cons, List.not_mem_nil, false_imp_iff, implies_true, and_true]
  refine and_congr (hone fun _ => rfl) (and_congr (hone fun _ => rfl) (and_congr Iff.rfl (and_congr (hone fun _ => rfl)
    (and_congr Iff.rfl (and_congr (hone fun _ => rfl) (hone fun _ => rfl))))))

/-- Settings break no rule if every key names a setting, there are directories, and every setting is as it has to be. -/
theorem violations_eq_nil_iff :
    violations settings = [] ↔
      (∀ key ∈ settings.map Prod.fst, isSettingName key = true) ∧ (settings.find? "directories".text).isSome ∧
        ∀ name ∈ settingNames, ∀ d, settings.find? name = some d → checkSetting name d = [] := by
  have hunknown : unknownSettings settings = [] ↔ ∀ key ∈ settings.map Prod.fst, isSettingName key = true := by
    have hkeys : (settings.map Prod.fst).filter (fun key => !isSettingName key) = [] ↔
        ∀ key ∈ settings.map Prod.fst, isSettingName key = true := by
      simp only [List.filter_eq_nil_iff, Bool.not_eq_true, Bool.not_eq_false']
    rw [← hkeys, unknownSettings]
    split
    · rename_i h
      simp only [h]
    · rename_i h
      exact iff_of_false (List.cons_ne_nil _ _) h
  have hmissing : missingSettings settings = [] ↔ (settings.find? "directories".text).isSome := by
    simp only [missingSettings, ite_eq_left_iff, List.cons_ne_nil, imp_false, not_not]
  rw [violations, List.append_eq_nil_iff, List.append_eq_nil_iff, List.flatMap_eq_nil_iff, hunknown, hmissing,
    and_assoc]
  refine and_congr_right fun _ => and_congr_right fun _ => forall₂_congr fun name _ => ?_
  cases settings.find? name <;> simp

end Schema

end HtmlTemplate
