import HtmlTemplate.Report
import HtmlTemplate.Proofs.Except

/-!
# Computations that break off

An error is either one of the language, which is told, or one of what lies below it, on which all work breaks off
(`BreaksOff`). Computations that are done one after the other break off where the first of them does
(`breaksOff_bind_iff`).
-/

namespace HtmlTemplate

/-- The report is one of a defect of what lies below the language. -/
def Report.IsBelow (r : Report) : Prop := ∃ defect message, r = .below defect message

theorem Report.isBelow_below (defect : Defect) (message : Text) : (Report.below defect message).IsBelow := ⟨_, _, rfl⟩

theorem Report.not_isBelow_language (code message : Text) (context : Entries Value) :
    ¬ (Report.language code message context).IsBelow := nofun

theorem Report.not_isBelow_about (code : String) (message : Text) (context : List (String × Value)) :
    ¬ (Report.about code message context).IsBelow := nofun

/-- The computation fails with an error that lies below the language. -/
def BreaksOff {ε α : Type} (report : ε → Report) (x : Except ε α) : Prop := ∃ e, x = .error e ∧ (report e).IsBelow

section

variable {ε δ α β : Type} {report : ε → Report} {x : Except ε α}

theorem not_breaksOff_ok (a : α) : ¬ BreaksOff report (.ok a) := nofun

theorem breaksOff_error_iff {e : ε} : BreaksOff report (.error e : Except ε α) ↔ (report e).IsBelow := by
  simp [BreaksOff]

theorem breaksOff_bind_iff {f : α → Except ε β} :
    BreaksOff report (x.bind f) ↔ BreaksOff report x ∨ ∃ a, x = .ok a ∧ BreaksOff report (f a) := by
  cases x <;> simp [BreaksOff, Except.bind]

theorem breaksOff_map_iff {f : α → β} : BreaksOff report (x.map f) ↔ BreaksOff report x := by
  cases x <;> simp [BreaksOff, Except.map]

/-- An error that is told as another one breaks off as that one does. -/
theorem breaksOff_mapError_iff {report' : δ → Report} {f : ε → δ} (h : ∀ e, report' (f e) = report e) :
    BreaksOff report' (x.mapError f) ↔ BreaksOff report x := by
  cases x <;> simp [BreaksOff, Except.mapError, h]

/-- A list of computations breaks off at the first that fails, if that one does. -/
theorem breaksOff_mapM_iff {f : α → Except ε β} {xs : List α} :
    BreaksOff report (xs.mapM f) ↔
      ∃ front x back, xs = front ++ x :: back ∧ (∀ a ∈ front, ∃ y, f a = .ok y) ∧ BreaksOff report (f x) := by
  simp only [BreaksOff, mapM_eq_error_iff]
  grind

/-- A computation all of whose errors lie below the language breaks off exactly if it fails. -/
theorem breaksOff_iff_of_isBelow (h : ∀ e, x = .error e → (report e).IsBelow) :
    BreaksOff report x ↔ ∃ e, x = .error e :=
  exists_congr fun e => and_iff_left_of_imp (h e)

theorem breaksOff_mapError_iff_of_isBelow {report' : δ → Report} {f : ε → δ} (h : ∀ e, (report' (f e)).IsBelow) :
    BreaksOff report' (x.mapError f) ↔ ∃ e, x = .error e := by
  cases x with
  | error e => exact iff_of_true ⟨f e, rfl, h e⟩ ⟨e, rfl⟩
  | ok a => exact iff_of_false (not_breaksOff_ok a) nofun

theorem breaksOff_mapM_iff_of_isBelow {f : α → Except ε β} {xs : List α}
    (h : ∀ x e, f x = .error e → (report e).IsBelow) :
    BreaksOff report (xs.mapM f) ↔ ∃ x ∈ xs, ∃ e, f x = .error e := by
  rw [← exists_mapM_eq_error_iff]
  refine breaksOff_iff_of_isBelow fun e he => ?_
  obtain ⟨_, x, _, -, -, hx⟩ := mapM_eq_error_iff.mp he
  exact h x e hx

end

end HtmlTemplate
