import Mathlib.Data.List.Forall2

/-!
# Computations that may fail

Computations that are done one after the other have the results of all of them (`mem_iff_of_mapM`), or fail as the first
that fails (`mapM_eq_error_iff`).
-/

namespace HtmlTemplate

variable {α β ε δ : Type}

theorem map_eq_error_iff {x : Except ε α} {f : α → β} {e : ε} : x.map f = .error e ↔ x = .error e := by
  cases x <;> simp [Except.map]

theorem map_eq_ok_iff {x : Except ε α} {f : α → β} {b : β} : x.map f = .ok b ↔ ∃ a, x = .ok a ∧ f a = b := by
  cases x <;> simp [Except.map]

theorem bind_eq_ok_iff {x : Except ε α} {f : α → Except ε β} {b : β} :
    x.bind f = .ok b ↔ ∃ a, x = .ok a ∧ f a = .ok b := by
  cases x <;> simp [Except.bind]

theorem bind_eq_error_iff {x : Except ε α} {f : α → Except ε β} {e : ε} :
    x.bind f = .error e ↔ x = .error e ∨ ∃ a, x = .ok a ∧ f a = .error e := by
  cases x <;> simp [Except.bind]

theorem mapError_eq_error_iff {x : Except ε α} {f : ε → δ} {e : δ} :
    x.mapError f = .error e ↔ ∃ e', x = .error e' ∧ f e' = e := by
  cases x <;> simp [Except.mapError]

theorem mapError_eq_ok_iff {x : Except ε α} {f : ε → δ} {a : α} : x.mapError f = .ok a ↔ x = .ok a := by
  cases x <;> simp [Except.mapError]

/-- Two computations have results alike under `f` exactly if both fail in the same way or both have such results. -/
theorem map_eq_map_iff {f : α → β} {x y : Except ε α} : x.map f = y.map f ↔
    (∃ e, x = .error e ∧ y = .error e) ∨ ∃ a b, x = .ok a ∧ y = .ok b ∧ f a = f b := by
  cases x <;> cases y <;> simp [Except.map, eq_comm]

section

variable {f : α → Except ε β}

theorem mapM_cons_except (x : α) (xs : List α) :
    (x :: xs).mapM f = (f x).bind fun y => (xs.mapM f).map fun ys => y :: ys := by
  rw [List.mapM_cons]
  cases f x with
  | error e => rfl
  | ok y => cases xs.mapM f <;> rfl

theorem mapM_append_except (xs ys : List α) :
    (xs ++ ys).mapM f = (xs.mapM f).bind fun front => (ys.mapM f).map fun back => front ++ back := by
  rw [List.mapM_append]
  cases xs.mapM f with
  | error e => rfl
  | ok front => cases ys.mapM f <;> rfl

theorem mem_iff_of_mapM {xs : List α} {ys : List β} (h : xs.mapM f = .ok ys) {y : β} :
    y ∈ ys ↔ ∃ x ∈ xs, f x = .ok y := by
  induction xs generalizing ys with
  | nil =>
    cases h
    simp
  | cons x xs ih =>
    rw [mapM_cons_except] at h
    cases hx : f x with
    | error e => rw [hx] at h; cases h
    | ok b =>
      cases hxs : xs.mapM f with
      | error e => rw [hx, hxs] at h; cases h
      | ok bs =>
        rw [hx, hxs] at h
        cases h
        rw [List.mem_cons, ih hxs, List.exists_mem_cons_iff, hx, Except.ok.injEq, eq_comm]

/-- Computations that are done one after the other have results exactly if each of them has one. -/
theorem mapM_eq_ok_iff {xs : List α} {ys : List β} :
    xs.mapM f = .ok ys ↔ List.Forall₂ (fun x y => f x = .ok y) xs ys := by
  induction xs generalizing ys with
  | nil =>
    rw [List.forall₂_nil_left_iff]
    exact ⟨fun h => by cases h; rfl, fun h => by rw [h]; rfl⟩
  | cons x xs ih =>
    rw [mapM_cons_except, List.forall₂_cons_left_iff]
    cases f x with
    | error e => simp [Except.bind]
    | ok y =>
      rw [Except.bind, map_eq_ok_iff]
      simp only [ih, Except.ok.injEq, exists_eq_left', @eq_comm _ ys, exists_and_left]

theorem exists_of_mapM {xs : List α} {ys : List β} (h : xs.mapM f = .ok ys) {x : α} (hx : x ∈ xs) :
    ∃ y, f x = .ok y := by
  have hall := mapM_eq_ok_iff.mp h
  obtain ⟨i, hi, rfl⟩ := List.getElem_of_mem hx
  exact ⟨_, hall.get hi (hall.length_eq ▸ hi)⟩

/-- A list of computations fails as the first of them that fails. -/
theorem mapM_eq_error_iff {xs : List α} {e : ε} : xs.mapM f = .error e ↔
    ∃ front x back, xs = front ++ x :: back ∧ (∀ a ∈ front, ∃ y, f a = .ok y) ∧ f x = .error e := by
  induction xs with
  | nil =>
    refine iff_of_false nofun ?_
    rintro ⟨front, x, back, hnil, -⟩
    cases front <;> cases hnil
  | cons a rest ih =>
    rw [mapM_cons_except]
    constructor
    · intro h
      cases ha : f a with
      | error e' =>
        rw [ha] at h
        cases h
        exact ⟨[], a, rest, rfl, nofun, ha⟩
      | ok y =>
        cases hrest : rest.mapM f with
        | ok ys => rw [ha, hrest] at h; cases h
        | error e' =>
          rw [ha, hrest] at h
          cases h
          obtain ⟨front, x, back, rfl, hfront, hx⟩ := ih.mp hrest
          exact ⟨a :: front, x, back, rfl, List.forall_mem_cons.mpr ⟨⟨y, ha⟩, hfront⟩, hx⟩
    · rintro ⟨front, x, back, heq, hfront, hx⟩
      cases front with
      | nil =>
        cases heq
        rw [hx]
        rfl
      | cons b front =>
        cases heq
        obtain ⟨⟨y, ha⟩, hfront⟩ := List.forall_mem_cons.mp hfront
        rw [ha, ih.mpr ⟨front, x, back, rfl, hfront, hx⟩]
        rfl

theorem exists_mapM_eq_ok {xs : List α} (h : ∀ a ∈ xs, ∃ y, f a = .ok y) : ∃ ys, xs.mapM f = .ok ys := by
  cases hxs : xs.mapM f with
  | ok ys => exact ⟨ys, rfl⟩
  | error e =>
    obtain ⟨front, x, back, rfl, -, hx⟩ := mapM_eq_error_iff.mp hxs
    obtain ⟨y, hy⟩ := h x (List.mem_append_right _ List.mem_cons_self)
    rw [hx] at hy
    cases hy

theorem exists_mapM_eq_error_iff {xs : List α} : (∃ e, xs.mapM f = .error e) ↔ ∃ x ∈ xs, ∃ e, f x = .error e := by
  constructor
  · rintro ⟨e, h⟩
    obtain ⟨front, x, back, rfl, -, hx⟩ := mapM_eq_error_iff.mp h
    exact ⟨x, List.mem_append_right _ List.mem_cons_self, e, hx⟩
  · rintro ⟨x, hmem, e, hx⟩
    cases h : xs.mapM f with
    | error e' => exact ⟨e', rfl⟩
    | ok ys =>
      obtain ⟨y, hy⟩ := exists_of_mapM h hmem
      rw [hx] at hy
      cases hy

end

end HtmlTemplate
