import HtmlTemplate.Config.Settings
import Mathlib.Data.List.Nodup

/-!
# Settings laid over settings

A name gives what the settings above give last by it, and what the settings below give if those above give nothing
(`find?_overlaid`). Settings that are laid over others give nothing twice (`nodup_names_overlaid`), so that it does not
matter from which end they are searched (`find?_reverse`).
-/

namespace HtmlTemplate.Settings

variable {α β : Type} {name : Text} {key : Datum} {a : α} {settings below above : Settings α}

/-- The names by which settings give something. -/
def names : Settings α → List Text
  | [] => []
  | (.text key, _) :: rest => key :: names rest
  | _ :: rest => names rest

/-! ## What is found -/

theorem find?_cons (key : Datum) (a : α) (settings : Settings α) :
    find? name ((key, a) :: settings) = (find? name [(key, a)]).or (find? name settings) := by
  cases key with
  | text s => by_cases h : s = name <;> simp [find?, h]
  | _ => rfl

theorem find?_append (first second : Settings α) :
    find? name (first ++ second) = (find? name first).or (find? name second) := by
  induction first with
  | nil => rfl
  | cons entry rest ih =>
    obtain ⟨key, a⟩ := entry
    rw [List.cons_append, find?_cons, ih, find?_cons key a rest, Option.or_assoc]

theorem find?_map (f : α → β) (settings : Settings α) :
    find? name (settings.map fun (key, a) => (key, f a)) = (find? name settings).map f := by
  induction settings with
  | nil => rfl
  | cons entry rest ih =>
    obtain ⟨key, a⟩ := entry
    cases key with
    | text s =>
      rw [List.map_cons, find?, find?]
      split
      · rfl
      · exact ih
    | _ => exact ih

theorem find?_eq_none_iff : find? name settings = none ↔ name ∉ names settings := by
  induction settings with
  | nil => simp [find?, names]
  | cons entry rest ih =>
    obtain ⟨key, a⟩ := entry
    cases key with
    | text s =>
      rw [find?, names, List.mem_cons, not_or, ← ih]
      split <;> simp_all [eq_comm]
    | _ => exact ih

/-! ## Laying over -/

theorem find?_add (settings : Settings α) (entry : Datum × α) :
    (settings.add entry).find? name = (find? name [entry]).or (settings.find? name) := by
  obtain ⟨key, a⟩ := entry
  cases key with
  | text s =>
    by_cases h : s = name
    · subst h
      rw [add, find?_put_self, find?, if_pos rfl, Option.some_or]
    · rw [add, find?_put_of_ne a settings (Ne.symm h), find?, if_neg h, find?, Option.none_or]
  | _ => exact find?_append_of_not_text a settings name (by simp)

/-- A name gives what the settings above give last by it, and else what the settings below give. -/
theorem find?_overlaid (below above : Settings α) :
    (overlaid below above).find? name = (find? name above.reverse).or (below.find? name) := by
  induction above generalizing below with
  | nil => rfl
  | cons entry rest ih =>
    rw [overlaid, List.foldl_cons, ← overlaid, ih, find?_add, List.reverse_cons, find?_append, Option.or_assoc]

theorem put_map (f : α → β) (name : Text) (a : α) (settings : Settings α) :
    put name (f a) (settings.map fun (key, a) => (key, f a)) =
      (put name a settings).map fun (key, a) => (key, f a) := by
  induction settings with
  | nil => rfl
  | cons entry rest ih =>
    obtain ⟨key, b⟩ := entry
    cases key with
    | text s =>
      rw [List.map_cons, put, put]
      split
      · rfl
      · exact congrArg _ ih
    | _ => exact congrArg _ ih

theorem add_map (f : α → β) (settings : Settings α) (key : Datum) (a : α) :
    add (settings.map fun (key, a) => (key, f a)) (key, f a) =
      (settings.add (key, a)).map fun (key, a) => (key, f a) := by
  cases key with
  | text name => exact put_map f name a settings
  | _ => simp [add]

/-- What is given by the names may be changed before laying over as well as afterwards. -/
theorem overlaid_map (f : α → β) (below above : Settings α) :
    overlaid (below.map fun (key, a) => (key, f a)) (above.map fun (key, a) => (key, f a)) =
      (overlaid below above).map fun (key, a) => (key, f a) := by
  induction above generalizing below with
  | nil => rfl
  | cons entry rest ih => rw [overlaid, List.map_cons, List.foldl_cons, add_map, ← overlaid, ih, overlaid, overlaid,
    List.foldl_cons]

/-! ## Keys -/

theorem mem_keys_put (name : Text) (a : α) (settings : Settings α) :
    key ∈ (put name a settings).map Prod.fst ↔ key = .text name ∨ key ∈ settings.map Prod.fst := by
  fun_induction put name a settings <;> grind

theorem mem_keys_add (settings : Settings α) (entry : Datum × α) :
    key ∈ (settings.add entry).map Prod.fst ↔ key = entry.1 ∨ key ∈ settings.map Prod.fst := by
  obtain ⟨k, a⟩ := entry
  cases k with
  | text name => exact mem_keys_put name a settings
  | _ => simp [add, or_comm]

/-- The keys of settings laid over others are the keys of both. -/
theorem mem_keys_overlaid (below above : Settings α) :
    key ∈ (overlaid below above).map Prod.fst ↔ key ∈ above.map Prod.fst ∨ key ∈ below.map Prod.fst := by
  induction above generalizing below with
  | nil => simp [overlaid]
  | cons entry rest ih =>
    rw [overlaid, List.foldl_cons, ← overlaid, ih, mem_keys_add, List.map_cons, List.mem_cons, or_left_comm, or_assoc]

/-! ## Nothing is given twice -/

theorem names_put (name : Text) (a : α) (settings : Settings α) :
    names (put name a settings) = if name ∈ names settings then names settings else names settings ++ [name] := by
  induction settings with
  | nil => rfl
  | cons entry rest ih =>
    obtain ⟨key, b⟩ := entry
    cases key with
    | text s =>
      by_cases h : s = name
      · simp [put, names, h]
      · simp only [put, if_neg h, names, ih, List.mem_cons, or_iff_right (Ne.symm h)]
        split <;> rfl
    | _ => exact ih

theorem nodup_names_put (name : Text) (a : α) (h : (names settings).Nodup) : (names (put name a settings)).Nodup := by
  rw [names_put]
  split
  · exact h
  · exact List.nodup_append_comm.mp (h.cons ‹_›)

theorem nodup_names_add (entry : Datum × α) (h : (names settings).Nodup) : (names (settings.add entry)).Nodup := by
  obtain ⟨key, a⟩ := entry
  have happend (hkey : ∀ s, key ≠ .text s) : names (settings ++ [(key, a)]) = names settings := by
    clear h
    fun_induction names settings <;> simp_all [names]
  cases key with
  | text name => exact nodup_names_put name a h
  | _ => exact happend (by simp) ▸ h

theorem nodup_names_overlaid (h : (names below).Nodup) (above : Settings α) : (names (overlaid below above)).Nodup := by
  induction above generalizing below with
  | nil => exact h
  | cons entry rest ih => exact ih (nodup_names_add entry h)

theorem find?_reverse (h : (names settings).Nodup) : find? name settings.reverse = find? name settings := by
  induction settings with
  | nil => rfl
  | cons entry rest ih =>
    obtain ⟨key, a⟩ := entry
    rw [List.reverse_cons, find?_append, find?_cons key a rest]
    cases key with
    | text s =>
      obtain ⟨hs, hrest⟩ := List.nodup_cons.mp h
      rw [ih hrest]
      by_cases hname : s = name
      · subst hname
        rw [find?_eq_none_iff.mpr hs, Option.none_or, Option.or_none]
      · rw [find?, if_neg hname, find?, Option.none_or, Option.or_none]
    | _ => exact (congrArg (Option.or · none) (ih h)).trans (Option.or_none ..)

end HtmlTemplate.Settings
