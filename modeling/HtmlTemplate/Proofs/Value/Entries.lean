import HtmlTemplate.Value.Basic

/-!
# Look-ups in entries

If each key stands once, a look-up finds exactly what stands under its key (`lookup_eq_some_iff_mem`), and inserting
what is there changes nothing (`insert_eq_self`).
-/

namespace HtmlTemplate.Entries

variable {α : Type} {entries : Entries α} {key : Text} {a : α}

/-- If each key stands once, what is found under a key is what stands under it. -/
theorem lookup_eq_some_iff_mem (h : (keys entries).Nodup) {key : Text} {a : α} :
    entries.lookup key = some a ↔ (key, a) ∈ entries := by
  induction entries with
  | nil => exact iff_of_false nofun List.not_mem_nil
  | cons e rest ih =>
    obtain ⟨k, b⟩ := e
    obtain ⟨hk, hrest⟩ := List.nodup_cons.mp h
    rw [List.lookup_cons, List.mem_cons]
    by_cases hkey : key = k
    · subst hkey
      have hnot : (key, a) ∉ rest := fun hmem => hk (List.mem_map.mpr ⟨_, hmem, rfl⟩)
      rw [beq_self_eq_true, or_iff_left hnot, Option.some_inj, Prod.mk.injEq]
      exact ⟨fun h => ⟨rfl, h.symm⟩, fun h => h.2.symm⟩
    · rw [beq_eq_false_iff_ne.mpr hkey]
      dsimp only
      rw [ih hrest, or_iff_right (fun h' => hkey (congrArg Prod.fst h'))]

theorem eq_of_mem_of_mem (h : (keys entries).Nodup) {key : Text} {a b : α} (ha : (key, a) ∈ entries)
    (hb : (key, b) ∈ entries) : a = b := by
  rw [← lookup_eq_some_iff_mem h] at ha hb
  exact Option.some.inj (ha.symm.trans hb)

theorem lookup_eq_none_iff : entries.lookup key = none ↔ key ∉ keys entries := by
  rw [List.lookup_eq_none_iff, keys, List.mem_map]
  constructor
  · rintro h ⟨e, he, rfl⟩
    simpa using h e he
  · intro h e he
    simpa using fun heq : key = e.1 => h ⟨e, he, heq.symm⟩

theorem insert_eq_self (h : entries.lookup key = some a) : insert key a entries = entries := by
  induction entries with
  | nil => cases h
  | cons e rest ih =>
    obtain ⟨k, b⟩ := e
    by_cases hk : k = key
    · subst hk
      simp_all [insert]
    · have hne : (key == k) = false := by simpa using Ne.symm hk
      rw [List.lookup_cons, hne] at h
      rw [insert, if_neg hk, ih h]

/-- What has no entry yet is inserted at the end. -/
theorem insert_eq_append (h : key ∉ keys entries) (a : α) : insert key a entries = entries ++ [(key, a)] := by
  induction entries with
  | nil => rfl
  | cons e rest ih =>
    obtain ⟨k, b⟩ := e
    rw [keys, List.map_cons, List.mem_cons, not_or] at h
    rw [insert, if_neg (Ne.symm h.1), ih h.2, List.cons_append]

end HtmlTemplate.Entries
