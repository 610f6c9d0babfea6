import HtmlTemplate.Proofs.Value.Entries
import HtmlTemplate.Value.Merge
import Mathlib.Data.List.Nodup

/-!
# Mappings laid over mappings

A mapping that is laid over another one is found in it: what has been merged holds, at each path of keys, what the
mapping above has there, what the one below has where the one above says nothing, and the merge of both where both have
mappings (`at?_mergeOver_cons` is the step from a mapping to its entries). To lay a mapping over once more changes
nothing (`mergeOver_mergeOver`); so merging has the laws of a union in which the second side wins
(`mergeEntries_rightBiased`).
-/

namespace HtmlTemplate.Value

/-! ## Paths of keys -/

/-- What a value has at a path of keys, each of which leads from a mapping to one of its entries. -/
def at? : List Text → Value → Option Value
  | [], v => some v
  | key :: path, .mapping entries => (entries.lookup key).bind (at? path)
  | _ :: _, _ => none

/-- Whether a value is a mapping. -/
def isMapping : Value → Bool
  | .mapping _ => true
  | _ => false

/-- Whether each mapping that a path of keys leads to has each of its keys once. -/
inductive Distinct : Value → Prop
  | mapping {entries : List (Text × Value)} :
      (Entries.keys entries).Nodup → (∀ e ∈ entries, Distinct e.2) → Distinct (.mapping entries)
  | other {v : Value} : v.isMapping = false → Distinct v

variable {below : Option Value} {v w : Value} {xs ys : Entries Value} {key : Text} {path : List Text}

theorem exists_of_isMapping (h : v.isMapping = true) : ∃ entries, v = .mapping entries := by
  cases v with
  | mapping entries => exact ⟨entries, rfl⟩
  | _ => cases h

theorem at?_cons_of_not_mapping (h : v.isMapping = false) (key : Text) (path : List Text) :
    v.at? (key :: path) = none := by
  cases v with
  | mapping entries => cases h
  | _ => rfl

/-- What stands below something is below a mapping. -/
theorem exists_of_at?_cons (h : v.at? (key :: path) = some w) :
    ∃ entries u, v = .mapping entries ∧ entries.lookup key = some u ∧ u.at? path = some w := by
  cases v with
  | mapping entries =>
    obtain ⟨u, hu, hw⟩ := Option.bind_eq_some_iff.mp h
    exact ⟨entries, u, rfl, hu, hw⟩
  | _ => cases h

theorem at?_append (front back : List Text) (v : Value) : v.at? (front ++ back) = (v.at? front).bind (at? back) := by
  induction front generalizing v with
  | nil => rfl
  | cons key front ih =>
    cases v with
    | mapping entries =>
      rw [List.cons_append, at?, at?]
      cases entries.lookup key with
      | none => rfl
      | some u => exact ih u
    | _ => rfl

theorem distinct_mapping_iff : (Value.mapping xs).Distinct ↔ (Entries.keys xs).Nodup ∧ ∀ e ∈ xs, e.2.Distinct := by
  constructor
  · intro h
    cases h with
    | mapping hkeys hentries => exact ⟨hkeys, hentries⟩
    | other hv => cases hv
  · exact fun h => .mapping h.1 h.2

theorem Distinct.of_lookup (h : (Value.mapping xs).Distinct) (hv : xs.lookup key = some v) : v.Distinct := by
  obtain ⟨hkeys, hentries⟩ := distinct_mapping_iff.mp h
  exact hentries _ ((Entries.lookup_eq_some_iff_mem hkeys).mp hv)

/-! ## Laying a value over another one -/

@[simp] theorem mergeOver_none (v : Value) : mergeOver none v = v := by cases v <;> rfl

@[simp] theorem mergeOver_mapping (xs ys : Entries Value) :
    mergeOver (some (.mapping xs)) (.mapping ys) = .mapping (mergeEntries xs ys) := rfl

theorem mergeOver_of_not_mapping (h : v.isMapping = false) (below : Option Value) : mergeOver below v = v := by
  cases v with
  | mapping ys => cases h
  | _ => rfl

/-- A mapping is merged with a mapping, and takes the place of whatever else is there. -/
theorem mergeOver_mapping_cases (below : Option Value) (ys : Entries Value) :
    (∃ xs, below = some (.mapping xs)) ∨
      (∀ w, below = some w → w.isMapping = false) ∧ mergeOver below (.mapping ys) = .mapping ys := by
  cases below with
  | none => exact .inr ⟨nofun, rfl⟩
  | some w =>
    cases w with
    | mapping xs => exact .inl ⟨xs, rfl⟩
    | _ => exact .inr ⟨fun _ hw => by cases hw; rfl, rfl⟩

/-- Two values are merged only if both are mappings. -/
theorem mergeOver_eq_self (h : ¬ (v.isMapping = true ∧ ∃ w, below = some w ∧ w.isMapping = true)) :
    mergeOver below v = v := by
  by_cases hv : v.isMapping = true
  · obtain ⟨ys, rfl⟩ := exists_of_isMapping hv
    rcases mergeOver_mapping_cases below ys with ⟨xs, rfl⟩ | ⟨-, hself⟩
    · exact absurd ⟨rfl, _, rfl, rfl⟩ h
    · exact hself
  · exact mergeOver_of_not_mapping (by simpa using hv) below

/-- A key of merged mappings has the value above, laid over the one below, and else the one below. -/
theorem lookup_mergeEntries (h : (Entries.keys ys).Nodup) (xs : Entries Value) (key : Text) :
    (mergeEntries xs ys).lookup key = ((ys.lookup key).map (mergeOver (xs.lookup key))).or (xs.lookup key) := by
  induction ys generalizing xs with
  | nil => rfl
  | cons e rest ih =>
    obtain ⟨k, v⟩ := e
    obtain ⟨hk, hrest⟩ := List.nodup_cons.mp h
    rw [mergeEntries, ih hrest, List.lookup_cons]
    by_cases hkey : key = k
    · subst hkey
      have hnone : rest.lookup key = none := Entries.lookup_eq_none_iff.mpr hk
      simp [hnone, Entries.lookup_insert_self]
    · have hne : (key == k) = false := by simpa using hkey
      rw [hne, Entries.lookup_insert_of_ne _ _ hkey]

/-- One step down a path of merged values: where the mapping above has the key, its value is laid over the one below. -/
theorem at?_mergeOver_cons (h : (Entries.keys ys).Nodup) (below : Option Value) (key : Text) (path : List Text) :
    (mergeOver below (.mapping ys)).at? (key :: path) =
      match ys.lookup key with
      | some v => (mergeOver (below.bind (at? [key])) v).at? path
      | none => below.bind (at? (key :: path)) := by
  rcases mergeOver_mapping_cases below ys with ⟨xs, rfl⟩ | ⟨hother, hself⟩
  · have hfound : (some (Value.mapping xs)).bind (at? [key]) = xs.lookup key := by
      cases hx : xs.lookup key <;> simp [at?, hx]
    rw [mergeOver_mapping, at?, lookup_mergeEntries h, hfound]
    cases ys.lookup key <;> rfl
  · have hnone : ∀ path, below.bind (at? (key :: path)) = none := by
      intro path
      cases below with
      | none => rfl
      | some w => exact at?_cons_of_not_mapping (hother w rfl) key path
    rw [hself, hnone, hnone, at?]
    cases ys.lookup key <;> simp

/-! ## What is found at a path -/

/-- What the value above has at a path is there, unless it is merged with what is below. -/
theorem at?_mergeOver_of_above (hw : w.Distinct) (h : w.at? path = some v)
    (hboth : ¬ (v.isMapping = true ∧ ∃ u, below.bind (at? path) = some u ∧ u.isMapping = true)) :
    (mergeOver below w).at? path = some v := by
  induction path generalizing below w with
  | nil =>
    cases h
    have hbelow : below.bind (at? []) = below := by cases below <;> rfl
    rw [mergeOver_eq_self (by rwa [hbelow] at hboth)]
    rfl
  | cons key path ih =>
    obtain ⟨ys, u, rfl, hu, hv⟩ := exists_of_at?_cons h
    rw [at?_mergeOver_cons (distinct_mapping_iff.mp hw).1, hu]
    refine ih (hw.of_lookup hu) hv ?_
    rwa [Option.bind_assoc, ← funext (at?_append [key] path)]

/-- Where the value above has nothing, and nothing in the way but mappings, there is what the one below has. -/
theorem at?_mergeOver_of_below (hw : w.Distinct) (h : w.at? path = none)
    (hway : ∀ front, front <+: path → front ≠ path → ∀ v, w.at? front = some v → v.isMapping = true) :
    (mergeOver below w).at? path = below.bind (at? path) := by
  induction path generalizing below w with
  | nil => cases h
  | cons key path ih =>
    obtain ⟨ys, rfl⟩ := exists_of_isMapping (hway [] List.nil_prefix (List.cons_ne_nil _ _).symm w rfl)
    rw [at?_mergeOver_cons (distinct_mapping_iff.mp hw).1]
    cases hu : ys.lookup key with
    | none => rfl
    | some u =>
      have hstep : ∀ path, (Value.mapping ys).at? (key :: path) = u.at? path := fun path => by simp [at?, hu]
      dsimp only
      rw [ih (hw.of_lookup hu) (by rwa [hstep] at h), Option.bind_assoc, ← funext (at?_append [key] path)]
      · rfl
      · intro front hfront hne v hv
        exact hway (key :: front) (List.cons_prefix_cons.mpr ⟨rfl, hfront⟩) (by simpa using hne) v (by rwa [hstep])

/-- Where both have mappings, there is the merge of the two. -/
theorem at?_mergeOver_of_both (hw : w.Distinct) (hxs : below.bind (at? path) = some (.mapping xs))
    (hys : w.at? path = some (.mapping ys)) :
    (mergeOver below w).at? path = some (.mapping (mergeEntries xs ys)) := by
  induction path generalizing below w with
  | nil =>
    cases hys
    have hbelow : below.bind (at? []) = below := by cases below <;> rfl
    rw [hbelow] at hxs
    rw [hxs]
    rfl
  | cons key path ih =>
    obtain ⟨zs, u, rfl, hu, hv⟩ := exists_of_at?_cons hys
    rw [at?_mergeOver_cons (distinct_mapping_iff.mp hw).1, hu]
    refine ih (hw.of_lookup hu) ?_ hv
    rwa [Option.bind_assoc, ← funext (at?_append [key] path)]

/-! ## Laying over twice -/

/-- Entries that change nothing where they are laid over are there already. -/
theorem mergeEntries_eq_self (h : ∀ e ∈ ys, ∃ w, xs.lookup e.1 = some w ∧ mergeOver (some w) e.2 = w) :
    mergeEntries xs ys = xs := by
  induction ys with
  | nil => rfl
  | cons e rest ih =>
    obtain ⟨k, v⟩ := e
    obtain ⟨⟨w, hw, hself⟩, hrest⟩ := List.forall_mem_cons.mp h
    rw [mergeEntries, hw, hself, Entries.insert_eq_self hw, ih hrest]

/-- To lay a value over once more changes nothing. -/
theorem mergeOver_mergeOver (hv : v.Distinct) (below : Option Value) :
    mergeOver (some (mergeOver below v)) v = mergeOver below v := by
  induction hv generalizing below with
  | other hv => rw [mergeOver_of_not_mapping hv, mergeOver_of_not_mapping hv]
  | mapping hkeys _ ih =>
    rename_i ys _
    have hmem : ∀ e ∈ ys, ys.lookup e.1 = some e.2 := fun e he => (Entries.lookup_eq_some_iff_mem hkeys).mpr he
    rcases mergeOver_mapping_cases below ys with ⟨xs, rfl⟩ | ⟨-, hself⟩
    · -- each entry has been laid over what it is laid over again
      have htwice : mergeEntries (mergeEntries xs ys) ys = mergeEntries xs ys := by
        refine mergeEntries_eq_self fun e he => ⟨mergeOver (xs.lookup e.1) e.2, ?_, ih e he _⟩
        simp [lookup_mergeEntries hkeys, hmem e he]
      rw [mergeOver_mapping, mergeOver_mapping, htwice]
    · have hsame : mergeEntries ys ys = ys := by
        refine mergeEntries_eq_self fun e he => ⟨e.2, hmem e he, ?_⟩
        simpa using ih e he none
      rw [hself, mergeOver_mapping, hsame]

/-- Entries with new keys are put at the end. -/
theorem mergeEntries_eq_append (h : (Entries.keys (xs ++ ys)).Nodup) : mergeEntries xs ys = xs ++ ys := by
  induction ys generalizing xs with
  | nil => simp [mergeEntries]
  | cons e rest ih =>
    obtain ⟨k, v⟩ := e
    have hnew : k ∉ Entries.keys xs := by
      intro hk
      rw [Entries.keys, List.map_append, List.nodup_append] at h
      exact h.2.2 k hk k (by simp) rfl
    rw [mergeEntries, Entries.lookup_eq_none_iff.mpr hnew, mergeOver_none, Entries.insert_eq_append hnew,
      ih (by simpa using h)]
    simp

/-- **Merging is a union in which the mapping above wins.** Take two mappings, each of which has each of its keys once,
and so do the mappings inside of it. At each path of keys the merged mapping has the value of the one above, if that has
one and the two values there are not both mappings; it has what the one below has, if the one above has nothing there
and nothing but mappings on the way; and where both have mappings, it has the merge of these. So the empty mapping
changes nothing on either side, no mapping changes itself, and laying a mapping over twice is laying it over once. -/
theorem mergeEntries_rightBiased {base above : Entries Value} (hbase : (Value.mapping base).Distinct)
    (habove : (Value.mapping above).Distinct) :
    (∀ path v, (Value.mapping above).at? path = some v →
        ¬ (v.isMapping = true ∧ ∃ w, (Value.mapping base).at? path = some w ∧ w.isMapping = true) →
          (Value.mapping (mergeEntries base above)).at? path = some v) ∧
      (∀ path, (Value.mapping above).at? path = none →
        (∀ front, front <+: path → front ≠ path →
          ∀ v, (Value.mapping above).at? front = some v → v.isMapping = true) →
          (Value.mapping (mergeEntries base above)).at? path = (Value.mapping base).at? path) ∧
      (∀ path xs ys, (Value.mapping base).at? path = some (.mapping xs) →
        (Value.mapping above).at? path = some (.mapping ys) →
          (Value.mapping (mergeEntries base above)).at? path = some (.mapping (mergeEntries xs ys))) ∧
      mergeEntries base [] = base ∧ mergeEntries [] above = above ∧ mergeEntries base base = base ∧
      mergeEntries (mergeEntries base above) above = mergeEntries base above := by
  have hmerged : mergeOver (some (.mapping base)) (.mapping above) = .mapping (mergeEntries base above) := rfl
  refine ⟨fun path v hv hboth => ?_, fun path hnone hway => ?_, fun path xs ys hxs hys => ?_, rfl, ?_, ?_, ?_⟩
  · rw [← hmerged]
    exact at?_mergeOver_of_above habove hv hboth
  · rw [← hmerged, at?_mergeOver_of_below habove hnone hway]
    rfl
  · rw [← hmerged]
    exact at?_mergeOver_of_both habove hxs hys
  · exact mergeEntries_eq_append (distinct_mapping_iff.mp habove).1
  · have hself := mergeOver_mergeOver hbase none
    rwa [mergeOver_none, mergeOver_mapping, mapping.injEq] at hself
  · have htwice := mergeOver_mergeOver habove (some (.mapping base))
    rwa [mergeOver_mapping, mergeOver_mapping, mapping.injEq] at htwice

/-- Settings with others inside of them. -/
def nestedSettings : Entries Value :=
  [(['a'], .mapping [(['x'], .ofInt 1), (['y'], .mapping [(['z'], .null)]), (['w'], .list [])]), (['b'], .bool true)]

/-- Settings that say something else at some of their places. -/
def otherSettings : Entries Value :=
  [(['c'], .ofInt 3), (['a'], .mapping [(['x'], .mapping [(['v'], .ofInt 2)]), (['y'], .mapping [(['u'], .null)])]),
    (['b'], .mapping [])]

/-- A mapping takes the place of a number and of a truth value, a list stays, and two mappings are merged. -/
theorem mergeEntries_rightBiased_settings :
    (Value.mapping nestedSettings).Distinct ∧ (Value.mapping otherSettings).Distinct ∧
      (Value.mapping (mergeEntries nestedSettings otherSettings)).at? [['a'], ['x']] =
        some (.mapping [(['v'], .ofInt 2)]) ∧
      (Value.mapping (mergeEntries nestedSettings otherSettings)).at? [['b']] = some (.mapping []) ∧
      (Value.mapping (mergeEntries nestedSettings otherSettings)).at? [['a'], ['w']] = some (.list []) ∧
      (Value.mapping (mergeEntries nestedSettings otherSettings)).at? [['a'], ['y']] =
        some (.mapping [(['z'], .null), (['u'], .null)]) ∧
      mergeEntries (mergeEntries nestedSettings otherSettings) otherSettings =
        mergeEntries nestedSettings otherSettings := by
  have hnumber : ∀ n, (ofInt n).Distinct := fun n => .other rfl
  have hnull : Value.null.Distinct := .other rfl
  have hnested : (Value.mapping nestedSettings).Distinct := by
    have hlist : (Value.list []).Distinct := .other rfl
    have hbool : (Value.bool true).Distinct := .other rfl
    simp [nestedSettings, distinct_mapping_iff, Entries.keys, hnumber, hnull, hlist, hbool]
  have hother : (Value.mapping otherSettings).Distinct := by
    simp [otherSettings, distinct_mapping_iff, Entries.keys, hnumber, hnull]
  obtain ⟨habove, hbelow, hboth, -, -, -, htwice⟩ := mergeEntries_rightBiased hnested hother
  refine ⟨hnested, hother, habove _ _ rfl ?_, habove _ _ rfl ?_, hbelow _ rfl ?_,
    hboth [['a'], ['y']] [(['z'], .null)] [(['u'], .null)] rfl rfl, htwice⟩
  · rintro ⟨-, w, hw, hmapping⟩
    cases hw
    cases hmapping
  · rintro ⟨-, w, hw, hmapping⟩
    cases hw
    cases hmapping
  · -- on the way to the list there are the settings themselves and the mapping that it is in
    intro front hfront hne v hv
    rcases front with _ | ⟨key, _ | ⟨next, rest⟩⟩
    · cases hv
      rfl
    · obtain ⟨rfl, -⟩ := List.cons_prefix_cons.mp hfront
      cases hv
      rfl
    · obtain ⟨rfl, hrest⟩ := List.cons_prefix_cons.mp hfront
      obtain ⟨rfl, hend⟩ := List.cons_prefix_cons.mp hrest
      exact absurd (by rw [List.prefix_nil.mp hend]) hne

end HtmlTemplate.Value
