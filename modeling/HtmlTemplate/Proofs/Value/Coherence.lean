import HtmlTemplate.Expr.Operation
import HtmlTemplate.Proofs.Value.Entries
import Mathlib.Data.List.Forall2
import Mathlib.Data.List.Nodup
import Mathlib.Data.List.Perm.Subperm

/-!
# The coherence of equality

Values are equal if they are made alike of parts that are equal (`equal_iff`): what number they count as, what text they
are, what items they have, or what entries under the same keys. So equality is an equivalence of the values without
numbers of double precision and things of the host (`equal_refl`, `equal_symm`, `equal_trans`), and the order of the
keys does not matter (`equal_of_reordered`). Loose equality adds that null and undefined are alike, strict equality that
booleans are unlike all other values, and both remain equivalences (`equality_coherent`).
-/

namespace HtmlTemplate

theorem Number.equal_int {a b : Int} : (Number.int a).equal (.int b) = true ↔ a = b := by
  rw [Number.equal, Number.compare?, beq_iff_eq, Option.some_inj]
  exact Std.LawfulEqOrd.compare_eq_iff_eq

namespace Value

/-! ## Values that are compared by what they hold -/

mutual

/-- Whether a value holds no number of double precision and nothing of the host, and has each of its keys once. -/
def isExact : Value → Bool
  | .undefined => true
  | .null => true
  | .bool _ => true
  | .number (.int _) => true
  | .number (.float _) => false
  | .string _ => true
  | .list items => areExact items
  | .tuple items => areExact items
  | .mapping entries => decide (Entries.keys entries).Nodup && areExactEntries entries
  | .record fields => decide (Entries.keys fields).Nodup && areExactEntries fields
  | .object _ _ => false
  | .callable _ => false

/-- Whether all of some values are so. -/
def areExact : List Value → Bool
  | [] => true
  | v :: rest => isExact v && areExact rest

/-- Whether the values of some entries are so. -/
def areExactEntries : List (Text × Value) → Bool
  | [] => true
  | (_, v) :: rest => isExact v && areExactEntries rest

end

theorem areExact_iff {items : List Value} : areExact items = true ↔ ∀ v ∈ items, v.isExact = true := by
  induction items with
  | nil => simp [areExact]
  | cons v rest ih => rw [areExact, Bool.and_eq_true, ih, List.forall_mem_cons]

theorem areExactEntries_iff {entries : List (Text × Value)} :
    areExactEntries entries = true ↔ ∀ e ∈ entries, e.2.isExact = true := by
  induction entries with
  | nil => simp [areExactEntries]
  | cons e rest ih => rw [areExactEntries, Bool.and_eq_true, ih, List.forall_mem_cons]

theorem isExact_list {items : List Value} : (Value.list items).isExact = true ↔ ∀ v ∈ items, v.isExact = true := by
  rw [isExact, areExact_iff]

theorem isExact_tuple {items : List Value} : (Value.tuple items).isExact = true ↔ ∀ v ∈ items, v.isExact = true := by
  rw [isExact, areExact_iff]

theorem isExact_mapping {entries : List (Text × Value)} :
    (Value.mapping entries).isExact = true ↔
      (Entries.keys entries).Nodup ∧ ∀ e ∈ entries, e.2.isExact = true := by
  rw [isExact, Bool.and_eq_true, decide_eq_true_eq, areExactEntries_iff]

theorem isExact_record {fields : List (Text × Value)} :
    (Value.record fields).isExact = true ↔ (Entries.keys fields).Nodup ∧ ∀ e ∈ fields, e.2.isExact = true := by
  rw [isExact, Bool.and_eq_true, decide_eq_true_eq, areExactEntries_iff]

/-- The values that stand directly in a value. -/
def parts : Value → List Value
  | .list items => items
  | .tuple items => items
  | .mapping entries => entries.map Prod.snd
  | .record fields => fields.map Prod.snd
  | _ => []

theorem sizeOf_lt_of_mem_parts {v w : Value} (h : w ∈ v.parts) : sizeOf w < sizeOf v := by
  have hentries : ∀ {entries : List (Text × Value)}, w ∈ entries.map Prod.snd → sizeOf w < sizeOf entries := by
    intro entries hmem
    obtain ⟨⟨key, w⟩, he, rfl⟩ := List.mem_map.mp hmem
    have hlt := List.sizeOf_lt_of_mem he
    rw [Prod.mk.sizeOf_spec] at hlt
    dsimp only
    omega
  cases v with
  | list items =>
    have hlt : sizeOf w < sizeOf items := List.sizeOf_lt_of_mem h
    rw [list.sizeOf_spec]
    omega
  | tuple items =>
    have hlt : sizeOf w < sizeOf items := List.sizeOf_lt_of_mem h
    rw [tuple.sizeOf_spec]
    omega
  | mapping entries =>
    have := hentries h
    rw [mapping.sizeOf_spec]
    omega
  | record fields =>
    have := hentries h
    rw [record.sizeOf_spec]
    omega
  | _ => exact absurd h List.not_mem_nil

/-- What holds of a value as soon as it holds of its parts holds of every value. -/
theorem induction_on_parts {motive : Value → Prop} (h : ∀ v, (∀ w ∈ v.parts, motive w) → motive v) (v : Value) :
    motive v :=
  h v fun w _ => induction_on_parts h w
termination_by sizeOf v
decreasing_by exact sizeOf_lt_of_mem_parts ‹_›

theorem isExact_of_mem_parts {v w : Value} (hv : v.isExact = true) (h : w ∈ v.parts) : w.isExact = true := by
  cases v with
  | list items => exact isExact_list.mp hv w h
  | tuple items => exact isExact_tuple.mp hv w h
  | mapping entries =>
    obtain ⟨e, he, rfl⟩ := List.mem_map.mp h
    exact (isExact_mapping.mp hv).2 e he
  | record fields =>
    obtain ⟨e, he, rfl⟩ := List.mem_map.mp h
    exact (isExact_record.mp hv).2 e he
  | _ => exact absurd h List.not_mem_nil

/-! ## Values that are made alike -/

section Corresponds

variable {R : Value → Value → Prop}

/-- Whether two lists of entries have the same keys, and related values under them. -/
structure SameEntries (R : Value → Value → Prop) (xs ys : List (Text × Value)) : Prop where
  length_eq : xs.length = ys.length
  exists_mem : ∀ e ∈ xs, ∃ w, (e.1, w) ∈ ys ∧ R e.2 w

/-- Whether two values are made alike, of parts that are related. -/
inductive Corresponds (R : Value → Value → Prop) : Value → Value → Prop
  | undefined : Corresponds R .undefined .undefined
  | null : Corresponds R .null .null
  | number {v w : Value} {n : Int} : v.number? = some (.int n) → w.number? = some (.int n) → Corresponds R v w
  | string (s : Text) : Corresponds R (.string s) (.string s)
  | list {xs ys : List Value} : List.Forall₂ R xs ys → Corresponds R (.list xs) (.list ys)
  | tuple {xs ys : List Value} : List.Forall₂ R xs ys → Corresponds R (.tuple xs) (.tuple ys)
  | mapping {xs ys : List (Text × Value)} : SameEntries R xs ys → Corresponds R (.mapping xs) (.mapping ys)
  | record {xs ys : List (Text × Value)} : SameEntries R xs ys → Corresponds R (.record xs) (.record ys)

theorem forall₂_self {xs : List Value} (h : ∀ v ∈ xs, R v v) : List.Forall₂ R xs xs :=
  List.forall₂_same.mpr h

theorem forall₂_symm {xs ys : List Value} (h : ∀ v ∈ xs, ∀ w ∈ ys, R v w → R w v) (hxy : List.Forall₂ R xs ys) :
    List.Forall₂ R ys xs := by
  induction hxy with
  | nil => exact .nil
  | cons hvw _ ih =>
    refine .cons (h _ List.mem_cons_self _ List.mem_cons_self hvw) (ih fun v hv w hw => ?_)
    exact h v (List.mem_cons_of_mem _ hv) w (List.mem_cons_of_mem _ hw)

theorem forall₂_trans {xs ys zs : List Value} (h : ∀ u ∈ xs, ∀ v ∈ ys, ∀ w ∈ zs, R u v → R v w → R u w)
    (hxy : List.Forall₂ R xs ys) (hyz : List.Forall₂ R ys zs) : List.Forall₂ R xs zs := by
  induction hxy generalizing zs with
  | nil => exact hyz
  | cons huv _ ih =>
    cases hyz with
    | cons hvw hrest =>
      refine .cons (h _ List.mem_cons_self _ List.mem_cons_self _ List.mem_cons_self huv hvw) (ih ?_ hrest)
      intro u hu v hv w hw
      exact h u (List.mem_cons_of_mem _ hu) v (List.mem_cons_of_mem _ hv) w (List.mem_cons_of_mem _ hw)

theorem SameEntries.of_perm {xs ys : List (Text × Value)} (h : ∀ v ∈ xs.map Prod.snd, R v v) (hperm : xs.Perm ys) :
    SameEntries R xs ys :=
  ⟨hperm.length_eq, fun e he => ⟨e.2, hperm.mem_iff.mp he, h e.2 (List.mem_map_of_mem he)⟩⟩

/-- With as many entries, and each key once, the keys are the same both ways. -/
theorem SameEntries.keys_subset {xs ys : List (Text × Value)} (hxs : (Entries.keys xs).Nodup)
    (h : SameEntries R xs ys) : Entries.keys ys ⊆ Entries.keys xs := by
  have hsubset : Entries.keys xs ⊆ Entries.keys ys := by
    intro key hkey
    obtain ⟨e, he, rfl⟩ := List.mem_map.mp hkey
    obtain ⟨w, hw, -⟩ := h.exists_mem e he
    exact List.mem_map.mpr ⟨_, hw, rfl⟩
  have hlength : (Entries.keys ys).length ≤ (Entries.keys xs).length := by
    rw [Entries.keys, Entries.keys, List.length_map, List.length_map]
    exact Nat.le_of_eq h.length_eq.symm
  exact ((List.subperm_of_subset hxs hsubset).perm_of_length_le hlength).symm.subset

theorem SameEntries.symm {xs ys : List (Text × Value)} (hxs : (Entries.keys xs).Nodup) (hys : (Entries.keys ys).Nodup)
    (h : ∀ v ∈ xs.map Prod.snd, ∀ w ∈ ys.map Prod.snd, R v w → R w v) (hxy : SameEntries R xs ys) :
    SameEntries R ys xs := by
  refine ⟨hxy.length_eq.symm, fun ⟨key, w⟩ hw => ?_⟩
  obtain ⟨⟨key', v⟩, hv, hkey⟩ := List.mem_map.mp (hxy.keys_subset hxs (List.mem_map_of_mem hw))
  obtain rfl : key' = key := hkey
  obtain ⟨w', hw', hvw⟩ := hxy.exists_mem _ hv
  obtain rfl := Entries.eq_of_mem_of_mem hys hw hw'
  exact ⟨v, hv, h v (List.mem_map_of_mem hv) w (List.mem_map_of_mem hw) hvw⟩

theorem SameEntries.trans {xs ys zs : List (Text × Value)}
    (h : ∀ u ∈ xs.map Prod.snd, ∀ v ∈ ys.map Prod.snd, ∀ w ∈ zs.map Prod.snd, R u v → R v w → R u w)
    (hxy : SameEntries R xs ys) (hyz : SameEntries R ys zs) : SameEntries R xs zs := by
  refine ⟨hxy.length_eq.trans hyz.length_eq, fun e he => ?_⟩
  obtain ⟨v, hv, huv⟩ := hxy.exists_mem e he
  obtain ⟨w, hw, hvw⟩ := hyz.exists_mem _ hv
  exact ⟨w, hw, h e.2 (List.mem_map_of_mem he) v (List.mem_map_of_mem hv) w (List.mem_map_of_mem hw) huv hvw⟩

theorem Corresponds.refl {v : Value} (hv : v.isExact = true) (h : ∀ w ∈ v.parts, R w w) : Corresponds R v v := by
  cases v with
  | undefined => exact .undefined
  | null => exact .null
  | bool b => exact .number rfl rfl
  | number n =>
    cases n with
    | int n => exact .number rfl rfl
    | float x => exact absurd hv (by simp [isExact])
  | string s => exact .string s
  | list items => exact .list (forall₂_self h)
  | tuple items => exact .tuple (forall₂_self h)
  | mapping entries => exact .mapping (.of_perm h (List.Perm.refl entries))
  | record fields => exact .record (.of_perm h (List.Perm.refl fields))
  | object _ _ => exact absurd hv (by simp [isExact])
  | callable _ => exact absurd hv (by simp [isExact])

theorem Corresponds.symm {v w : Value} (hv : v.isExact = true) (hw : w.isExact = true)
    (h : ∀ a ∈ v.parts, ∀ b ∈ w.parts, R a b → R b a) (hvw : Corresponds R v w) : Corresponds R w v := by
  cases hvw with
  | undefined => exact .undefined
  | null => exact .null
  | number hn hm => exact .number hm hn
  | string s => exact .string s
  | list hitems => exact .list (forall₂_symm h hitems)
  | tuple hitems => exact .tuple (forall₂_symm h hitems)
  | mapping hentries => exact .mapping (hentries.symm (isExact_mapping.mp hv).1 (isExact_mapping.mp hw).1 h)
  | record hfields => exact .record (hfields.symm (isExact_record.mp hv).1 (isExact_record.mp hw).1 h)

theorem Corresponds.trans {u v w : Value}
    (h : ∀ a ∈ u.parts, ∀ b ∈ v.parts, ∀ c ∈ w.parts, R a b → R b c → R a c) (huv : Corresponds R u v)
    (hvw : Corresponds R v w) : Corresponds R u w := by
  -- only a number may correspond to a value of another kind
  cases huv with
  | undefined => exact hvw
  | null => exact hvw
  | string s => exact hvw
  | number hn hm =>
    cases hvw with
    | number hm' hk =>
      rw [hm] at hm'
      cases hm'
      exact .number hn hk
    | _ => cases hm
  | list hxy =>
    cases hvw with
    | list hyz => exact .list (forall₂_trans h hxy hyz)
    | number hn _ => cases hn
  | tuple hxy =>
    cases hvw with
    | tuple hyz => exact .tuple (forall₂_trans h hxy hyz)
    | number hn _ => cases hn
  | mapping hxy =>
    cases hvw with
    | mapping hyz => exact .mapping (hxy.trans h hyz)
    | number hn _ => cases hn
  | record hxy =>
    cases hvw with
    | record hyz => exact .record (hxy.trans h hyz)
    | number hn _ => cases hn

end Corresponds

/-! ## Equality -/

theorem exists_int_of_number? {v : Value} (hv : v.isExact = true) {n : Number} (h : v.number? = some n) :
    ∃ i, n = .int i := by
  cases v with
  | bool b => exact ⟨_, (Option.some.inj h).symm⟩
  | number m =>
    cases m with
    | int i => exact ⟨i, (Option.some.inj h).symm⟩
    | float x => exact absurd hv (by simp [isExact])
  | _ => cases h

theorem sameNan_of_isExact {v : Value} (hv : v.isExact = true) (w : Value) : sameNan v w = false := by
  unfold sameNan
  split
  · exact absurd hv (by simp [isExact])
  · rfl

theorem equalItems_iff {xs : List Value} (hxs : ∀ v ∈ xs, v.isExact = true) (ys : List Value) :
    equalItems xs ys = true ↔ List.Forall₂ (fun v w => v.equal w = true) xs ys := by
  induction xs generalizing ys with
  | nil => cases ys <;> simp [equalItems]
  | cons v rest ih =>
    obtain ⟨hv, hrest⟩ := List.forall_mem_cons.mp hxs
    cases ys with
    | nil => simp [equalItems]
    | cons w ys =>
      rw [equalItems, sameNan_of_isExact hv, Bool.false_or, Bool.and_eq_true, ih hrest, List.forall₂_cons]

theorem equalEntries_iff {xs ys : List (Text × Value)} (hxs : ∀ e ∈ xs, e.2.isExact = true)
    (hys : (Entries.keys ys).Nodup) :
    equalEntries xs ys = true ↔ ∀ e ∈ xs, ∃ w, (e.1, w) ∈ ys ∧ e.2.equal w = true := by
  induction xs with
  | nil => simp [equalEntries]
  | cons e rest ih =>
    obtain ⟨key, v⟩ := e
    obtain ⟨hv, hrest⟩ := List.forall_mem_cons.mp hxs
    rw [equalEntries, Bool.and_eq_true, ih hrest, List.forall_mem_cons]
    refine and_congr_left fun _ => ?_
    simp only [← Entries.lookup_eq_some_iff_mem hys]
    cases ys.lookup key with
    | none => simp
    | some w => simp [sameNan_of_isExact hv]

theorem sameEntries_iff {xs ys : List (Text × Value)} (hxs : ∀ e ∈ xs, e.2.isExact = true)
    (hys : (Entries.keys ys).Nodup) :
    (xs.length == ys.length && equalEntries xs ys) = true ↔ SameEntries (fun v w => v.equal w = true) xs ys := by
  rw [Bool.and_eq_true, beq_iff_eq, equalEntries_iff hxs hys]
  exact ⟨fun h => ⟨h.1, h.2⟩, fun h => ⟨h.length_eq, h.exists_mem⟩⟩

/-- Values are equal if they are made alike of parts that are equal. -/
theorem equal_iff {v w : Value} (hv : v.isExact = true) (hw : w.isExact = true) :
    v.equal w = true ↔ Corresponds (fun a b => a.equal b = true) v w := by
  constructor
  · intro h
    unfold equal at h
    split at h
    · exact .undefined
    · exact .null
    · rename_i a
      split at h
      · rename_i n hn
        cases n with
        | int n => exact .number rfl (Number.equal_int.mp h ▸ hn)
        | float x => exact absurd (exists_int_of_number? hw hn) nofun
      · cases h
    · rename_i m
      split at h
      · rename_i n hn
        cases m with
        | float x => exact absurd hv (by simp [isExact])
        | int m =>
          cases n with
          | int n => exact .number rfl (Number.equal_int.mp h ▸ hn)
          | float x => exact absurd (exists_int_of_number? hw hn) nofun
      · cases h
    · rename_i s t
      obtain rfl : s = t := beq_iff_eq.mp h
      exact .string s
    · exact .list ((equalItems_iff (isExact_list.mp hv) _).mp h)
    · exact .tuple ((equalItems_iff (isExact_tuple.mp hv) _).mp h)
    · exact .mapping ((sameEntries_iff (isExact_mapping.mp hv).2 (isExact_mapping.mp hw).1).mp h)
    · exact .record ((sameEntries_iff (isExact_record.mp hv).2 (isExact_record.mp hw).1).mp h)
    · exact absurd hv (by simp [isExact])
    · exact absurd hv (by simp [isExact])
    · cases h
  · intro h
    cases h with
    | undefined => rw [equal]
    | null => rw [equal]
    | string s => rw [equal, beq_self_eq_true]
    | list h => rw [equal, equalItems_iff (isExact_list.mp hv)]; exact h
    | tuple h => rw [equal, equalItems_iff (isExact_tuple.mp hv)]; exact h
    | mapping h => rw [equal, sameEntries_iff (isExact_mapping.mp hv).2 (isExact_mapping.mp hw).1]; exact h
    | record h => rw [equal, sameEntries_iff (isExact_record.mp hv).2 (isExact_record.mp hw).1]; exact h
    | number hn hm =>
      cases v with
      | bool b =>
        cases hn
        rw [equal, hm]
        exact Number.equal_int.mpr rfl
      | number n =>
        cases hn
        rw [equal, hm]
        exact Number.equal_int.mpr rfl
      | _ => cases hn

theorem equal_refl {v : Value} (hv : v.isExact = true) : v.equal v = true := by
  induction v using induction_on_parts with
  | h v ih =>
    exact (equal_iff hv hv).mpr (.refl hv fun w hw => ih w hw (isExact_of_mem_parts hv hw))

theorem equal_symm {v w : Value} (hv : v.isExact = true) (hw : w.isExact = true) (h : v.equal w = true) :
    w.equal v = true := by
  induction v using induction_on_parts generalizing w with
  | h v ih =>
    refine (equal_iff hw hv).mpr (((equal_iff hv hw).mp h).symm hv hw fun a ha b hb hab => ?_)
    exact ih a ha (isExact_of_mem_parts hv ha) (isExact_of_mem_parts hw hb) hab

theorem equal_trans {u v w : Value} (hu : u.isExact = true) (hv : v.isExact = true) (hw : w.isExact = true)
    (huv : u.equal v = true) (hvw : v.equal w = true) : u.equal w = true := by
  induction u using induction_on_parts generalizing v w with
  | h u ih =>
    refine (equal_iff hu hw).mpr (((equal_iff hu hv).mp huv).trans (fun a ha b hb c hc hab hbc => ?_)
      ((equal_iff hv hw).mp hvw))
    exact ih a ha (isExact_of_mem_parts hu ha) (isExact_of_mem_parts hv hb) (isExact_of_mem_parts hw hc) hab hbc

/-- Whether two values differ in nothing but the order of the keys of one mapping, at any depth. -/
inductive Reordered : Value → Value → Prop
  | keys {xs ys : List (Text × Value)} : xs.Perm ys → Reordered (.mapping xs) (.mapping ys)
  | item {v w : Value} (front back : List Value) : Reordered v w →
      Reordered (.list (front ++ v :: back)) (.list (front ++ w :: back))
  | tupleItem {v w : Value} (front back : List Value) : Reordered v w →
      Reordered (.tuple (front ++ v :: back)) (.tuple (front ++ w :: back))
  | entry {v w : Value} (front back : List (Text × Value)) (key : Text) : Reordered v w →
      Reordered (.mapping (front ++ (key, v) :: back)) (.mapping (front ++ (key, w) :: back))
  | field {v w : Value} (front back : List (Text × Value)) (key : Text) : Reordered v w →
      Reordered (.record (front ++ (key, v) :: back)) (.record (front ++ (key, w) :: back))

theorem forall₂_replace {front back : List Value} {v w : Value}
    (h : ∀ u ∈ front ++ v :: back, u.isExact = true) (hvw : v.equal w = true) :
    List.Forall₂ (fun a b => a.equal b = true) (front ++ v :: back) (front ++ w :: back) := by
  rw [List.forall_mem_append, List.forall_mem_cons] at h
  exact List.rel_append (forall₂_self fun u hu => equal_refl (h.1 u hu))
    (.cons hvw (forall₂_self fun u hu => equal_refl (h.2.2 u hu)))

theorem sameEntries_replace {front back : List (Text × Value)} {key : Text} {v w : Value}
    (h : ∀ e ∈ front ++ (key, v) :: back, e.2.isExact = true) (hvw : v.equal w = true) :
    SameEntries (fun a b => a.equal b = true) (front ++ (key, v) :: back) (front ++ (key, w) :: back) := by
  refine ⟨by rw [List.length_append, List.length_append, List.length_cons, List.length_cons], fun e he => ?_⟩
  rcases List.mem_append.mp he with hfront | hback
  · exact ⟨e.2, List.mem_append_left _ hfront, equal_refl (h e he)⟩
  · rcases List.mem_cons.mp hback with rfl | hback
    · exact ⟨w, List.mem_append_right _ List.mem_cons_self, hvw⟩
    · exact ⟨e.2, List.mem_append_right _ (List.mem_cons_of_mem _ hback), equal_refl (h e he)⟩

/-- The order of keys does not matter. -/
theorem equal_of_reordered {v w : Value} (h : Reordered v w) (hv : v.isExact = true) (hw : w.isExact = true) :
    v.equal w = true := by
  induction h with
  | keys hperm =>
    refine (equal_iff hv hw).mpr (.mapping (.of_perm (fun u hu => ?_) hperm))
    exact equal_refl (isExact_of_mem_parts hv hu)
  | item front back _ ih =>
    have hvw := ih (isExact_list.mp hv _ (List.mem_append_right _ List.mem_cons_self))
      (isExact_list.mp hw _ (List.mem_append_right _ List.mem_cons_self))
    exact (equal_iff hv hw).mpr (.list (forall₂_replace (isExact_list.mp hv) hvw))
  | tupleItem front back _ ih =>
    have hvw := ih (isExact_tuple.mp hv _ (List.mem_append_right _ List.mem_cons_self))
      (isExact_tuple.mp hw _ (List.mem_append_right _ List.mem_cons_self))
    exact (equal_iff hv hw).mpr (.tuple (forall₂_replace (isExact_tuple.mp hv) hvw))
  | entry front back key _ ih =>
    have hvw := ih ((isExact_mapping.mp hv).2 _ (List.mem_append_right _ List.mem_cons_self))
      ((isExact_mapping.mp hw).2 _ (List.mem_append_right _ List.mem_cons_self))
    exact (equal_iff hv hw).mpr (.mapping (sameEntries_replace (isExact_mapping.mp hv).2 hvw))
  | field front back key _ ih =>
    have hvw := ih ((isExact_record.mp hv).2 _ (List.mem_append_right _ List.mem_cons_self))
      ((isExact_record.mp hw).2 _ (List.mem_append_right _ List.mem_cons_self))
    exact (equal_iff hv hw).mpr (.record (sameEntries_replace (isExact_record.mp hv).2 hvw))

/-! ## Loose and strict equality -/

theorem isNullish_of_equal {v w : Value} (h : v.equal w = true) : v.isNullish = w.isNullish := by
  have hnumber : ∀ {n : Number}, w.number? = some n → w.isNullish = false := by
    intro n hn
    cases w <;> first | rfl | cases hn
  unfold equal at h
  split at h
  case h_3 =>
    split at h
    · rename_i hn
      exact (hnumber hn).symm
    · cases h
  case h_4 =>
    split at h
    · rename_i hn
      exact (hnumber hn).symm
    · cases h
  case h_12 => cases h
  all_goals rfl

/-- Loose equality adds to equality that null and undefined are alike. -/
theorem looseEqual_iff {v w : Value} :
    v.looseEqual w = true ↔ v.equal w = true ∨ v.isNullish = true ∧ w.isNullish = true := by
  rw [looseEqual]
  split
  · rename_i h
    rw [Bool.and_eq_true]
    refine ⟨.inr, fun h' => h'.elim (fun heq => ?_) id⟩
    have hsame := isNullish_of_equal heq
    rw [hsame, Bool.or_self] at h
    exact ⟨hsame.trans h, h⟩
  · rename_i h
    rw [or_iff_left]
    rintro ⟨hv, -⟩
    rw [hv] at h
    exact h rfl

/-- Strict equality takes from equality that booleans are like other values. -/
theorem strictEqual_iff {v w : Value} : v.strictEqual w = true ↔ v.equal w = true ∧ v.isBool = w.isBool := by
  unfold strictEqual
  split
  · exact iff_of_true rfl ⟨by rw [equal], rfl⟩
  · exact iff_of_true rfl ⟨by rw [equal], rfl⟩
  · rename_i hundefined hnull
    rw [Bool.and_eq_true, Bool.and_eq_true, Bool.and_eq_true, Bool.not_eq_true', Bool.not_eq_true', beq_iff_eq,
      looseEqual_iff]
    constructor
    · rintro ⟨⟨⟨hv, -⟩, hbool⟩, heq | ⟨hv', -⟩⟩
      · exact ⟨heq, hbool⟩
      · exact absurd (hv.symm.trans hv') Bool.false_ne_true
    · rintro ⟨heq, hbool⟩
      have hsame := isNullish_of_equal heq
      have hv : v.isNullish = false := by
        cases v with
        | undefined => cases w <;> first | exact absurd rfl (hundefined rfl) | cases heq
        | null => cases w <;> first | exact absurd rfl (hnull rfl) | cases heq
        | _ => rfl
      exact ⟨⟨⟨hv, hsame ▸ hv⟩, hbool⟩, .inl heq⟩

/-- An exact value. -/
abbrev ExactValue : Type := { v : Value // v.isExact = true }

theorem looseEqual_equivalence : Equivalence fun v w : ExactValue => v.1.looseEqual w.1 = true := by
  refine ⟨fun v => looseEqual_iff.mpr (.inl (equal_refl v.2)), fun {v w} h => ?_, fun {u v w} huv hvw => ?_⟩
  · rcases looseEqual_iff.mp h with heq | ⟨hv, hw⟩
    · exact looseEqual_iff.mpr (.inl (equal_symm v.2 w.2 heq))
    · exact looseEqual_iff.mpr (.inr ⟨hw, hv⟩)
  · rcases looseEqual_iff.mp huv with heq | ⟨hu, hv⟩ <;> rcases looseEqual_iff.mp hvw with heq' | ⟨hv', hw⟩
    · exact looseEqual_iff.mpr (.inl (equal_trans u.2 v.2 w.2 heq heq'))
    · exact looseEqual_iff.mpr (.inr ⟨(isNullish_of_equal heq).trans hv', hw⟩)
    · exact looseEqual_iff.mpr (.inr ⟨hu, (isNullish_of_equal heq').symm.trans hv⟩)
    · exact looseEqual_iff.mpr (.inr ⟨hu, hw⟩)

theorem strictEqual_equivalence : Equivalence fun v w : ExactValue => v.1.strictEqual w.1 = true := by
  refine ⟨fun v => strictEqual_iff.mpr ⟨equal_refl v.2, rfl⟩, fun {v w} h => ?_, fun {u v w} huv hvw => ?_⟩
  · obtain ⟨heq, hbool⟩ := strictEqual_iff.mp h
    exact strictEqual_iff.mpr ⟨equal_symm v.2 w.2 heq, hbool.symm⟩
  · obtain ⟨heq, hbool⟩ := strictEqual_iff.mp huv
    obtain ⟨heq', hbool'⟩ := strictEqual_iff.mp hvw
    exact strictEqual_iff.mpr ⟨equal_trans u.2 v.2 w.2 heq heq', hbool.trans hbool'⟩

theorem isBool_of_reordered {v w : Value} (h : Reordered v w) : v.isBool = w.isBool := by
  cases h <;> rfl

/-- Alike values stand for each other on either side. -/
theorem eq_of_equivalence {R : Value → Value → Bool} (hR : Equivalence fun v w : ExactValue => R v.1 w.1 = true)
    {v w : ExactValue} (h : R v.1 w.1 = true) (u : ExactValue) : R v.1 u.1 = R w.1 u.1 ∧ R u.1 v.1 = R u.1 w.1 :=
  ⟨Bool.eq_iff_iff.mpr ⟨hR.trans (hR.symm h), hR.trans h⟩,
    Bool.eq_iff_iff.mpr ⟨fun h' => hR.trans h' h, fun h' => hR.trans h' (hR.symm h)⟩⟩

end Value

namespace Expr

open Value (ExactValue Reordered)

/-- **The coherence of equality.** The operators for loose and strict equality have an answer for all operands. Among
values of any depth without numbers of double precision and things of the host, both are equivalences, strictly equal
values are loosely equal, and the order of the keys of a mapping, at any depth, changes nothing. -/
theorem equality_coherent :
    (∀ v w : Value,
      BinaryOp.equal.apply v w = .ok (.bool (v.looseEqual w)) ∧
        BinaryOp.unequal.apply v w = .ok (.bool (!v.looseEqual w)) ∧
        BinaryOp.strictEqual.apply v w = .ok (.bool (v.strictEqual w)) ∧
        BinaryOp.strictUnequal.apply v w = .ok (.bool (!v.strictEqual w))) ∧
    (Equivalence fun v w : ExactValue => v.1.looseEqual w.1 = true) ∧
    (Equivalence fun v w : ExactValue => v.1.strictEqual w.1 = true) ∧
    (∀ v w : ExactValue, v.1.strictEqual w.1 = true → v.1.looseEqual w.1 = true) ∧
    ∀ v w : ExactValue, Reordered v.1 w.1 → ∀ u : ExactValue,
      (v.1.looseEqual u.1 = w.1.looseEqual u.1 ∧ u.1.looseEqual v.1 = u.1.looseEqual w.1) ∧
        (v.1.strictEqual u.1 = w.1.strictEqual u.1 ∧ u.1.strictEqual v.1 = u.1.strictEqual w.1) := by
  refine ⟨fun v w => ⟨rfl, rfl, rfl, rfl⟩, Value.looseEqual_equivalence, Value.strictEqual_equivalence, ?_, ?_⟩
  · intro v w h
    exact Value.looseEqual_iff.mpr (.inl (Value.strictEqual_iff.mp h).1)
  · intro v w h u
    have hequal := Value.equal_of_reordered h v.2 w.2
    exact ⟨Value.eq_of_equivalence Value.looseEqual_equivalence (Value.looseEqual_iff.mpr (.inl hequal)) u,
      Value.eq_of_equivalence Value.strictEqual_equivalence
        (Value.strictEqual_iff.mpr ⟨hequal, Value.isBool_of_reordered h⟩) u⟩

/-- A list with a mapping in it. -/
def pageValue : ExactValue :=
  ⟨.list [.null, .mapping [(['a'], .bool true), (['b'], .tuple [.ofInt 0, .undefined])]], rfl⟩

/-- The list with the keys of the mapping the other way round. -/
def turnedValue : ExactValue :=
  ⟨.list [.null, .mapping [(['b'], .tuple [.ofInt 0, .undefined]), (['a'], .bool true)]], rfl⟩

/-- The list with one for true, and false for nought. -/
def countedValue : ExactValue :=
  ⟨.list [.null, .mapping [(['a'], .ofInt 1), (['b'], .tuple [.bool false, .undefined])]], rfl⟩

theorem equality_coherent_page :
    Reordered pageValue.1 turnedValue.1 ∧ pageValue.1.strictEqual countedValue.1 = true ∧
      pageValue.1.looseEqual countedValue.1 = true ∧ turnedValue.1.strictEqual countedValue.1 = true := by
  have hturned : Reordered pageValue.1 turnedValue.1 := .item [.null] [] (.keys (List.Perm.swap _ _ _))
  have hcounted : pageValue.1.strictEqual countedValue.1 = true := by decide +kernel
  obtain ⟨-, -, -, hloose, horder⟩ := equality_coherent
  exact ⟨hturned, hcounted, hloose _ _ hcounted, (horder _ _ hturned countedValue).2.1.symm.trans hcounted⟩

end Expr

end HtmlTemplate
