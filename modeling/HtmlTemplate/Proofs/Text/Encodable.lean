import HtmlTemplate.Charset.Unicode
import HtmlTemplate.Proofs.Text.Cut
import Mathlib.Data.List.TakeWhile

/-!
# Texts that can be written

A text can be written if no surrogate is in it (`Text.Encodable`). Otherwise the error tells of the first surrogates
(`Text.unencodable?_eq_some_iff`).
-/

namespace HtmlTemplate.Text

variable {s t : Text} {e : Unwritable}

/-- No surrogate is in the text. -/
def Encodable (s : Text) : Prop := ∀ c ∈ s, c.isSurrogate = false

instance (s : Text) : Decidable s.Encodable := inferInstanceAs (Decidable (∀ c ∈ s, c.isSurrogate = false))

@[simp]
theorem encodable_nil : Encodable [] := List.forall_mem_nil _

@[simp]
theorem encodable_cons {c : CodePoint} : Encodable (c :: s) ↔ c.isSurrogate = false ∧ Encodable s :=
  List.forall_mem_cons

@[simp]
theorem encodable_append : Encodable (s ++ t) ↔ Encodable s ∧ Encodable t := List.forall_mem_append

theorem encodable_flatMap {α : Type} {xs : List α} {f : α → Text} :
    Encodable (xs.flatMap f) ↔ ∀ x ∈ xs, (f x).Encodable := by
  simp only [Encodable, List.mem_flatMap]
  exact ⟨fun h x hx c hc => h c ⟨x, hx, hc⟩, fun h c ⟨x, hx, hc⟩ => h x hx c hc⟩

@[simp]
theorem encodable_map_char (chars : List Char) : Encodable (chars.map CodePoint.char) :=
  List.forall_mem_map.mpr fun _ _ => rfl

@[simp]
theorem encodable_text (s : String) : s.text.Encodable := encodable_map_char _

@[simp]
theorem encodable_replicate (n : Nat) (c : Char) : Encodable (List.replicate n (c : CodePoint)) :=
  List.forall_mem_replicate.mpr (.inr rfl)

theorem Encodable.of_subset (h : s.Encodable) (hsub : t ⊆ s) : t.Encodable := fun c hc => h c (hsub hc)

theorem encodable_join {separator : Text} (hseparator : separator.Encodable) {texts : List Text}
    (h : ∀ s ∈ texts, s.Encodable) : (join separator texts).Encodable := by
  induction texts with
  | nil => exact encodable_nil
  | cons s rest ih =>
    rw [List.forall_mem_cons] at h
    cases rest with
    | nil => exact h.1
    | cons t rest => simp [join, h.1, hseparator, ih h.2]

@[simp]
theorem encodable_digits (base n : Nat) : (digits base n).Encodable := encodable_map_char _

@[simp]
theorem encodable_ofNat (n : Nat) : (ofNat n).Encodable := encodable_digits 10 n

@[simp]
theorem encodable_ofInt (n : Int) : (ofInt n).Encodable := by
  cases n <;> simp [ofInt]

@[simp]
theorem encodable_hex (width n : Nat) : (hex width n).Encodable := by
  simp [hex]

/-! ## What cannot be written -/

theorem unencodable?_eq_none_iff : s.unencodable? = none ↔ s.Encodable := by
  rw [unencodable?, unwritable?]
  split
  · rename_i h
    simpa [Encodable] using h
  · rename_i h
    refine iff_of_false nofun fun henc => h ?_
    simpa [Encodable] using henc

/-- The error tells how many characters are in front of the first surrogate, and the surrogates from there up to the
next character. -/
theorem unencodable?_eq_some_iff : s.unencodable? = some e ↔ ∃ front back, s = front ++ (e.surrogates ++ back) ∧
    front.Encodable ∧ e.position = front.length ∧ e.surrogates ≠ [] ∧ (∀ c ∈ e.surrogates, c.isSurrogate = true) ∧
      ∀ c ∈ back.head?, c.isSurrogate = false := by
  constructor
  · intro h
    rw [unencodable?, unwritable?] at h
    split at h
    · cases h
    · rename_i hne
      obtain rfl := Option.some.inj h
      refine ⟨s.takeWhile fun c => !c.isSurrogate,
        (s.dropWhile fun c => !c.isSurrogate).dropWhile CodePoint.isSurrogate, ?_, fun c hc => ?_, rfl, ?_,
        fun c hc => List.mem_takeWhile_imp hc, fun c hc => ?_⟩
      · rw [List.takeWhile_append_dropWhile, List.takeWhile_append_dropWhile]
      · simpa using List.mem_takeWhile_imp hc
      · cases hrest : s.dropWhile fun c => !c.isSurrogate with
        | nil => exact absurd hrest hne
        | cons c rest =>
          have hc := List.head?_dropWhile_not (fun c => !c.isSurrogate) s
          rw [hrest] at hc
          simp_all
      · have hback := List.head?_dropWhile_not CodePoint.isSurrogate (s.dropWhile fun c => !c.isSurrogate)
        rw [hc] at hback
        simpa using hback
  · rintro ⟨front, back, rfl, hfront, hposition, hne, hsurrogates, hback⟩
    obtain ⟨position, surrogates⟩ := e
    dsimp only at *
    have hhead : ∀ c ∈ (surrogates ++ back).head?, (!c.isSurrogate) = false := by
      cases surrogates with
      | nil => exact absurd rfl hne
      | cons c surrogates => simpa using hsurrogates c List.mem_cons_self
    have hplain : ∀ c ∈ front, (!c.isSurrogate) = true := by simpa [Encodable] using hfront
    obtain ⟨htake, hdrop⟩ := takeWhile_append_of_all hplain hhead
    obtain ⟨htake', -⟩ := takeWhile_append_of_all hsurrogates hback
    rw [unencodable?, unwritable?, htake, hdrop, hposition]
    split
    · rename_i hnil
      exact absurd (List.append_eq_nil_iff.mp hnil).1 hne
    · rw [htake']

theorem exists_unencodable?_iff : (∃ e, s.unencodable? = some e) ↔ ¬ s.Encodable := by
  rw [← unencodable?_eq_none_iff, ← ne_eq, Option.ne_none_iff_exists']

end HtmlTemplate.Text

namespace HtmlTemplate.Charset

theorem encodeUtf8_eq_ok_iff {s : Text} {content : Bytes} :
    encodeUtf8 s = .ok content ↔ s.Encodable ∧ content = s.flatMap utf8Bytes := by
  rw [encodeUtf8, ← Text.unencodable?_eq_none_iff]
  cases s.unencodable? <;> simp [eq_comm]

end HtmlTemplate.Charset
