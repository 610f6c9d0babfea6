import HtmlTemplate.Json.Writer
import HtmlTemplate.Proofs.Text.Encodable

/-!
# JSON can always be written

A surrogate in a string is escaped, and so is everything else that is not in ASCII. So there is no value whose JSON
could not be written (`Json.encodable_write`).
-/

namespace HtmlTemplate

/-! ## Numbers -/

namespace Double

theorem encodable_decimalOf (c : ℕ) (p : ℤ) : (decimalOf c p).digits.Encodable := by
  unfold decimalOf
  dsimp only
  split
  · simp
  · refine (Text.encodable_ofNat c).of_subset fun d hd => ?_
    rw [List.mem_reverse] at hd
    exact List.mem_reverse.mp ((List.dropWhile_sublist _).subset hd)

theorem encodable_shortest (significand : ℕ) (exponent : ℤ) : (shortest significand exponent).digits.Encodable := by
  unfold shortest
  dsimp only
  cases hfound : (List.range 18).findSome? _ with
  | none => simp
  | some d =>
    obtain ⟨n, -, hn⟩ := List.exists_of_findSome?_eq_some hfound
    obtain ⟨c, -, rfl⟩ := Option.map_eq_some_iff.mp hn
    exact encodable_decimalOf c _

end Double

theorem Decimal.encodable_text {d : Decimal} (h : d.digits.Encodable) : d.text.Encodable := by
  have htake (n : ℕ) : Text.Encodable (d.digits.take n) := h.of_subset (List.take_subset n d.digits)
  have hdrop (n : ℕ) : Text.Encodable (d.digits.drop n) := h.of_subset (List.drop_subset n d.digits)
  rw [text]
  split
  · rw [positional]
    split
    · simp [h]
    · simp only [Text.encodable_append, htake, Text.encodable_replicate, Text.encodable_text, true_and]
      split
      · simp
      · exact hdrop _
  · rw [scientific]
    simp only [Text.encodable_append, htake, Text.encodable_replicate, Text.encodable_text, Text.encodable_ofNat,
      true_and, and_true]
    split
    · simp
    · simpa using hdrop 1

theorem Double.encodable_text (x : Double) : x.text.Encodable := by
  cases x with
  | nan sign => simp [text]
  | infinity s => simp [text]
  | finite s m e =>
    rw [text, Text.encodable_append]
    refine ⟨?_, ?_⟩
    · split <;> simp
    · split
      · simp
      · exact Decimal.encodable_text (encodable_shortest m e)

namespace Json

/-! ## Values -/

theorem encodable_writtenUnit (n : ℕ) : (writtenUnit n).Encodable := by
  simp [writtenUnit]

theorem encodable_writtenChar (c : CodePoint) : (writtenChar c).Encodable := by
  unfold writtenChar
  split
  case h_8 =>
    split
    · rename_i hplain
      have hc : ¬ c.isSurrogate = true := by
        simp only [Bool.and_eq_true, decide_eq_true_eq] at hplain
        rw [CodePoint.isSurrogate_iff]
        omega
      simpa using hc
    · split <;> simp [encodable_writtenUnit]
  all_goals simp

theorem encodable_writtenString (s : Text) : (writtenString s).Encodable := by
  simp [writtenString, Text.encodable_flatMap, encodable_writtenChar]

theorem encodable_bracketed {opening closing : Char} {level : ℕ} {parts : List Text}
    (h : ∀ s ∈ parts, s.Encodable) : (bracketed opening closing level parts).Encodable := by
  have hline (level : ℕ) : (newLine level).Encodable := by simp [newLine]
  have hseparator : Text.Encodable (',' :: newLine (level + 1)) := by simp [hline]
  have hjoined := Text.encodable_join hseparator h
  rw [bracketed]
  split <;> simp [hline, hjoined]

mutual

theorem encodable_written (level : ℕ) (v : Value) : (written level v).Encodable := by
  cases v with
  | undefined => exact encodable_writtenString _
  | null => exact Text.encodable_text _
  | bool b => exact Text.encodable_text _
  | number n =>
    cases n with
    | int n => exact Text.encodable_ofInt n
    | float x => exact x.encodable_text
  | string s => exact encodable_writtenString s
  | list items => exact encodable_bracketed (encodable_writtenItems _ items)
  | tuple items => exact encodable_bracketed (encodable_writtenItems _ items)
  | mapping entries => exact encodable_bracketed (encodable_writtenEntries _ entries)
  | record fields => exact encodable_bracketed (encodable_writtenEntries _ fields)
  | object _ attributes => exact encodable_bracketed (encodable_writtenEntries _ attributes)
  | callable _ => exact Text.encodable_text _

theorem encodable_writtenItems (level : ℕ) (items : List Value) : ∀ s ∈ writtenItems level items, s.Encodable := by
  cases items with
  | nil => exact List.forall_mem_nil _
  | cons v rest => exact List.forall_mem_cons.mpr ⟨encodable_written level v, encodable_writtenItems level rest⟩

theorem encodable_writtenEntries (level : ℕ) (entries : List (Text × Value)) :
    ∀ s ∈ writtenEntries level entries, s.Encodable := by
  cases entries with
  | nil => exact List.forall_mem_nil _
  | cons entry rest =>
    refine List.forall_mem_cons.mpr ⟨?_, encodable_writtenEntries level rest⟩
    simp [encodable_writtenString, encodable_written level entry.2]

end

/-- The JSON of every value can be written. -/
theorem encodable_write (v : Value) : (write v).Encodable := encodable_written 0 v

end Json

end HtmlTemplate
