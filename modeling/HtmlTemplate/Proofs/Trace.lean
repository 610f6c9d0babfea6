import HtmlTemplate.Trace

/-!
# Laws of traced computations

How `map` goes through a traced computation, and what it means that the events and the failure of a computation are of
some kind (`Ensures`): one law for each way of building a computation.
-/

namespace HtmlTemplate.Traced

variable {σ ε α β γ : Type}

/-! ## Changing the result -/

theorem map_done (f : α → β) (a : α) : map f (done a : Traced σ ε α) = done (f a) := rfl

theorem map_id (x : Traced σ ε α) : map (fun a => a) x = x := by
  obtain ⟨result, trace⟩ := x
  cases result <;> rfl

theorem map_map (f : α → β) (g : β → γ) (x : Traced σ ε α) : map g (map f x) = map (g ∘ f) x := by
  obtain ⟨result, trace⟩ := x
  cases result <;> rfl

theorem map_andThen (f : β → γ) (x : Traced σ ε α) (next : α → Traced σ ε β) :
    map f (andThen x next) = andThen x fun a => map f (next a) := by
  obtain ⟨result, trace⟩ := x
  cases result with
  | error e => rfl
  | ok a => rfl

theorem andThen_map (f : α → β) (x : Traced σ ε α) (next : β → Traced σ ε γ) :
    andThen (map f x) next = andThen x fun a => next (f a) := by
  obtain ⟨result, trace⟩ := x
  cases result with
  | error e => rfl
  | ok a => rfl

theorem result_andThen (x : Traced σ ε α) (next : α → Traced σ ε β) :
    (andThen x next).result = x.result.bind fun a => (next a).result := by
  obtain ⟨result, trace⟩ := x
  cases result with
  | error e => rfl
  | ok a => rfl

theorem result_ofResult (x : Except ε α) : (ofResult x : Traced σ ε α).result = x := by cases x <;> rfl

/-! ## Kinds of events and failures -/

/-- Every event of the computation is of the kind `E`, and so is its failure, if it fails, of the kind `F`. -/
structure Ensures (E : σ → Prop) (F : ε → Prop) (x : Traced σ ε α) : Prop where
  events : ∀ event ∈ x.trace, E event
  failure : ∀ e, x.result = .error e → F e

section Ensures

variable {E : σ → Prop} {F : ε → Prop}

theorem ensures_done (a : α) : Ensures E F (done a) where
  events _ h := by cases h
  failure _ h := by cases h

theorem ensures_fail {e : ε} (h : F e) : Ensures E F (fail e : Traced σ ε α) where
  events _ h := by cases h
  failure _ h' := by cases h'; exact h

theorem ensures_tell {event : σ} (h : E event) : Ensures E F (tell event : Traced σ ε Unit) where
  events _ h' := by
    rw [List.mem_singleton.mp h']
    exact h
  failure _ h' := by cases h'

theorem Ensures.andThen {x : Traced σ ε α} {next : α → Traced σ ε β} (hx : Ensures E F x)
    (hn : ∀ a, Ensures E F (next a)) : Ensures E F (Traced.andThen x next) := by
  obtain ⟨result, trace⟩ := x
  cases result with
  | error e => exact ⟨hx.events, fun e' he' => by cases he'; exact hx.failure e rfl⟩
  | ok a =>
    refine ⟨fun event h => ?_, (hn a).failure⟩
    rcases List.mem_append.mp h with h | h
    · exact hx.events event h
    · exact (hn a).events event h

theorem Ensures.map {x : Traced σ ε α} (hx : Ensures E F x) (f : α → β) : Ensures E F (Traced.map f x) := by
  rw [← andThen_done_eq_map]
  exact hx.andThen fun a => ensures_done (f a)

theorem ensures_ofResult {x : Except ε α} (h : ∀ e, x = .error e → F e) :
    Ensures E F (ofResult x : Traced σ ε α) := by
  cases x with
  | error e => exact ensures_fail (h e rfl)
  | ok a => exact ensures_done a

end Ensures

end HtmlTemplate.Traced
