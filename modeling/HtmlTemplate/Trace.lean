/-!
# Traced computations

A traced computation ends in a result or an error, and leaves a trace: what it did, in order. A computation that
fails keeps the trace of what it did before it failed.
-/

namespace HtmlTemplate

/-- A computation that does things of the type `σ` and fails with errors of the type `ε`. -/
structure Traced (σ ε α : Type) where
  result : Except ε α
  trace : List σ

namespace Traced

variable {σ τ ε δ α β γ : Type}

/-- The computation that does nothing. -/
def done (a : α) : Traced σ ε α := ⟨.ok a, []⟩

/-- The computation that fails at once. -/
def fail (e : ε) : Traced σ ε α := ⟨.error e, []⟩

/-- The computation that does one thing. -/
def tell (event : σ) : Traced σ ε Unit := ⟨.ok (), [event]⟩

/-- One computation after another, which sees the result of the first. A failure of the first is a failure of
both. -/
def andThen (first : Traced σ ε α) (next : α → Traced σ ε β) : Traced σ ε β :=
  match first.result with
  | .error e => ⟨.error e, first.trace⟩
  | .ok a =>
    match next a with
    | ⟨result, trace⟩ => ⟨result, first.trace ++ trace⟩

/-- The computation with another result. -/
def map (f : α → β) (x : Traced σ ε α) : Traced σ ε β := ⟨x.result.map f, x.trace⟩

/-- The computation of a result, which leaves no trace. -/
def ofResult : Except ε α → Traced σ ε α
  | .ok a => done a
  | .error e => fail e

/-- The computation with other errors. -/
def mapError (f : ε → δ) (x : Traced σ ε α) : Traced σ δ α := ⟨x.result.mapError f, x.trace⟩

/-- The computation with the part of its trace that `f` selects. -/
def filterMapTrace (f : σ → Option τ) (x : Traced σ ε α) : Traced τ ε α := ⟨x.result, x.trace.filterMap f⟩

@[simp] theorem done_andThen (a : α) (next : α → Traced σ ε β) : andThen (done a) next = next a := by
  simp [andThen, done]

@[simp] theorem fail_andThen (e : ε) (next : α → Traced σ ε β) : andThen (fail e) next = fail e := rfl

theorem andThen_done (first : Traced σ ε α) : andThen first done = first := by
  obtain ⟨result, trace⟩ := first
  cases result <;> simp [andThen, done]

theorem andThen_done_eq_map (f : α → β) (x : Traced σ ε α) : (andThen x fun a => done (f a)) = map f x := by
  obtain ⟨result, trace⟩ := x
  cases result <;> simp [andThen, map, done, Except.map]

theorem andThen_assoc (first : Traced σ ε α) (next : α → Traced σ ε β) (last : β → Traced σ ε γ) :
    andThen (andThen first next) last = andThen first fun a => andThen (next a) last := by
  obtain ⟨result, trace⟩ := first
  cases result with
  | error e => rfl
  | ok a => cases h : (next a).result <;> simp [andThen, h]

end Traced

end HtmlTemplate
