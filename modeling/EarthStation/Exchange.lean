/-!
# Exchange — steps that may fail and change a state either way

* `Exchange σ ε β`: a step on a state `σ` that answers a `β` or fails with an `ε`.
* `Exchange.get`, `Exchange.modify`, `Exchange.fail`, `Exchange.either`: its building blocks.

A failure keeps what was changed before it: a device does not forget a command because the answer
was lost.
-/

namespace EarthStation

/-- A step on a state that answers or fails, and leaves a state in both cases. -/
def Exchange (σ ε β : Type) : Type := σ → Except ε β × σ

namespace Exchange

variable {σ ε β γ : Type}

def pure (b : β) : Exchange σ ε β := fun s => (.ok b, s)

def bind (x : Exchange σ ε β) (f : β → Exchange σ ε γ) : Exchange σ ε γ := fun s =>
  match x s with
  | (.ok b, s) => f b s
  | (.error e, s) => (.error e, s)

instance : Monad (Exchange σ ε) where
  pure := pure
  bind := bind

/-- The state. -/
def get : Exchange σ ε σ := fun s => (.ok s, s)

/-- Changes the state. -/
def modify (f : σ → σ) : Exchange σ ε Unit := fun s => (.ok (), f s)

def fail (e : ε) : Exchange σ ε β := fun s => (.error e, s)

/-- Goes on with an answer that is known, or fails. -/
def ofExcept (r : Except ε β) : Exchange σ ε β := fun s => (r, s)

/-- A step on a state that is of one of two kinds. -/
def either {ρ : Type} (f : Exchange ρ ε β) (g : Exchange σ ε β) : Exchange (ρ ⊕ σ) ε β
  | .inl r =>
    let (answer, r) := f r
    (answer, .inl r)
  | .inr s =>
    let (answer, s) := g s
    (answer, .inr s)

@[simp] theorem run_pure (b : β) (s : σ) : (Pure.pure b : Exchange σ ε β) s = (.ok b, s) := rfl

@[simp] theorem run_get (s : σ) : (get : Exchange σ ε σ) s = (.ok s, s) := rfl

@[simp] theorem run_modify (f : σ → σ) (s : σ) :
    (modify f : Exchange σ ε Unit) s = (.ok (), f s) := rfl

@[simp] theorem run_fail (e : ε) (s : σ) : (fail e : Exchange σ ε β) s = (.error e, s) := rfl

@[simp] theorem run_ofExcept (r : Except ε β) (s : σ) :
    (ofExcept r : Exchange σ ε β) s = (r, s) := rfl

theorem run_bind (x : Exchange σ ε β) (f : β → Exchange σ ε γ) (s : σ) :
    (x >>= f) s = match x s with
      | (.ok b, s) => f b s
      | (.error e, s) => (.error e, s) := rfl

theorem run_bind_of_ok {x : Exchange σ ε β} {f : β → Exchange σ ε γ} {s t : σ} {b : β}
    (h : x s = (.ok b, t)) : (x >>= f) s = f b t := by
  rw [run_bind, h]

theorem run_bind_of_error {x : Exchange σ ε β} {f : β → Exchange σ ε γ} {s t : σ} {e : ε}
    (h : x s = (.error e, t)) : (x >>= f) s = (.error e, t) := by
  rw [run_bind, h]

end Exchange

end EarthStation
