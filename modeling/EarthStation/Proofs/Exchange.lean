import EarthStation.Exchange

/-!
# Exchange — what a step leads to

* `bind_eq_ok_iff`, `map_eq_ok_iff`, `mapError_eq_ok_iff`, `eq_ok_of_isOk`: when a result is there.
* `Exchange.Leads`: from states with one property a step leads to states with another, whether it
  answers or fails.
* `Exchange.Leads.bind` and the lemmas behind it: one rule for each building block.
* `Exchange.Agrees`: from related states two steps answer the same and lead to related states, with one
  rule for each building block.
* `Exchange.inTurn`, `Exchange.Agrees.inTurn`: steps one after another, whether they fail or not.
-/

namespace EarthStation

/-! ## Results -/

section Results

variable {ε ε' β γ : Type}

theorem bind_eq_ok_iff {x : Except ε β} {f : β → Except ε γ} {c : γ} :
    x >>= f = .ok c ↔ ∃ b, x = .ok b ∧ f b = .ok c := by
  cases x <;> simp [Bind.bind, Except.bind]

theorem map_eq_ok_iff {f : β → γ} {x : Except ε β} {c : γ} :
    x.map f = .ok c ↔ ∃ b, x = .ok b ∧ f b = c := by
  cases x <;> simp [Except.map]

theorem mapError_eq_ok_iff {f : ε → ε'} {x : Except ε β} {b : β} :
    x.mapError f = .ok b ↔ x = .ok b := by
  cases x with
  | error e => exact ⟨nofun, nofun⟩
  | ok b' => exact ⟨fun h => Except.ok.inj h ▸ rfl, fun h => Except.ok.inj h ▸ rfl⟩

theorem eq_ok_of_isOk {r : Except ε Unit} (h : r.isOk = true) : r = .ok () := by
  cases r with
  | ok => rfl
  | error e => simp [Except.isOk, Except.toBool] at h

end Results

/-! ## Steps -/

namespace Exchange

variable {σ ε β γ : Type} {P : σ → Prop} {Q : β → σ → Prop} {Q' : γ → σ → Prop} {R : σ → Prop}

/-- From a state with `P` a step answers and leads to `Q`, or it fails and leads to `R`. -/
def Leads (P : σ → Prop) (x : Exchange σ ε β) (Q : β → σ → Prop) (R : σ → Prop) : Prop :=
  ∀ s, P s → match x s with
    | (.ok b, t) => Q b t
    | (.error _, t) => R t

theorem bind_assoc {δ : Type} (x : Exchange σ ε β) (f : β → Exchange σ ε γ) (g : γ → Exchange σ ε δ) :
    x >>= f >>= g = x >>= fun b => f b >>= g := by
  funext s
  simp only [run_bind]
  rcases x s with ⟨_ | _, _⟩ <;> rfl

namespace Leads

theorem of_ok {x : Exchange σ ε β} (h : Leads P x Q R) {s t : σ} {b : β} (hs : P s)
    (hx : x s = (.ok b, t)) : Q b t := by
  have hq := h s hs
  rw [hx] at hq
  exact hq

theorem of_error {x : Exchange σ ε β} (h : Leads P x Q R) {s t : σ} {e : ε} (hs : P s)
    (hx : x s = (.error e, t)) : R t := by
  have hr := h s hs
  rw [hx] at hr
  exact hr

/-- What holds whether a step answers or fails holds after it. -/
theorem after {x : Exchange σ ε β} (h : Leads P x (fun _ => R) R) {s : σ} (hs : P s) :
    R (x s).2 := by
  rcases hx : x s with ⟨_ | _, t⟩
  · exact h.of_error hs hx
  · exact h.of_ok hs hx

theorem of_after {x : Exchange σ ε β} (h : ∀ s, P s → R (x s).2) : Leads P x (fun _ => R) R := by
  intro s hs
  have hr := h s hs
  split <;> rename_i hx <;> rwa [hx] at hr

theorem mono {P' : σ → Prop} {Q' : β → σ → Prop} {R' : σ → Prop} {x : Exchange σ ε β}
    (h : Leads P x Q R) (hP : ∀ s, P' s → P s) (hQ : ∀ b s, Q b s → Q' b s)
    (hR : ∀ s, R s → R' s) : Leads P' x Q' R' := by
  intro s hs
  rcases hx : x s with ⟨_ | b, t⟩
  · exact hR t (h.of_error (hP s hs) hx)
  · exact hQ b t (h.of_ok (hP s hs) hx)

/-- What is known whatever the state is may be assumed. -/
theorem assume {A : Prop} {x : Exchange σ ε β} (h : A → Leads P x Q R) :
    Leads (fun s => A ∧ P s) x Q R :=
  fun s hs => h hs.1 s hs.2

theorem bind {x : Exchange σ ε β} {f : β → Exchange σ ε γ} (hx : Leads P x Q R)
    (hf : ∀ b, Leads (Q b) (f b) Q' R) : Leads P (x >>= f) Q' R := by
  intro s hs
  rcases hr : x s with ⟨e | b, t⟩
  · rw [run_bind_of_error hr]
    exact hx.of_error hs hr
  · rw [run_bind_of_ok hr]
    exact hf b t (hx.of_ok hs hr)

theorem pure {b : β} (h : ∀ s, P s → Q b s) : Leads P (Pure.pure b : Exchange σ ε β) Q R :=
  fun s hs => h s hs

theorem get {Q : σ → σ → Prop} (h : ∀ s, P s → Q s s) : Leads P (get : Exchange σ ε σ) Q R :=
  fun s hs => h s hs

theorem modify {f : σ → σ} {Q : Unit → σ → Prop} (h : ∀ s, P s → Q () (f s)) :
    Leads P (modify f : Exchange σ ε Unit) Q R :=
  fun s hs => h s hs

theorem fail {e : ε} (h : ∀ s, P s → R s) : Leads P (fail e : Exchange σ ε β) Q R :=
  fun s hs => h s hs

/-- An answer that is worked out leaves the state alone. -/
theorem ofExcept {r : Except ε β} (hQ : ∀ b, r = .ok b → ∀ s, P s → Q b s) (hR : ∀ s, P s → R s) :
    Leads P (ofExcept r : Exchange σ ε β) Q R := by
  intro s hs
  cases r with
  | error e => exact hR s hs
  | ok b => exact hQ b rfl s hs

theorem ofExcept_same {r : Except ε β} : Leads P (Exchange.ofExcept r) (fun _ => P) P :=
  ofExcept (fun _ _ _ h => h) fun _ h => h

end Leads

/-! ## Steps at related states -/

section Agrees

variable {σ' : Type} {S : σ → σ' → Prop} {x : Exchange σ ε β} {y : Exchange σ' ε β}

/-- From related states two steps answer the same, or fail in the same way, and lead to related
states. -/
def Agrees (S : σ → σ' → Prop) (x : Exchange σ ε β) (y : Exchange σ' ε β) : Prop :=
  ∀ s t, S s t → (x s).1 = (y t).1 ∧ S (x s).2 (y t).2

/-- What steps answer in turn, whether they fail or not, and the state that they leave. -/
def inTurn : List (Exchange σ ε β) → σ → List (Except ε β) × σ
  | [], s => ([], s)
  | step :: steps, s => ((step s).1 :: (inTurn steps (step s).2).1, (inTurn steps (step s).2).2)

namespace Agrees

theorem bind {f : β → Exchange σ ε γ} {g : β → Exchange σ' ε γ} (hx : Agrees S x y)
    (hf : ∀ b, Agrees S (f b) (g b)) : Agrees S (x >>= f) (y >>= g) := by
  intro s t h
  obtain ⟨hanswer, hstate⟩ := hx s t h
  rcases hs : x s with ⟨e | b, s'⟩ <;> rcases ht : y t with ⟨e' | b', t'⟩ <;> rw [hs, ht] at hanswer hstate
  · rw [run_bind_of_error hs, run_bind_of_error ht]
    exact ⟨congrArg _ (Except.error.inj hanswer), hstate⟩
  · cases hanswer
  · cases hanswer
  · rw [run_bind_of_ok hs, run_bind_of_ok ht, ← Except.ok.inj hanswer]
    exact hf b s' t' hstate

theorem pure (b : β) : Agrees S (Pure.pure b : Exchange σ ε β) (Pure.pure b) :=
  fun _ _ h => ⟨rfl, h⟩

/-- States that are read may differ. -/
theorem get {f : σ → Exchange σ ε β} {g : σ' → Exchange σ' ε β}
    (h : ∀ s t, S s t → Agrees S (f s) (g t)) : Agrees S (Exchange.get >>= f) (Exchange.get >>= g) :=
  fun s t hst => h s t hst s t hst

theorem modify {f : σ → σ} {g : σ' → σ'} (h : ∀ s t, S s t → S (f s) (g t)) :
    Agrees S (Exchange.modify f : Exchange σ ε Unit) (Exchange.modify g) :=
  fun s t hst => ⟨rfl, h s t hst⟩

theorem fail (e : ε) : Agrees S (Exchange.fail e : Exchange σ ε β) (Exchange.fail e) :=
  fun _ _ h => ⟨rfl, h⟩

theorem ofExcept (r : Except ε β) : Agrees S (Exchange.ofExcept r) (Exchange.ofExcept r) :=
  fun _ _ h => ⟨rfl, h⟩

/-- Steps that agree one by one agree in turn. -/
theorem inTurn {ι : Type} {f : ι → Exchange σ ε β} {g : ι → Exchange σ' ε β}
    (h : ∀ i, Agrees S (f i) (g i)) (steps : List ι) {s : σ} {t : σ'} (hst : S s t) :
    (Exchange.inTurn (steps.map f) s).1 = (Exchange.inTurn (steps.map g) t).1 ∧
      S (Exchange.inTurn (steps.map f) s).2 (Exchange.inTurn (steps.map g) t).2 := by
  induction steps generalizing s t with
  | nil => exact ⟨rfl, hst⟩
  | cons i steps ih =>
    obtain ⟨hanswer, hstate⟩ := h i s t hst
    obtain ⟨hanswers, hend⟩ := ih hstate
    exact ⟨congr (congrArg List.cons hanswer) hanswers, hend⟩

end Agrees

end Agrees

end Exchange

end EarthStation
