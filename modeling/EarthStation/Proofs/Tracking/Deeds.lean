import EarthStation.Proofs.Tracking.Coherence

/-!
# Deeds — what a run does, one thing after another

* `Deed`: a command that is handled or a step that is made, in the state that it finds.
* `Deed.of_step`, `Deed.of_command`: how a deed ends.
* `deeds`: all deeds of a run, in order.
* `Path`: deeds that lead from one state to another; between them the count of an unlock may go down.
* `path_deeds`: the deeds of a run lead to the state after it.
* `Path.holds`: what every deed keeps holds all along a path.
-/

namespace EarthStation.Tracking

/-- Something that a run does. -/
inductive Act (τ α : Type) where
  | command (command : Command α)
  | step (now : τ)

namespace Controller

variable {τ α ρ κ : Type}

/-- Something that a run does, and the state in which it does so. -/
structure Deed (τ α ρ κ : Type) where
  act : Act τ α
  before : Controller τ α ρ κ

variable [Scalar α] [Timeline τ α] [Chronology τ] [Rotator.Device ρ α] [Radio.Device κ α]

namespace Deed

/-- How a deed ends, and in what state. -/
def outcome (d : Deed τ α ρ κ) : Except (Refusal α) Unit × Controller τ α ρ κ :=
  match d.act with
  | .command command => handle command d.before
  | .step now => step now d.before

def result (d : Deed τ α ρ κ) : Except (Refusal α) Unit := d.outcome.1

def after (d : Deed τ α ρ κ) : Controller τ α ρ κ := d.outcome.2

/-- Holds of the command if it is accepted. -/
def Accepts (command : Command α) (d : Deed τ α ρ κ) : Prop :=
  d.act = .command command ∧ d.result = .ok ()

variable {d : Deed τ α ρ κ}

theorem of_step {now : τ} (h : d.act = .step now) :
    d.result = (step now d.before).1 ∧ d.after = (step now d.before).2 := by
  unfold result after outcome
  rw [h]
  exact ⟨rfl, rfl⟩

/-- A command is refused and changes nothing, or it is accepted and does what is due. -/
theorem of_command {command : Command α} (h : d.act = .command command) :
    (d.result = .error .locked ∧ d.after = d.before) ∨
      (d.Accepts command ∧
        ∃ n ≤ d.before.session.unlockedTicks, d.after = obey command (d.before.withCredit n)) := by
  have houtcome : d.outcome = handle command d.before := by
    unfold outcome
    rw [h]
  rcases handle_cases command d.before with hrefused | ⟨n, hn, hobeyed⟩
  · have heq := houtcome.trans hrefused
    exact .inl ⟨congrArg Prod.fst heq, congrArg Prod.snd heq⟩
  · have heq := houtcome.trans hobeyed
    exact .inr ⟨⟨h, congrArg Prod.fst heq⟩, n, hn, congrArg Prod.snd heq⟩

end Deed

/-! ## The deeds of a run -/

omit [Timeline τ α] [Chronology τ] [Radio.Device κ α] in
/-- Commands as they are handled one after another. -/
def handled : List (Command α) → Controller τ α ρ κ → List (Deed τ α ρ κ)
  | [], _ => []
  | command :: rest, c => ⟨.command command, c⟩ :: handled rest (handle command c).2

/-- What a run does, in order. -/
def deeds : List (Event τ α) → Controller τ α ρ κ → List (Deed τ α ρ κ)
  | [], _ => []
  | .command command :: rest, c => ⟨.command command, c⟩ :: deeds rest (handle command c).2
  | .tick commands now :: rest, c =>
    handled commands c ++ ⟨.step now, (drain commands c).2⟩ :: deeds rest (tick commands now c).2

/-! ## Paths -/

/-- Deeds that lead from one state to another.  Between them the count of an unlock may go down, and
nothing else happens. -/
inductive Path : Controller τ α ρ κ → List (Deed τ α ρ κ) → Controller τ α ρ κ → Prop where
  | nil (c : Controller τ α ρ κ) : Path c [] c
  | deed (d : Deed τ α ρ κ) {ds : List (Deed τ α ρ κ)} {c' : Controller τ α ρ κ} :
    Path d.after ds c' → Path d.before (d :: ds) c'
  | countdown {c c' : Controller τ α ρ κ} {ds : List (Deed τ α ρ κ)} {n : Nat} :
    n ≤ c.session.unlockedTicks → Path (c.withCredit n) ds c' → Path c ds c'

theorem path_handled (commands : List (Command α)) (c : Controller τ α ρ κ)
    {ds : List (Deed τ α ρ κ)} {c' : Controller τ α ρ κ} (h : Path (drain commands c).2 ds c') :
    Path c (handled commands c ++ ds) c' := by
  induction commands generalizing c with
  | nil => exact h
  | cons command rest ih => exact .deed ⟨.command command, c⟩ (ih _ h)

/-- **The deeds of a run lead to the state after it.** -/
theorem path_deeds (events : List (Event τ α)) (c : Controller τ α ρ κ) :
    Path c (deeds events c) (after events c) := by
  induction events generalizing c with
  | nil => exact .nil c
  | cons e rest ih =>
    cases e with
    | command command => exact .deed ⟨.command command, c⟩ (ih _)
    | tick commands now =>
      let d : Deed τ α ρ κ := ⟨.step now, (drain commands c).2⟩
      -- after the step only an unlock that is not fresh counts down
      have htick : (tick commands now c).2 = if leavesUnlocked commands (drain commands c).1 then d.after
          else d.after.withCredit (d.after.session.unlockedTicks - 1) :=
        congrArg Prod.snd (tick_eq commands now c)
      have hrest := ih (tick commands now c).2
      refine path_handled commands c (.deed d ?_)
      split at htick
      · exact htick ▸ hrest
      · exact .countdown (Nat.sub_le _ 1) (htick ▸ hrest)

namespace Path

variable {c c' : Controller τ α ρ κ} {ds es : List (Deed τ α ρ κ)} {d : Deed τ α ρ κ}

/-- A path can be cut between any two deeds. -/
theorem split (h : Path c (ds ++ es) c') : ∃ m, Path c ds m ∧ Path m es c' := by
  generalize hall : ds ++ es = all at h
  induction h generalizing ds with
  | nil c =>
    obtain ⟨rfl, rfl⟩ := List.append_eq_nil_iff.mp hall
    exact ⟨c, .nil c, .nil c⟩
  | deed d h ih =>
    cases ds with
    | nil =>
      cases hall
      exact ⟨d.before, .nil _, .deed d h⟩
    | cons e ds =>
      obtain ⟨rfl, hrest⟩ := List.cons_eq_cons.mp hall
      obtain ⟨m, hds, hes⟩ := ih hrest
      exact ⟨m, .deed e hds, hes⟩
  | countdown hn _ ih =>
    obtain ⟨m, hds, hes⟩ := ih hall
    exact ⟨m, .countdown hn hds, hes⟩

theorem tail (h : Path c (d :: ds) c') : Path d.after ds c' := by
  generalize hall : d :: ds = all at h
  induction h with
  | nil c => cases hall
  | deed e h =>
    cases hall
    exact h
  | countdown _ _ ih => exact ih hall

/-- **What every deed keeps holds all along a path**, if it does not hang on the count of the unlock. -/
theorem holds {P : Controller τ α ρ κ → Prop}
    (hcount : ∀ {c n}, n ≤ c.session.unlockedTicks → P c → P (c.withCredit n))
    (h : Path c ds c') (hc : P c) (hkeep : ∀ d ∈ ds, P d.before → P d.after) :
    (∀ d ∈ ds, P d.before) ∧ P c' := by
  induction h with
  | nil c => exact ⟨fun d hd => absurd hd List.not_mem_nil, hc⟩
  | deed d h ih =>
    obtain ⟨hnow, hlater⟩ := List.forall_mem_cons.mp hkeep
    obtain ⟨hds, hc'⟩ := ih (hnow hc) hlater
    exact ⟨List.forall_mem_cons.mpr ⟨hc, hds⟩, hc'⟩
  | countdown hn _ ih => exact ih (hcount hn hc) hkeep

/-- What holds where a path begins holds when its first deed is done. -/
theorem head {P : Controller τ α ρ κ → Prop}
    (hcount : ∀ {c n}, n ≤ c.session.unlockedTicks → P c → P (c.withCredit n))
    (h : Path c (d :: ds) c') (hc : P c) : P d.before := by
  generalize hall : d :: ds = all at h
  induction h with
  | nil c => cases hall
  | deed e h =>
    cases hall
    exact hc
  | countdown hn _ ih => exact ih (hcount hn hc) hall

/-- What some deeds keep holds when the one that follows them is done. -/
theorem carries {P : Controller τ α ρ κ → Prop}
    (hcount : ∀ {c n}, n ≤ c.session.unlockedTicks → P c → P (c.withCredit n))
    (h : Path c (ds ++ d :: es) c') (hc : P c) (hkeep : ∀ d ∈ ds, P d.before → P d.after) :
    P d.before := by
  obtain ⟨m, hds, hrest⟩ := h.split
  exact hrest.head hcount (hds.holds hcount hc hkeep).2

end Path

/-! ## Invariants -/

/-- A deed keeps an invariant. -/
theorem Invariant.deed {P : Controller τ α ρ κ → Prop} (hP : Invariant P) (d : Deed τ α ρ κ)
    (h : P d.before) : P d.after := by
  unfold Deed.after Deed.outcome
  cases d.act with
  | command command => exact hP.handle h command
  | step now => exact hP.under.step h now

/-- **An invariant holds before every deed of a run.** -/
theorem Invariant.deeds {P : Controller τ α ρ κ → Prop} (hP : Invariant P) {c : Controller τ α ρ κ}
    (h : P c) (events : List (Event τ α)) : ∀ d ∈ deeds events c, P d.before :=
  ((path_deeds events c).holds (fun hn hc => hP.withCredit hc hn) h fun d _ => hP.deed d).1

end Controller

end EarthStation.Tracking
