import EarthStation.IoError
import EarthStation.Instant
import EarthStation.Decimal.Shortest

/-!
# Ephemeris — where a satellite is seen

* `Observation`: what the search and the tracking look at.
* `CatalogError`, `PredictionError`: why there is no prediction.
* `Ephemeris`: a satellite as a function from instants to observations.
* `Looks`: an answer together with the number of observations that it took.
-/

namespace EarthStation

/-- A satellite as seen from the station at one instant. -/
structure Observation (α : Type) where
  azimuthDeg : α
  elevationDeg : α
  altitudeKm : α
  rangeRateKmS : α
deriving DecidableEq, Repr

/-- Why a catalog, or a satellite of it, cannot be had. -/
inductive CatalogError where
  | read (cause : IoError)
  | notFound (name : String)
  /-- The lines do not form a record. -/
  | invalidElements (name detail : String)
  /-- The lines form a record, but hold no orbit. -/
  | rejectedElements (name detail : String)
  | truncated (name : String)
deriving DecidableEq, Repr

def CatalogError.message : CatalogError → String
  | read cause => "catalog read error: " ++ cause.message
  | notFound name => "satellite '" ++ name ++ "' not found in catalog"
  | invalidElements name detail | rejectedElements name detail =>
    "invalid elements for '" ++ name ++ "': " ++ detail
  | truncated name => "truncated record for '" ++ name ++ "'"

/-- Why a prediction failed. -/
inductive PredictionError (α : Type) where
  | catalog (cause : CatalogError)
  /-- The orbit cannot be computed for the instant asked for. -/
  | propagation (detail : String)
  | invalidPattern
  /-- The satellite stayed up for longer than a sweep is walked. -/
  | sweepIncomplete (minutes : α)
  | invalidStep (minutes : α)
  | write (cause : IoError)
deriving DecidableEq, Repr

def PredictionError.message : PredictionError Float → String
  | catalog cause => "catalog error: " ++ cause.message
  | propagation detail => "propagation error: " ++ detail
  | invalidPattern => "invalid name pattern"
  | sweepIncomplete minutes =>
    "pass sweep did not reach loss of signal within " ++ Decimal.plain minutes ++ " minutes"
  | invalidStep minutes =>
    "search step must be positive, got " ++ Decimal.plain minutes ++ " minutes"
  | write cause => "write error: " ++ cause.message

/-- A satellite seen from a fixed station, as a function of the instant. -/
structure Ephemeris (τ α : Type) where
  name : String
  observe : τ → Except (PredictionError α) (Observation α)

/-- An answer, or a failure, together with the number of observations made for it. -/
structure Looks (α β : Type) where
  result : Except (PredictionError α) β
  count : Nat

namespace Looks

variable {α β γ : Type}

def pure (b : β) : Looks α β := ⟨.ok b, 0⟩

def fail (e : PredictionError α) : Looks α β := ⟨.error e, 0⟩

/-- The observations of the first part count also if the second fails. -/
def bind (x : Looks α β) (f : β → Looks α γ) : Looks α γ :=
  match x.result with
  | .error e => ⟨.error e, x.count⟩
  | .ok b => ⟨(f b).result, x.count + (f b).count⟩

instance : Monad (Looks α) where
  pure := pure
  bind := bind

@[simp] theorem result_pure (b : β) : (Pure.pure b : Looks α β).result = .ok b := rfl

@[simp] theorem result_fail (e : PredictionError α) : (fail e : Looks α β).result = .error e := rfl

theorem result_bind (x : Looks α β) (f : β → Looks α γ) :
    (x >>= f).result = match x.result with
      | .ok b => (f b).result
      | .error e => .error e := by
  change (bind x f).result = _
  unfold bind
  cases x.result <;> rfl

theorem result_bind_eq_ok {x : Looks α β} {f : β → Looks α γ} {c : γ} :
    (x >>= f).result = .ok c ↔ ∃ b, x.result = .ok b ∧ (f b).result = .ok c := by
  rw [result_bind]
  cases x.result <;> simp

end Looks

/-- One observation. -/
def Ephemeris.look {τ α : Type} (e : Ephemeris τ α) (t : τ) : Looks α (Observation α) :=
  ⟨e.observe t, 1⟩

@[simp] theorem Ephemeris.result_look {τ α : Type} (e : Ephemeris τ α) (t : τ) :
    (e.look t).result = e.observe t := rfl

end EarthStation
