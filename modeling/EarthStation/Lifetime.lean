import EarthStation.Exchange
import EarthStation.Pass

/-!
# Lifetime — how long an orbit lasts

* `Lifetime.Sample`: the altitude after a number of years, and its line of text.
* `Lifetime.estimate`: steps the orbit until it has sunk to a floor, ended, or lasted long enough.
-/

namespace EarthStation

variable {τ α : Type} [Scalar α] [Timeline τ α]

namespace Lifetime

/-- The altitude after a number of years. -/
structure Sample (α : Type) where
  years : α
  altitudeKm : α
deriving DecidableEq, Repr

/-- The line of text for a sample, without its line feed. -/
def Sample.line (s : Sample Float) : String :=
  Decimal.fixed 6 s.years ++ " " ++ Decimal.padLeft 6 (Decimal.fixed 2 s.altitudeKm)

/-- Where samples go: a state, and how one more sample is taken into it. -/
structure Sink (σ α : Type) where
  take : Sample α → Exchange σ IoError Unit

/-- Drops every sample. -/
def Sink.none : Sink Unit α := ⟨fun _ => Exchange.pure ()⟩

/-- Keeps every sample, in order. -/
def Sink.record : Sink (Array (Sample α)) α := ⟨fun s => Exchange.modify (·.push s)⟩

/-- Keeps the lines of the samples.  With a limit it breaks as soon as they would exceed that many
bytes. -/
def Sink.lines (limit : Option Nat) : Sink String Float where
  take s written :=
    let text := s.line ++ "\n"
    if limit.any (· < written.utf8ByteSize + text.utf8ByteSize) then
      (.error (.ofKind .brokenPipe), written)
    else (.ok (), written ++ text)

/-- What has become of the sink, and the years that the orbit lasts. -/
structure Report (σ α : Type) where
  sink : σ
  years : Except (PredictionError α) α

/-- The floor that is used where none is given. -/
def standardFloor : α := 100

def minutesPerYear : α := 1440 * 365.25

/-- How long and how far down the orbit is followed. -/
structure Limits (α : Type) where
  maxYears : α
  floorKm : α

def yearsAt (step : α) (k : Nat) : α := Visibility.grid step k / minutesPerYear

/-- Steps on from the `k`-th sample, whose years and altitude are given.  An orbit that cannot be
computed any more has ended. -/
def follow {σ : Type} (e : Ephemeris τ α) (start : τ) (step : α) (limits : Limits α)
    (sink : Sink σ α) : (fuel k : Nat) → (years altitude : α) → σ → Report σ α
  | 0, _, years, _, state => ⟨state, .ok years⟩
  | fuel + 1, k, years, altitude, state =>
    if years < limits.maxYears ∧ limits.floorKm < altitude then
      match sink.take ⟨years, altitude⟩ state with
      | (.error cause, state) => ⟨state, .error (.write cause)⟩
      | (.ok (), state) =>
        match e.observe (Timeline.later start (Visibility.grid step (k + 1))) with
        | .ok o =>
          follow e start step limits sink fuel (k + 1) (yearsAt step (k + 1)) o.altitudeKm state
        | .error (.propagation _) => ⟨state, .ok (yearsAt step (k + 1))⟩
        | .error cause => ⟨state, .error cause⟩
    else ⟨state, .ok years⟩

/-- The years that the satellite stays above the floor; each sample that it stays above goes to the
sink. -/
def estimate {σ : Type} (e : Ephemeris τ α) (start : τ) (step : α) (limits : Limits α)
    (sink : Sink σ α) (state : σ) : Report σ α :=
  if isStep step then
    match e.observe start with
    | .error cause => ⟨state, .error cause⟩
    | .ok o =>
      follow e start step limits sink
        (Visibility.stepBound (limits.maxYears * minutesPerYear) step) 0 0 o.altitudeKm state
  else ⟨state, .error (.invalidStep step)⟩

end Lifetime

end EarthStation
