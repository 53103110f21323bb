import EarthStation.Exchange

/-!
# Equipment — a device that may be missing or get lost

* `Tracking.Equipment`: a device and whether it can be used.
* `Tracking.Equipment.use`: one step on it.

A device is lost by the first failure that means it is gone.  It is not used again, and its last
state is kept.
-/

namespace EarthStation.Tracking

inductive Equipment (δ : Type) where
  | absent
  | connected (device : δ)
  | lost (device : δ)
deriving Repr

namespace Equipment

variable {δ ε β : Type}

/-- A device that is there, or none. -/
def ofOption : Option δ → Equipment δ
  | some d => connected d
  | none => absent

def isAvailable : Equipment δ → Bool
  | connected _ => true
  | _ => false

/-- The device, also after it was lost. -/
def device? : Equipment δ → Option δ
  | absent => none
  | connected d | lost d => some d

/-- A step on the device if it can be used; the answer is `none` if it fails. -/
def use (gone : ε → Bool) (step : Exchange δ ε β) : Equipment δ → Option β × Equipment δ
  | connected d =>
    match step d with
    | (.ok b, d) => (some b, connected d)
    | (.error e, d) => (none, if gone e then lost d else connected d)
  | e => (none, e)

end Equipment

end EarthStation.Tracking
