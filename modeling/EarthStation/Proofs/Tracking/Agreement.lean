import EarthStation.Proofs.Rotator.Bookkeeping
import EarthStation.Proofs.Tracking.Mirror

/-!
# Agreement — what a run and its rotator link note of the same orders

* `Rotator.Link.mirrors`: a link shows the position that was set last.
* `Controller.Agrees`: link and run agree on it.
* `Controller.agreement_law`: what a link notes of its operations, and that a run notes the same.
-/

namespace EarthStation

open Rotator (Position)
open Wire (Line Peer)

namespace Rotator.Link

variable {δ α : Type} [Peer δ] [Scalar α]

/-- A command that asks for the position notes no order. -/
theorem report_lastCommanded (command : Wire.Bytes) (l : Link δ α) :
    (report command l).2.lastCommanded = l.lastCommanded := by
  rcases report_cases command l with ⟨p, l', h, hnotes⟩ | ⟨e, l', h, hnotes, -⟩
  · rw [h]
    exact congrArg Notes.commanded hnotes
  · rw [h]
    exact congrArg Notes.commanded hnotes

/-- **A link notes the position that was set last.** -/
theorem mirrors : Tracking.Mirrors (lastCommanded : Link δ α → Option (Position α)) where
  stop := report_lastCommanded stopFrame
  status := report_lastCommanded statusFrame
  set target l := by
    have hset : Device.set target l = set target l := rfl
    rw [hset]
    rcases set_cases target l with ⟨e, h⟩ | ⟨r, l', h, hnotes⟩ | ⟨e, l', h, hnotes, -⟩
    · rw [h]
      rfl
    · rw [h]
      exact congrArg Notes.commanded hnotes
    · rw [h]
      exact congrArg Notes.commanded hnotes

end Rotator.Link

namespace Tracking.Controller

variable {τ α δ κ : Type}

/-- Run and link note the same order, as long as there is a link, and after it was lost. -/
def Agrees (c : Controller τ α (Rotator.Link δ α) κ) : Prop :=
  ∀ l, c.rotator.device? = some l → c.session.lastCommanded = l.lastCommanded

theorem agrees_of_mirrored {c : Controller τ α (Rotator.Link δ α) κ}
    (h : Mirrored Rotator.Link.lastCommanded c) : Agrees c := by
  intro l hl
  rw [h, Equipment.view, hl]
  rfl

variable [Scalar α] [Timeline τ α] [Chronology τ] [Radio.Device κ α] [Peer δ]

/-- **The law of the agreement.**  Whatever is done at a rotator link, it notes the operations that
succeed and no others.  In a run that has the link for its rotator, the position that targets are
compared with is at any time the one that the link notes. -/
theorem agreement_law (line : Line δ) (setResponds : Bool) :
    (∀ ops : List (Rotator.Operation α), Rotator.Link.BookkeepingLaw
      ((Rotator.Link.ofLine line setResponds).successes ops)
      ((Rotator.Link.ofLine line setResponds).after ops)) ∧
    ∀ (satellite : Ephemeris τ α) (settings : Settings α) (radio : Equipment κ)
      (events : List (Event τ α)),
      let c := after events (fresh satellite settings (.connected (.ofLine line setResponds)) radio)
      Agrees c ∧ Agrees (shutdown c) := by
  refine ⟨Rotator.Link.bookkeepingLaw_after line setResponds, fun satellite settings radio events => ?_⟩
  have hfresh : Mirrored Rotator.Link.lastCommanded
      (fresh satellite settings (.connected (.ofLine line setResponds)) radio) := rfl
  have hlater := (mirrored_invariant Rotator.Link.mirrors).after hfresh events
  exact ⟨agrees_of_mirrored hlater, agrees_of_mirrored (hlater.shutdown Rotator.Link.mirrors)⟩

end Tracking.Controller

end EarthStation
