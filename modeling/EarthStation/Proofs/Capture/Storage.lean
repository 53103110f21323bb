import EarthStation.Capture

/-!
# Storage — what a file has taken

* `Capture.Storage.held`: the bytes that a file has taken, whether they have reached it or wait.
* `Capture.Storage.Wrote`, `Capture.Storage.Refused`: what came of the attempts at writing.
* `Capture.Storage.flush_spec`, `Capture.Storage.add_spec`: what the steps on a file lead to.
-/

namespace EarthStation.Capture

open Wire (Bytes)

namespace Storage

variable {s t u : Storage} {cause : IoError}

/-- The bytes that have been taken: those in the file, and those that wait. -/
def held (s : Storage) : Bytes := s.content ++ s.waiting

/-- From a file to a later state of it each attempt at writing succeeded. -/
structure Wrote (s t : Storage) : Prop where
  same : t.refusal = s.refusal
  later : s.attempts ≤ t.attempts
  succeeded : ∀ k, s.attempts ≤ k → k < t.attempts → s.refusal k = none

/-- From a file to a later state of it the last attempt at writing failed, and no other. -/
structure Refused (s t : Storage) (cause : IoError) : Prop where
  same : t.refusal = s.refusal
  failed : ∃ k, s.attempts ≤ k ∧ t.attempts = k + 1 ∧ (s.refusal k).map Refusal.cause = some cause ∧
    ∀ j, s.attempts ≤ j → j < k → s.refusal j = none

theorem Wrote.refl (s : Storage) : Wrote s s :=
  ⟨rfl, Nat.le_refl _, fun _ h h' => absurd h (Nat.not_le.mpr h')⟩

theorem Wrote.trans (h : Wrote s t) (h' : Wrote t u) : Wrote s u where
  same := h'.same.trans h.same
  later := Nat.le_trans h.later h'.later
  succeeded k hk hk' := by
    by_cases hbefore : k < t.attempts
    · exact h.succeeded k hk hbefore
    · rw [← h.same]
      exact h'.succeeded k (Nat.le_of_not_lt hbefore) hk'

theorem Refused.after (h : Wrote s t) (h' : Refused t u cause) : Refused s u cause where
  same := h'.same.trans h.same
  failed := by
    obtain ⟨k, hk, hlast, hcause, hothers⟩ := h'.failed
    rw [h.same] at hcause hothers
    refine ⟨k, Nat.le_trans h.later hk, hlast, hcause, fun j hj hjk => ?_⟩
    by_cases hbefore : j < t.attempts
    · exact h.succeeded j hj hbefore
    · exact hothers j (Nat.le_of_not_lt hbefore) hjk

/-- What is flushed has reached the file, or it waits as before the attempt that failed. -/
theorem flush_spec (s : Storage) :
    match flush s with
    | (.ok (), t) => Wrote s t ∧ t.content = s.held ∧ t.waiting = []
    | (.error cause, t) => Refused s t cause ∧ t.held = s.held := by
  unfold flush
  by_cases hwaiting : s.waiting.isEmpty
  · rw [if_pos hwaiting]
    have hnil := List.isEmpty_iff.mp hwaiting
    exact ⟨.refl s, by simp [held, hnil], hnil⟩
  · rw [if_neg hwaiting]
    cases hrefusal : s.refusal s.attempts with
    | some refusal =>
      refine ⟨⟨rfl, s.attempts, Nat.le_refl _, rfl, by rw [hrefusal]; rfl, fun j h h' => ?_⟩, ?_⟩
      · exact absurd h (Nat.not_le.mpr h')
      · simp [held, content]
    | none =>
      refine ⟨⟨rfl, Nat.le_succ _, fun k h h' => ?_⟩, by simp [held, content], rfl⟩
      rwa [show k = s.attempts by simp only at h'; omega]

/-- Bytes that are added come behind those taken before; a failure adds none. -/
theorem add_spec (bytes : Bytes) (s : Storage) :
    match add bytes s with
    | (.ok (), t) => Wrote s t ∧ t.held = s.held ++ bytes
    | (.error cause, t) => Refused s t cause ∧ t.held = s.held := by
  have hflush := flush_spec s
  by_cases hfull : bufferSize < s.waiting.length + bytes.length
  · rcases h : flush s with ⟨cause | _, t⟩ <;> rw [h] at hflush
    · simpa [add, hfull, Exchange.run_bind, h] using hflush
    · obtain ⟨hwrote, hcontent, hnil⟩ := hflush
      have hadded : add bytes s = (.ok (), { t with waiting := t.waiting ++ bytes }) := by
        simp [add, hfull, Exchange.run_bind, h]
      rw [hadded, ← hcontent]
      exact ⟨⟨hwrote.same, hwrote.later, hwrote.succeeded⟩, by simp [held, content, hnil]⟩
  · have hadded : add bytes s = (.ok (), { s with waiting := s.waiting ++ bytes }) := by
      simp [add, hfull, Exchange.run_bind]
    rw [hadded]
    exact ⟨⟨rfl, Nat.le_refl _, (Wrote.refl s).succeeded⟩, by simp [held, content]⟩

theorem attempts_le_close (s : Storage) : s.attempts ≤ s.close.attempts := by
  have hflush := flush_spec s
  unfold close
  rcases h : flush s with ⟨cause | _, t⟩ <;> rw [h] at hflush
  · obtain ⟨k, hk, hlast, -, -⟩ := hflush.1.failed
    simp only [hlast]
    omega
  · exact hflush.1.later

theorem content_close (h : ∀ k, s.refusal k = none) : s.close.content = s.held := by
  have hflush := flush_spec s
  unfold close
  rcases hanswer : flush s with ⟨cause | _, t⟩ <;> rw [hanswer] at hflush
  · obtain ⟨k, -, -, hcause, -⟩ := hflush.1.failed
    simp [h k] at hcause
  · exact hflush.2.1

end Storage

end EarthStation.Capture
