import EarthStation.Proofs.Capture.Pieces
import EarthStation.Proofs.Capture.Storage

/-!
# Recording — a recording holds what the source delivered

* `Capture.Turn`, `Capture.turn`: what one read and what is done with it lead to.
* `Capture.Copied`, `Capture.copyOn_copied`: what copying a source leads to.
* `Capture.Recorded`, `Capture.copy_recorded`: what becomes of a recording.
* `Capture.copying_law`: the file, the number of its bytes and the source, however copying ended.
* `Capture.copy_unstopped`: what is copied to the end.
-/

namespace EarthStation.Capture

open Wire (Bytes ReadEvent contents steadyPart haltedPart)

/-! ## Copying -/

open Storage (Wrote Refused)

variable {met : List ReadEvent} {written reads : Nat} {c c' c'' : Copying}

/-- Holds of reads none of which fails for good before one brings nothing. -/
def Quiet (events : List ReadEvent) : Prop :=
  ∀ cause, (haltedPart events).head? ≠ some (.failure cause)

theorem quiet_nil : Quiet [] := by simp [Quiet, haltedPart]

/-- What copying leads to, with reads that meet the given events: after `reads` of them copying was
stopped or the source ended, a read failed, or an attempt at writing did. -/
inductive Copied (met : List ReadEvent) (written reads : Nat) (c c' : Copying) :
    Except IoError Nat → Prop
  | whole (hquiet : Quiet met) (hwrote : Wrote c.storage c'.storage)
    (hheld : c'.storage.held = c.storage.held ++ contents (steadyPart met)) :
    Copied met written reads c c' (.ok (written + (contents (steadyPart met)).length))
  | failed {cause : IoError} (hread : (haltedPart met).head? = some (.failure cause))
    (hreads : reads = (steadyPart met).length + 1) (hwrote : Wrote c.storage c'.storage)
    (hheld : c'.storage.held = c.storage.held ++ contents (steadyPart met)) :
    Copied met written reads c c' (.error cause)
  | refused {cause : IoError} (hreads : reads ≤ (steadyPart met).length)
    (hrefused : Refused c.storage c'.storage cause) : Copied met written reads c c' (.error cause)

/-- One more read in front, which brought bytes that were taken, or was interrupted. -/
theorem Copied.cons {e : ReadEvent} {result : Except IoError Nat} (he : e.Steady)
    (h : Copied met (written + e.bytes.length) reads c' c'' result)
    (hwrote : Wrote c.storage c'.storage) (hheld : c'.storage.held = c.storage.held ++ e.bytes) :
    Copied (e :: met) written (reads + 1) c c'' result := by
  have hsteady : steadyPart (e :: met) = e :: steadyPart met := Wire.steadyPart_of_steady he
  have hhalted : haltedPart (e :: met) = haltedPart met := Wire.haltedPart_of_steady he
  have hbytes {t : Storage} (ht : t.held = c'.storage.held ++ contents (steadyPart met)) :
      t.held = c.storage.held ++ contents (steadyPart (e :: met)) := by
    rw [ht, hheld, hsteady, Wire.contents_cons, List.append_assoc]
  cases h with
  | whole hquiet hwrote' hheld' =>
    have hcount : written + e.bytes.length + (contents (steadyPart met)).length =
        written + (contents (steadyPart (e :: met))).length := by
      rw [hsteady, Wire.contents_cons, List.length_append, Nat.add_assoc]
    rw [hcount]
    exact .whole (by rwa [Quiet, hhalted]) (hwrote.trans hwrote') (hbytes hheld')
  | failed hread hreads hwrote' hheld' =>
    exact .failed (hhalted ▸ hread) (by rw [hsteady, hreads, List.length_cons])
      (hwrote.trans hwrote') (hbytes hheld')
  | refused hreads hrefused =>
    exact .refused (by rw [hsteady, List.length_cons]; omega) (hrefused.after hwrote)

/-- A read that brought nothing ends the copying. -/
theorem Copied.ended {e : ReadEvent} (he : ¬ e.Steady) (hquiet : ∀ cause, e ≠ .failure cause)
    (hstorage : c'.storage = c.storage) : Copied (e :: met) written 1 c c' (.ok written) := by
  have hsteady : steadyPart (e :: met) = [] := Wire.steadyPart_of_halt he
  have hhead : Quiet (e :: met) := by
    rw [Quiet, Wire.haltedPart_of_halt he]
    exact fun cause h => hquiet cause (Option.some.inj h)
  have hwrote : Wrote c.storage c'.storage := hstorage ▸ .refl _
  have hwhole : Copied (e :: met) written 1 c c' _ := .whole hhead hwrote (by simp [hsteady, hstorage])
  simpa [hsteady] using hwhole

/-- A read that fails for good ends it, too. -/
theorem Copied.broken {cause : IoError} (hhalt : ¬ (ReadEvent.failure cause).Steady)
    (hstorage : c'.storage = c.storage) : Copied (.failure cause :: met) written 1 c c' (.error cause) := by
  have hnone : steadyPart (.failure cause :: met) = [] := Wire.steadyPart_of_halt hhalt
  refine .failed ?_ (by rw [hnone]; rfl) (hstorage ▸ .refl _) (by simp [hnone, hstorage])
  rw [Wire.haltedPart_of_halt hhalt]
  rfl

/-- What the next read leads to, by the pieces that are left, however many reads may follow: copying ends
or fails, or it goes on with what the read brought. -/
inductive Turn (written : Nat) (c : Copying) : List ReadEvent → Prop
  | drained (rest : List ReadEvent) (h : ∀ limit, Copying.copyOn (limit + 1) written c =
      (.ok written, ⟨⟨rest, .read :: c.source.handlings⟩, c.storage⟩)) : Turn written c []
  | ended {e : ReadEvent} {later : List ReadEvent} (rest : List ReadEvent) (he : ¬ e.Steady)
    (hquiet : ∀ cause, e ≠ .failure cause) (h : ∀ limit, Copying.copyOn (limit + 1) written c =
      (.ok written, ⟨⟨rest, .read :: c.source.handlings⟩, c.storage⟩)) : Turn written c (e :: later)
  | failed {cause : IoError} {later : List ReadEvent} (rest : List ReadEvent)
    (hhalt : ¬ (ReadEvent.failure cause).Steady) (h : ∀ limit, Copying.copyOn (limit + 1) written c =
      (.error cause, ⟨⟨rest, .read :: c.source.handlings⟩, c.storage⟩)) :
    Turn written c (.failure cause :: later)
  | refused {e : ReadEvent} {later : List ReadEvent} (rest : List ReadEvent) {storage : Storage}
    {cause : IoError} (he : e.Steady) (hrefused : Refused c.storage storage cause)
    (h : ∀ limit, Copying.copyOn (limit + 1) written c =
      (.error cause, ⟨⟨rest, .read :: c.source.handlings⟩, storage⟩)) : Turn written c (e :: later)
  | further {e : ReadEvent} {rest : List ReadEvent} {storage : Storage} (he : e.Steady)
    (hwrote : Wrote c.storage storage) (hheld : storage.held = c.storage.held ++ e.bytes)
    (h : ∀ limit, Copying.copyOn (limit + 1) written c = Copying.copyOn limit (written + e.bytes.length)
      ⟨⟨rest, .read :: c.source.handlings⟩, storage⟩) : Turn written c (e :: pieces rest)

theorem turn (written : Nat) (c : Copying) : Turn written c (pieces c.source.events) := by
  have hread := read_spec c.source
  cases hpieces : pieces c.source.events with
  | nil =>
    rw [hpieces] at hread
    exact .drained [] fun limit => by simp only [Copying.copyOn, hread]
  | cons e later =>
    rw [hpieces] at hread
    obtain ⟨rest, hread, rfl⟩ := hread
    cases e with
    | chunk bytes =>
      cases bytes with
      | nil =>
        exact .ended rest (fun h => h rfl) (by simp) fun limit => by
          simp only [Copying.copyOn, hread, answer]
      | cons b bytes =>
        have hsteady : (ReadEvent.chunk (b :: bytes)).Steady := List.cons_ne_nil b bytes
        have hadd := Storage.add_spec (b :: bytes) c.storage
        rcases hadded : Storage.add (b :: bytes) c.storage with ⟨cause | _, storage⟩ <;>
          rw [hadded] at hadd
        · exact .refused rest hsteady hadd.1 fun limit => by
            simp only [Copying.copyOn, hread, answer, hadded]
        · refine .further hsteady hadd.1 hadd.2 fun limit => ?_
          simp only [Copying.copyOn, hread, answer, hadded, ReadEvent.bytes]
    | eof => exact .ended rest id (by simp) fun limit => by simp only [Copying.copyOn, hread, answer]
    | failure cause =>
      by_cases hinterrupted : cause.isInterrupted = true
      · refine .further hinterrupted (.refl _) (List.append_nil _).symm fun limit => ?_
        simp only [Copying.copyOn, hread, answer, hinterrupted, if_true, ReadEvent.bytes,
          List.length_nil, Nat.add_zero]
      · refine .failed rest hinterrupted fun limit => ?_
        simp only [Copying.copyOn, hread, answer, hinterrupted, if_false, Bool.false_eq_true]

/-- **Copying on**: what it leads to, and that it does nothing but read from the source. -/
theorem copyOn_copied (limit written : Nat) (c : Copying) :
    ∃ reads ≤ limit, (Copying.copyOn limit written c).2.source.handlings =
        List.replicate reads .read ++ c.source.handlings ∧
      Copied ((pieces c.source.events).take limit) written reads c (Copying.copyOn limit written c).2
        (Copying.copyOn limit written c).1 := by
  induction limit generalizing written c with
  | zero =>
    exact ⟨0, le_refl _, rfl, .whole quiet_nil (.refl _) (by simp [steadyPart, Copying.copyOn])⟩
  | succ limit ih =>
    have hone : 1 ≤ limit + 1 := Nat.le_add_left 1 limit
    have hturn := turn written c
    generalize pieces c.source.events = left at hturn ⊢
    cases hturn with
    | drained _ h =>
      rw [h]
      exact ⟨1, hone, rfl, .whole quiet_nil (.refl _) (by simp [steadyPart])⟩
    | ended _ he hquiet h =>
      rw [h]
      exact ⟨1, hone, rfl, .ended he hquiet rfl⟩
    | failed _ hhalt h =>
      rw [h]
      exact ⟨1, hone, rfl, .broken hhalt rfl⟩
    | refused _ he hrefused h =>
      rw [h, List.take_succ_cons]
      refine ⟨1, hone, rfl, .refused ?_ hrefused⟩
      rw [Wire.steadyPart_of_steady he]
      exact Nat.le_add_left 1 _
    | @further e rest storage he hwrote hheld h =>
      obtain ⟨reads, hlimit, hhandlings, hcopied⟩ :=
        ih (written + e.bytes.length) ⟨⟨rest, .read :: c.source.handlings⟩, storage⟩
      rw [h, List.take_succ_cons]
      refine ⟨reads + 1, Nat.succ_le_succ hlimit, ?_, .cons he hcopied hwrote hheld⟩
      rw [hhandlings, List.replicate_succ', List.append_assoc, List.singleton_append]

/-- Where the end of the source is found anyway, no limit on the reads is felt. -/
theorem copyOn_of_le {limit limit' : Nat} (hbound : (pieces c.source.events).length < limit)
    (h : limit ≤ limit') : Copying.copyOn limit' written c = Copying.copyOn limit written c := by
  induction limit generalizing limit' written c with
  | zero => exact absurd hbound (Nat.not_lt_zero _)
  | succ limit ih =>
    obtain ⟨limit', rfl⟩ : ∃ more, limit' = more + 1 := ⟨limit' - 1, by omega⟩
    have hturn := turn written c
    generalize pieces c.source.events = left at hturn hbound
    cases hturn with
    | drained _ hstep | ended _ _ _ hstep | failed _ _ hstep | refused _ _ _ hstep => rw [hstep, hstep]
    | further _ _ _ hstep =>
      rw [hstep, hstep]
      exact ih (Nat.lt_of_succ_lt_succ hbound) (Nat.le_of_succ_le_succ h)

/-! ## Recordings -/

/-- What the reads meet that are made before copying is stopped, if it is. -/
def seen (stopAfter : Option Nat) (events : List ReadEvent) : List ReadEvent :=
  match stopAfter with
  | some reads => (pieces events).take reads
  | none => pieces events

/-- Of the attempts at writing the one of that number is the first that fails. -/
structure FailsFirst (refusal : Nat → Option Refusal) (k : Nat) (cause : IoError) : Prop where
  fails : (refusal k).map Refusal.cause = some cause
  first : ∀ j < k, refusal j = none

theorem FailsFirst.ne_none {refusal : Nat → Option Refusal} {k : Nat} {cause : IoError}
    (h : FailsFirst refusal k cause) : refusal k ≠ none := by
  intro hnone
  have hfails := h.fails
  simp [hnone] at hfails

theorem FailsFirst.cause_eq {refusal : Nat → Option Refusal} {k k' : Nat} {cause cause' : IoError}
    (h : FailsFirst refusal k cause) (h' : FailsFirst refusal k' cause') : cause' = cause := by
  have hk : k = k' := by
    rcases Nat.lt_trichotomy k k' with hlt | heq | hlt
    · exact absurd (h'.first k hlt) h.ne_none
    · exact heq
    · exact absurd (h.first k' hlt) h'.ne_none
  subst hk
  exact Option.some.inj (h'.fails.symm.trans h.fails)

/-- What becomes of a recording: it is whole, a read failed, or an attempt at writing did. -/
inductive Recorded (met : List ReadEvent) (refusal : Nat → Option Refusal) (reads : Nat) (o : Outcome) :
    Prop
  | whole (hquiet : Quiet met) (hwrote : ∀ k < o.storage.attempts, refusal k = none)
    (hcontent : o.storage.content = contents (steadyPart met))
    (hwritten : o.written = .ok (contents (steadyPart met)).length)
  | failed {cause : IoError} (hread : (haltedPart met).head? = some (.failure cause))
    (hreads : reads = (steadyPart met).length + 1)
    (hcontent : (∀ k, refusal k = none) → o.storage.content = contents (steadyPart met))
    (hwritten : o.written = .error (.io cause))
  | refused {cause : IoError} {k : Nat} (hattempt : k < o.storage.attempts)
    (hfails : FailsFirst refusal k cause) (hreads : reads ≤ (steadyPart met).length ∨ Quiet met)
    (hwritten : o.written = .error (.io cause))

theorem Storage.Refused.failsFirst {refusal : Nat → Option Refusal} {t : Storage} {cause : IoError}
    (h : Refused (.onDisk refusal) t cause) : ∃ k < t.close.attempts, FailsFirst refusal k cause := by
  obtain ⟨k, -, hlast, hcause, hothers⟩ := h.failed
  have hclose := t.attempts_le_close
  exact ⟨k, by omega, hcause, fun j hj => hothers j (Nat.zero_le j) hj⟩

/-- The file is closed in any case, and then copying has made a recording. -/
theorem Copied.finish {refusal : Nat → Option Refusal} {result : Except IoError Nat}
    (hc : c.storage = .onDisk refusal) (h : Copied met 0 reads c c' result) :
    Recorded met refusal reads (c'.finish result) := by
  cases h with
  | whole hquiet hwrote hheld =>
    rw [hc] at hwrote
    have hflush := Storage.flush_spec c'.storage
    rcases hanswer : Storage.flush c'.storage with ⟨cause | _, t⟩ <;> rw [hanswer] at hflush <;>
      simp only [Copying.finish, hanswer]
    · obtain ⟨k, hk, hfails⟩ := (hflush.1.after hwrote).failsFirst
      exact .refused hk hfails (.inr hquiet) rfl
    · refine .whole hquiet (fun k hk => (hwrote.trans hflush.1).succeeded k (Nat.zero_le k) hk) ?_ ?_
      · rw [hflush.2.1, hheld, hc]
        rfl
      · rw [Nat.zero_add]
  | failed hread hreads hwrote hheld =>
    rw [hc] at hwrote hheld
    refine .failed hread hreads (fun hnone => ?_) rfl
    have hrefusal : c'.storage.refusal = refusal := hwrote.same
    exact (Storage.content_close (hrefusal ▸ hnone)).trans hheld
  | refused hreads hrefused =>
    rw [hc] at hrefused
    obtain ⟨k, hk, hfails⟩ := hrefused.failsFirst
    exact .refused hk hfails (.inl hreads) rfl

theorem take_pieces (stopAfter : Option Nat) (events : List ReadEvent) :
    (pieces events).take (stopAfter.getD (Source.readBound events)) = seen stopAfter events := by
  cases stopAfter with
  | none => exact List.take_of_length_le (length_pieces events).le
  | some reads => rfl

/-- However copying ended, the source is given up at last. -/
theorem source_finish (result : Except IoError Nat) (c : Copying) :
    (c.finish result).source = c.source.release := by
  rcases result with cause | n
  · rfl
  · simp only [Copying.finish]
    rcases Storage.flush c.storage with ⟨_ | _, storage⟩ <;> rfl

/-- **A recording**: what becomes of it, and that the source was only read from before it was given up. -/
theorem copy_recorded (stopAfter : Option Nat) (events : List ReadEvent)
    (refusal : Nat → Option Refusal) :
    ∃ reads ≤ stopAfter.getD (Source.readBound events),
      (copy stopAfter events (.onDisk refusal)).source.handlings =
        .release :: List.replicate reads .read ∧
      Recorded (seen stopAfter events) refusal reads (copy stopAfter events (.onDisk refusal)) := by
  obtain ⟨reads, hlimit, hhandlings, hcopied⟩ :=
    copyOn_copied (stopAfter.getD (Source.readBound events)) 0
      ⟨.ofEvents events, .onDisk refusal⟩
  rw [show (Source.ofEvents events).events = events from rfl, take_pieces] at hcopied
  refine ⟨reads, hlimit, ?_, hcopied.finish rfl⟩
  have hsource : (copy stopAfter events (.onDisk refusal)).source = Source.release _ := source_finish _ _
  rw [hsource, Source.release, hhandlings]
  exact congrArg _ (List.append_nil _)

/-- Copying that is never stopped is copying that is stopped late. -/
theorem copy_late {n : Nat} {events : List ReadEvent} (h : Source.readBound events ≤ n)
    (storage : Storage) : copy (some n) events storage = copy none events storage := by
  have hlate : Copying.copyOn n 0 ⟨.ofEvents events, storage⟩ =
      Copying.copyOn (Source.readBound events) 0 ⟨.ofEvents events, storage⟩ :=
    copyOn_of_le (length_pieces events) h
  simp only [copy, Option.getD_some, Option.getD_none, hlate]

namespace Recorded

variable {refusal : Nat → Option Refusal} {o : Outcome} {cause : IoError}

theorem content_of_ok (h : Recorded met refusal reads o) {n : Nat} (hn : o.written = .ok n) :
    o.storage.content = contents (steadyPart met) ∧ n = o.storage.content.length := by
  cases h with
  | whole _ _ hcontent hwritten =>
    rw [hwritten] at hn
    exact ⟨hcontent, by rw [hcontent]; exact (Except.ok.inj hn).symm⟩
  | failed _ _ _ hwritten => cases hwritten.symm.trans hn
  | refused _ _ _ hwritten => cases hwritten.symm.trans hn

/-- The number of bytes is told exactly if no read and no attempt at writing fails. -/
theorem ok_iff (h : Recorded met refusal reads o) :
    (∃ n, o.written = .ok n) ↔ Quiet met ∧ ∀ k < o.storage.attempts, refusal k = none := by
  cases h with
  | whole hquiet hwrote _ hwritten => exact iff_of_true ⟨_, hwritten⟩ ⟨hquiet, hwrote⟩
  | failed hread _ _ hwritten =>
    exact iff_of_false (by simp [hwritten]) fun h => h.1 _ hread
  | refused hattempt hfails _ hwritten =>
    exact iff_of_false (by simp [hwritten]) fun h => hfails.ne_none (h.2 _ hattempt)

theorem of_failure (h : Recorded met refusal reads o) (hread : (haltedPart met).head? = some (.failure cause))
    (hreads : reads = (steadyPart met).length + 1) : o.written = .error (.io cause) := by
  cases h with
  | whole hquiet => exact absurd hread (hquiet cause)
  | failed hread' _ _ hwritten =>
    rw [hread] at hread'
    cases hread'
    exact hwritten
  | refused _ _ hreads' _ =>
    rcases hreads' with hfew | hquiet
    · omega
    · exact absurd hread (hquiet cause)

theorem of_failsFirst (h : Recorded met refusal reads o) {k : Nat} (hk : k < o.storage.attempts)
    (hfails : FailsFirst refusal k cause) (hreads : reads ≤ (steadyPart met).length ∨ Quiet met) :
    o.written = .error (.io cause) := by
  cases h with
  | whole _ hwrote => exact absurd (hwrote k hk) hfails.ne_none
  | failed hread hreads' =>
    rcases hreads with hfew | hquiet
    · omega
    · exact absurd hread (hquiet _)
  | refused _ hfails' _ hwritten => rw [hwritten, hfails.cause_eq hfails']

/-- On a disk that never refuses, what was read is in the file even if a read failed. -/
theorem of_never (h : Recorded met refusal reads o) (hnever : ∀ k, refusal k = none) :
    o.storage.content = contents (steadyPart met) ∧
      o.written = match (haltedPart met).head? with
        | some (.failure cause) => .error (.io cause)
        | _ => .ok (contents (steadyPart met)).length := by
  cases h with
  | whole hquiet _ hcontent hwritten =>
    refine ⟨hcontent, ?_⟩
    split
    · rename_i hread
      exact absurd hread (hquiet _)
    · exact hwritten
  | failed hread _ hcontent hwritten => exact ⟨hcontent hnever, by rw [hread, hwritten]⟩
  | refused _ hfails => exact absurd (hnever _) hfails.ne_none

end Recorded

/-- **Recordings.**  Of the source only reads are made until it is given up, once and at last, and none
after copying was stopped.  If a number of bytes is told, the file holds the bytes that came before the
first read that brought nothing or before copying was stopped, and the number is theirs.  It is told
exactly if no read that is not repeated and no attempt at writing failed; else the failure of the read is
told, or the first one at writing.  On a disk that does not refuse, all that was read before a failure is
in the file, too.  Copying that is never stopped is copying that is stopped late. -/
theorem copying_law (stopAfter : Option Nat) (events : List ReadEvent) (refusal : Nat → Option Refusal) :
    let met := seen stopAfter events
    let outcome := copy stopAfter events (.onDisk refusal)
    (∃ reads, (∀ n ∈ stopAfter, reads ≤ n) ∧
      outcome.source.handlings = .release :: List.replicate reads .read ∧
      (∀ cause, (haltedPart met).head? = some (.failure cause) → reads = (steadyPart met).length + 1 →
        outcome.written = .error (.io cause)) ∧
      ∀ cause k, k < outcome.storage.attempts → FailsFirst refusal k cause →
        reads ≤ (steadyPart met).length ∨ Quiet met → outcome.written = .error (.io cause)) ∧
    (∀ n, outcome.written = .ok n →
      outcome.storage.content = contents (steadyPart met) ∧ n = outcome.storage.content.length) ∧
    ((∃ n, outcome.written = .ok n) ↔
      Quiet met ∧ ∀ k < outcome.storage.attempts, refusal k = none) ∧
    ((∀ k, refusal k = none) → outcome.storage.content = contents (steadyPart met) ∧
      outcome.written = match (haltedPart met).head? with
        | some (.failure cause) => .error (.io cause)
        | _ => .ok (contents (steadyPart met)).length) ∧
    ∀ n, Source.readBound events ≤ n →
      copy (some n) events (.onDisk refusal) = copy none events (.onDisk refusal) := by
  intro met outcome
  obtain ⟨reads, hlimit, hhandlings, hrecorded⟩ := copy_recorded stopAfter events refusal
  refine ⟨⟨reads, ?_, hhandlings, fun cause => hrecorded.of_failure,
    fun cause k => hrecorded.of_failsFirst⟩, fun n => hrecorded.content_of_ok, hrecorded.ok_iff,
    hrecorded.of_never, fun n hn => copy_late hn _⟩
  rintro n rfl
  exact hlimit

/-- A source that is interrupted between its bytes and goes on after copying was stopped. -/
def murmur : List ReadEvent :=
  [.chunk [1, 2], .failure (.ofKind .interrupted), .chunk [3], .chunk [4, 5], .failure (.system 5)]

/-- Stopped before the fourth read, copying tells the number of the bytes in front of it; not stopped, it
fails like the last read; and on a full disk it fails because of that. -/
theorem copying_law_murmur :
    (copy (some 3) murmur (.onDisk fun _ => none)).written = .ok 3 ∧
    (copy (some 3) murmur (.onDisk fun _ => none)).storage.content = [1, 2, 3] ∧
    (copy none murmur (.onDisk fun _ => none)).written = .error (.io (.system 5)) ∧
    (copy (some 3) murmur (.onDisk fun _ => some ⟨1, .system 28⟩)).written =
      .error (.io (.system 28)) := by
  have hmet : seen none murmur = murmur := by
    refine pieces_of_short fun bytes hbytes => ?_
    simp only [murmur, List.mem_cons, ReadEvent.chunk.injEq] at hbytes
    rcases hbytes with rfl | hbytes | rfl | rfl | hbytes | hbytes <;> first | decide | cases hbytes
  have hstopped : seen (some 3) murmur = murmur.take 3 := congrArg (List.take 3) hmet
  obtain ⟨-, hok, -, hnever, -⟩ := copying_law (some 3) murmur fun _ => none
  obtain ⟨⟨reads, -, hhandlings, hfailed, -⟩, -⟩ := copying_law none murmur fun _ => none
  obtain ⟨⟨_, -, -, -, hrefused⟩, -⟩ := copying_law (some 3) murmur fun _ => some ⟨1, .system 28⟩
  have hwritten : (copy (some 3) murmur (.onDisk fun _ => none)).written = .ok 3 := by
    rw [(hnever fun _ => rfl).2, hstopped]
    decide
  refine ⟨hwritten, ?_, ?_, ?_⟩
  · rw [(hok 3 hwritten).1, hstopped]
    decide
  · have hlength : (copy none murmur (.onDisk fun _ => none)).source.handlings.length = 6 := by decide
    obtain rfl : reads = 5 := by simpa [hhandlings] using hlength
    exact hfailed _ (by rw [hmet]; decide) (by rw [hmet]; decide)
  · refine hrefused _ 0 (by decide) ⟨rfl, fun _ h => absurd h (Nat.not_lt_zero _)⟩ (.inr ?_)
    have hquiet : haltedPart (murmur.take 3) = [] := by decide
    simp [Quiet, hstopped, hquiet]

/-- What is copied to the end: the bytes that come before the first event that ends a read, however they
are cut. -/
theorem copy_unstopped (events : List ReadEvent) :
    let outcome := copy none events (.empty none)
    outcome.storage.content = Wire.brought events ∧
      outcome.written = match (haltedPart events).head? with
        | some (.failure cause) => .error (.io cause)
        | _ => .ok (Wire.brought events).length := by
  obtain ⟨hbrought, hhead⟩ := brought_pieces events
  obtain ⟨reads, -, -, hrecorded⟩ := copy_recorded none events fun _ => none
  rw [← hbrought, ← hhead]
  exact hrecorded.of_never fun _ => rfl

end EarthStation.Capture
