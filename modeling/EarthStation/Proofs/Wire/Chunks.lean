import EarthStation.Proofs.Wire.Steady
import Mathlib.Data.List.TakeWhile

/-!
# Chunks — what a read takes of the events on a line

* `Wire.steadyPart`, `Wire.haltedPart`, `Wire.brought`: the events in front of the first that ends a
  read, the others, and the bytes that come first.
* `Wire.Cut`: events cut in two, between two of them or inside a chunk.
* `Wire.readAvailable_filled`, `Wire.readAvailable_halted`: what a read takes and what it leaves.
* `Wire.readAvailable_steady`: both, where nothing ends a read.
* `Wire.signals`, `Wire.readAvailable_alike`: events that bring the same bytes between the same halts
  are read alike, however the bytes are cut and however often reads are interrupted.
-/

namespace EarthStation.Wire

variable {events events' taken rest : List ReadEvent}

/-! ## Up to the first halt -/

instance : DecidablePred ReadEvent.Steady
  | .chunk bytes => inferInstanceAs (Decidable (bytes ≠ []))
  | .eof => .isFalse id
  | .failure cause => inferInstanceAs (Decidable (cause.isInterrupted = true))

/-- The events in front of the first that ends a read. -/
def steadyPart (events : List ReadEvent) : List ReadEvent := events.takeWhile (·.Steady)

/-- The first event that ends a read, and those behind it. -/
def haltedPart (events : List ReadEvent) : List ReadEvent := events.dropWhile (·.Steady)

/-- The bytes that come before a read is ended. -/
def brought (events : List ReadEvent) : Bytes := contents (steadyPart events)

/-- The failure of a read that an event ends; silence is none, nor is a read that brings nothing. -/
def ReadEvent.failure? : ReadEvent → Option IoError
  | failure cause => if cause.isTimeout then none else some cause
  | _ => none

theorem steadyPart_steady : ∀ e ∈ steadyPart events, e.Steady := by
  intro e he
  unfold steadyPart at he
  have hsteady := List.mem_takeWhile_imp he
  simpa using hsteady

theorem steadyPart_append_haltedPart (events : List ReadEvent) :
    steadyPart events ++ haltedPart events = events :=
  List.takeWhile_append_dropWhile

/-- What ends a read comes first, if there is anything. -/
theorem haltedPart_cases (events : List ReadEvent) :
    haltedPart events = [] ∨ ∃ e later, haltedPart events = e :: later ∧ ¬ e.Steady := by
  cases h : haltedPart events with
  | nil => exact .inl rfl
  | cons e later =>
    have hnonempty : events.dropWhile (·.Steady) ≠ [] := ne_of_eq_of_ne h (List.cons_ne_nil e later)
    have hhalt := List.head_dropWhile_not (fun e : ReadEvent => decide e.Steady) hnonempty
    refine .inr ⟨e, later, rfl, ?_⟩
    simpa [show events.dropWhile (·.Steady) = e :: later from h] using hhalt

theorem haltedPart_eq_nil_iff : haltedPart events = [] ↔ ∀ e ∈ events, e.Steady := by
  simp only [haltedPart, List.dropWhile_eq_nil_iff, decide_eq_true_eq]

theorem brought_of_all (h : ∀ e ∈ events, e.Steady) : brought events = contents events := by
  have hsplit := steadyPart_append_haltedPart events
  rw [haltedPart_eq_nil_iff.mpr h, List.append_nil] at hsplit
  rw [brought, hsplit]

theorem halt_of_isTimeout {cause : IoError} (h : cause.isTimeout = true) :
    ¬ (ReadEvent.failure cause).Steady := by
  intro hsteady
  rw [isTimeout_of_isInterrupted hsteady] at h
  exact absurd h Bool.false_ne_true

section Steps

variable {e : ReadEvent}

theorem steadyPart_of_steady (h : e.Steady) : steadyPart (e :: events) = e :: steadyPart events := by
  simp [steadyPart, h]

theorem brought_of_steady (h : e.Steady) : brought (e :: events) = e.bytes ++ brought events := by
  rw [brought, steadyPart_of_steady h, contents_cons, ← brought]

theorem haltedPart_of_steady (h : e.Steady) : haltedPart (e :: events) = haltedPart events := by
  simp [haltedPart, h]

theorem steadyPart_of_halt (h : ¬ e.Steady) : steadyPart (e :: events) = [] := by
  simp [steadyPart, h]

theorem brought_of_halt (h : ¬ e.Steady) : brought (e :: events) = [] := by
  rw [brought, steadyPart_of_halt h, contents_nil]

theorem haltedPart_of_halt (h : ¬ e.Steady) : haltedPart (e :: events) = e :: events := by
  simp [haltedPart, h]

end Steps

theorem brought_append (h : ∀ e ∈ taken, e.Steady) :
    brought (taken ++ rest) = contents taken ++ brought rest := by
  unfold brought steadyPart
  rw [List.takeWhile_append_of_pos fun e he => decide_eq_true (h e he), contents_append]

theorem haltedPart_append (h : ∀ e ∈ taken, e.Steady) :
    haltedPart (taken ++ rest) = haltedPart rest :=
  List.dropWhile_append_of_pos fun e he => decide_eq_true (h e he)

/-! ## Cuts -/

/-- Events cut in two: between two of them, or between two bytes of a chunk. -/
inductive Cut : (events front behind : List ReadEvent) → Prop
  | between (front behind : List ReadEvent) : Cut (front ++ behind) front behind
  | inside (front : List ReadEvent) {a b : Bytes} (behind : List ReadEvent) (ha : a ≠ []) (hb : b ≠ []) :
    Cut (front ++ .chunk (a ++ b) :: behind) (front ++ [.chunk a]) (.chunk b :: behind)

namespace Cut

theorem cons (h : Cut events taken rest) (e : ReadEvent) : Cut (e :: events) (e :: taken) rest := by
  cases h with
  | between => exact between (e :: taken) rest
  | inside front behind ha hb => exact inside (e :: front) behind ha hb

/-- What is behind a cut in front of the first halt. -/
theorem behind (h : Cut events taken rest) (hsteady : ∀ e ∈ taken, e.Steady) :
    brought events = contents taken ++ brought rest ∧ haltedPart rest = haltedPart events := by
  cases h with
  | between => exact ⟨brought_append hsteady, (haltedPart_append hsteady).symm⟩
  | inside front behind ha hb =>
    rename_i a b
    have hfront : ∀ e ∈ front, e.Steady := fun e he => hsteady e (List.mem_append_left _ he)
    have hwhole : (ReadEvent.chunk (a ++ b)).Steady := List.append_ne_nil_of_left_ne_nil ha b
    have hb' : (ReadEvent.chunk b).Steady := hb
    rw [brought_append hfront, haltedPart_append hfront, brought_of_steady hwhole, brought_of_steady hb',
      haltedPart_of_steady hwhole, haltedPart_of_steady hb', contents_append]
    simp [ReadEvent.bytes]

end Cut

/-! ## What a read takes -/

/-- **A read that can be filled** takes the events up to a cut, and leaves all that is behind it. -/
theorem readAvailable_filled {size : Nat} (h : size ≤ (brought events).length) :
    ∃ taken rest, Cut events taken rest ∧ (∀ e ∈ taken, e.Steady) ∧
      contents taken = (brought events).take size ∧
      readAvailable size events = ⟨contents taken, none, rest⟩ := by
  fun_induction readAvailable size events with
  | case1 events => exact ⟨[], events, .between [] events, by simp, rfl, rfl⟩
  | case2 size => simp [brought, steadyPart] at h
  | case3 size bytes events hempty =>
    have hhalt : ¬ (ReadEvent.chunk bytes).Steady := by simpa [ReadEvent.Steady] using hempty
    simp [brought_of_halt hhalt] at h
  | case4 size bytes events hempty hlong r ih =>
    have hchunk : (ReadEvent.chunk bytes).Steady := by simpa [ReadEvent.Steady] using hempty
    rw [brought_of_steady hchunk] at h ⊢
    obtain ⟨taken, rest, hcut, hsteady, htaken, hread⟩ :=
      ih (by simp only [ReadEvent.bytes, List.length_append] at h; omega)
    refine ⟨.chunk bytes :: taken, rest, hcut.cons _,
      List.forall_mem_cons.mpr ⟨hchunk, hsteady⟩, ?_, ?_⟩
    · rw [contents_cons, htaken, List.take_append, ReadEvent.bytes, List.take_of_length_le hlong]
    · rw [show r = _ from hread]
      rfl
  | case5 size bytes events hempty hlong =>
    have hchunk : (ReadEvent.chunk bytes).Steady := by simpa [ReadEvent.Steady] using hempty
    have hfront : bytes.take (size + 1) ≠ [] := by simpa using hempty
    have hbehind : bytes.drop (size + 1) ≠ [] := by simpa using hlong
    have hcut := Cut.inside [] events hfront hbehind
    rw [List.take_append_drop] at hcut
    refine ⟨_, _, hcut, List.forall_mem_singleton.mpr hfront, ?_, ?_⟩
    · rw [brought_of_steady hchunk, ReadEvent.bytes,
        List.take_append_of_le_length (Nat.le_of_not_ge hlong)]
      simp [ReadEvent.bytes]
    · simp [ReadEvent.bytes]
  | case6 size events =>
    have hhalt : ¬ ReadEvent.eof.Steady := id
    simp [brought_of_halt hhalt] at h
  | case7 size cause events htimeout =>
    have hhalt : ¬ (ReadEvent.failure cause).Steady := halt_of_isTimeout htimeout
    simp [brought_of_halt hhalt] at h
  | case8 size cause events htimeout hinterrupted ih =>
    have hsteady : (ReadEvent.failure cause).Steady := hinterrupted
    rw [brought_of_steady hsteady] at h ⊢
    obtain ⟨taken, rest, hcut, htaken, hcontents, hread⟩ := ih h
    exact ⟨.failure cause :: taken, rest, hcut.cons _,
      List.forall_mem_cons.mpr ⟨hsteady, htaken⟩, hcontents, hread⟩
  | case9 size cause events htimeout hinterrupted =>
    have hhalt : ¬ (ReadEvent.failure cause).Steady := hinterrupted
    simp [brought_of_halt hhalt] at h

/-- **A read that cannot be filled** takes all the bytes that come before it is ended, and fails if what
ends it is a failure. -/
theorem readAvailable_halted {size : Nat} (h : (brought events).length < size) :
    readAvailable size events =
      ⟨brought events, (haltedPart events).head?.bind ReadEvent.failure?, (haltedPart events).tail⟩ := by
  fun_induction readAvailable size events with
  | case1 events => simp at h
  | case2 size => rfl
  | case3 size bytes events hempty =>
    have hhalt : ¬ (ReadEvent.chunk bytes).Steady := by simpa [ReadEvent.Steady] using hempty
    rw [brought_of_halt hhalt, haltedPart_of_halt hhalt]
    rfl
  | case4 size bytes events hempty hlong r ih =>
    have hchunk : (ReadEvent.chunk bytes).Steady := by simpa [ReadEvent.Steady] using hempty
    rw [brought_of_steady hchunk] at h ⊢
    rw [haltedPart_of_steady hchunk,
      show r = _ from ih (by simp only [ReadEvent.bytes, List.length_append] at h; omega)]
    rfl
  | case5 size bytes events hempty hlong =>
    have hchunk : (ReadEvent.chunk bytes).Steady := by simpa [ReadEvent.Steady] using hempty
    rw [brought_of_steady hchunk, List.length_append, ReadEvent.bytes] at h
    omega
  | case6 size events =>
    have hhalt : ¬ ReadEvent.eof.Steady := id
    rw [brought_of_halt hhalt, haltedPart_of_halt hhalt]
    rfl
  | case7 size cause events htimeout =>
    have hhalt : ¬ (ReadEvent.failure cause).Steady := halt_of_isTimeout htimeout
    rw [brought_of_halt hhalt, haltedPart_of_halt hhalt]
    simp [ReadEvent.failure?, htimeout]
  | case8 size cause events htimeout hinterrupted ih =>
    have hsteady : (ReadEvent.failure cause).Steady := hinterrupted
    rw [brought_of_steady hsteady] at h ⊢
    rw [haltedPart_of_steady hsteady, ih h]
    rfl
  | case9 size cause events htimeout hinterrupted =>
    have hhalt : ¬ (ReadEvent.failure cause).Steady := hinterrupted
    rw [brought_of_halt hhalt, haltedPart_of_halt hhalt]
    simp [ReadEvent.failure?, htimeout]

/-- **A steady read** takes as many bytes as it may, and leaves the others where they are. -/
theorem readAvailable_steady (size : Nat) (h : ∀ e ∈ events, e.Steady) :
    ∃ rest, readAvailable size events = ⟨(contents events).take size, none, rest⟩ ∧
      (∀ e ∈ rest, e.Steady) ∧ contents rest = (contents events).drop size := by
  have hbrought := brought_of_all h
  have hhalted : haltedPart events = [] := haltedPart_eq_nil_iff.mpr h
  by_cases hsize : size ≤ (brought events).length
  · obtain ⟨taken, rest, hcut, hsteady, htaken, hread⟩ := readAvailable_filled hsize
    obtain ⟨hparts, hbehind⟩ := hcut.behind hsteady
    have hrest : ∀ e ∈ rest, e.Steady := haltedPart_eq_nil_iff.mp (hbehind.trans hhalted)
    refine ⟨rest, by rw [hread, htaken, hbrought], hrest, ?_⟩
    rw [brought_of_all hrest, htaken, hbrought] at hparts
    exact List.append_cancel_left (hparts.symm.trans (List.take_append_drop size _).symm)
  · have hshort := Nat.lt_of_not_ge hsize
    refine ⟨[], ?_, by simp, ?_⟩
    · rw [readAvailable_halted hshort, hhalted, hbrought, List.take_of_length_le (by rw [← hbrought]; omega)]
      rfl
    · rw [List.drop_of_length_le (by rw [← hbrought]; omega)]
      rfl

/-! ## Events that are read alike -/

/-- What a read can tell of an event: each of its bytes, or that it ends the read. -/
def ReadEvent.signals (e : ReadEvent) : List (UInt8 ⊕ ReadEvent) :=
  if e.Steady then e.bytes.map .inl else [.inr e]

/-- What reads can tell of events: the bytes one by one, and the events that end reads. -/
def signals (events : List ReadEvent) : List (UInt8 ⊕ ReadEvent) := events.flatMap ReadEvent.signals

theorem signals_append (events events' : List ReadEvent) :
    signals (events ++ events') = signals events ++ signals events' :=
  List.flatMap_append

theorem signals_cons (e : ReadEvent) (events : List ReadEvent) :
    signals (e :: events) = e.signals ++ signals events :=
  List.flatMap_cons

/-- It cannot be told where bytes are cut. -/
theorem signals_cut (front behind : List ReadEvent) {a b : Bytes} (ha : a ≠ []) (hb : b ≠ []) :
    signals (front ++ .chunk (a ++ b) :: behind) =
      signals (front ++ .chunk a :: .chunk b :: behind) := by
  simp [signals_append, signals_cons, ReadEvent.signals, ReadEvent.Steady, ReadEvent.bytes, ha, hb]

/-- It cannot be told that a read was interrupted. -/
theorem signals_interrupted (front behind : List ReadEvent) {cause : IoError}
    (h : cause.isInterrupted = true) :
    signals (front ++ .failure cause :: behind) = signals (front ++ behind) := by
  simp [signals_append, signals_cons, ReadEvent.signals, ReadEvent.Steady, ReadEvent.bytes, h]

theorem signals_of_steady (h : ∀ e ∈ events, e.Steady) : signals events = (contents events).map .inl := by
  induction events with
  | nil => rfl
  | cons e events ih =>
    obtain ⟨he, hevents⟩ := List.forall_mem_cons.mp h
    rw [contents_cons, List.map_append, ← ih hevents]
    simp [signals, ReadEvent.signals, he]

theorem signals_eq (events : List ReadEvent) :
    signals events = (brought events).map .inl ++ signals (haltedPart events) := by
  rw [brought, ← signals_of_steady steadyPart_steady, ← signals_append, steadyPart_append_haltedPart]

/-- The bytes that come first can be told. -/
theorem brought_eq (events : List ReadEvent) :
    (brought events).map .inl = (signals events).takeWhile Sum.isLeft := by
  rw [signals_eq, List.takeWhile_append_of_pos (by simp)]
  rcases haltedPart_cases events with h | ⟨e, later, h, he⟩
  · simp [h, signals]
  · simp [h, signals, ReadEvent.signals, he]

/-- What comes from the first halt on can be told. -/
theorem signals_haltedPart (events : List ReadEvent) :
    signals (haltedPart events) = (signals events).dropWhile Sum.isLeft := by
  rw [signals_eq events, List.dropWhile_append_of_pos (by simp)]
  rcases haltedPart_cases events with h | ⟨e, later, h, he⟩
  · simp [h, signals]
  · simp [h, signals, ReadEvent.signals, he]

theorem haltedPart_alike (h : signals (haltedPart events) = signals (haltedPart events')) :
    (haltedPart events).head? = (haltedPart events').head? ∧
      signals (haltedPart events).tail = signals (haltedPart events').tail := by
  rcases haltedPart_cases events with hend | ⟨e, later, hend, he⟩ <;>
    rcases haltedPart_cases events' with hend' | ⟨e', later', hend', he'⟩ <;>
    rw [hend, hend'] at h ⊢
  · exact ⟨rfl, rfl⟩
  · simp [signals, ReadEvent.signals, he'] at h
  · simp [signals, ReadEvent.signals, he] at h
  · simpa [signals, ReadEvent.signals, he, he'] using h

/-- **Reads cannot tell more than signals**: of events with the same ones they take the same bytes, end
in the same way, and leave events with the same signals. -/
theorem readAvailable_alike (size : Nat) (h : signals events = signals events') :
    (readAvailable size events).bytes = (readAvailable size events').bytes ∧
      (readAvailable size events).failure = (readAvailable size events').failure ∧
      signals (readAvailable size events).rest = signals (readAvailable size events').rest := by
  have hbrought : brought events = brought events' :=
    (List.map_inj_right fun _ _ => Sum.inl.inj).mp (by rw [brought_eq, h, ← brought_eq])
  have hhalted : signals (haltedPart events) = signals (haltedPart events') := by
    rw [signals_haltedPart, h, ← signals_haltedPart]
  by_cases hsize : size ≤ (brought events).length
  · obtain ⟨taken, rest, hcut, hsteady, htaken, hread⟩ := readAvailable_filled hsize
    obtain ⟨taken', rest', hcut', hsteady', htaken', hread'⟩ :=
      readAvailable_filled (hbrought ▸ hsize)
    have hcontents : contents taken = contents taken' := by rw [htaken, htaken', hbrought]
    obtain ⟨hrest, hbehind⟩ := hcut.behind hsteady
    obtain ⟨hrest', hbehind'⟩ := hcut'.behind hsteady'
    rw [hread, hread']
    refine ⟨hcontents, rfl, ?_⟩
    have hleft : brought rest = brought rest' := by
      rw [← hbrought, hrest, hcontents] at hrest'
      exact List.append_cancel_left hrest'
    rw [signals_eq rest, signals_eq rest', hleft, hbehind, hbehind', hhalted]
  · have hshort := Nat.lt_of_not_ge hsize
    obtain ⟨hhead, htail⟩ := haltedPart_alike hhalted
    rw [readAvailable_halted hshort, readAvailable_halted (hbrought ▸ hshort), hbrought, hhead]
    exact ⟨rfl, rfl, htail⟩

end EarthStation.Wire
