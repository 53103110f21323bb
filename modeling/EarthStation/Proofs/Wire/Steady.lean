import EarthStation.Wire.Line

/-!
# Steady — reads that nothing cuts short

* `Wire.ReadEvent.Steady`: events that bring bytes or are passed over.
* `Wire.contents`: the bytes that events bring.
* `Wire.readAvailable_append`: a read that is filled does not touch what comes behind.
-/

namespace EarthStation.Wire

/-- Holds of the events that do not end a read: chunks that are not empty, and interruptions. -/
def ReadEvent.Steady : ReadEvent → Prop
  | chunk bytes => bytes ≠ []
  | eof => False
  | failure cause => cause.isInterrupted = true

/-- The bytes that an event brings. -/
def ReadEvent.bytes : ReadEvent → Bytes
  | chunk bytes => bytes
  | eof => []
  | failure _ => []

/-- The bytes that events bring, in order. -/
def contents (events : List ReadEvent) : Bytes := events.flatMap ReadEvent.bytes

@[simp] theorem contents_nil : contents [] = [] := rfl

@[simp] theorem contents_cons (e : ReadEvent) (events : List ReadEvent) :
    contents (e :: events) = e.bytes ++ contents events := rfl

@[simp] theorem contents_append (events events' : List ReadEvent) :
    contents (events ++ events') = contents events ++ contents events' :=
  List.flatMap_append

theorem isTimeout_of_isInterrupted {cause : IoError} (h : cause.isInterrupted = true) :
    cause.isTimeout = false := by
  have hkind : cause.kind? = some .interrupted := by simpa [IoError.isInterrupted] using h
  simp [IoError.isTimeout, hkind]

/-- **A read that is filled** leaves alone whatever comes behind. -/
theorem readAvailable_append {size : Nat} {events : List ReadEvent}
    (h : (readAvailable size events).bytes.length = size) (later : List ReadEvent) :
    readAvailable size (events ++ later) =
      { readAvailable size events with rest := (readAvailable size events).rest ++ later } := by
  fun_induction readAvailable size events with
  | case1 events => simp [readAvailable]
  | case2 size => simp at h
  | case3 size bytes events hempty => simp at h
  | case4 size bytes events hempty hlong r ih =>
    have hfull : r.bytes.length = size + 1 - bytes.length := by
      have hlength : bytes.length + r.bytes.length = size + 1 := by simpa using h
      omega
    have hread := ih hfull
    simp only [Bool.not_eq_true] at hempty
    simp [readAvailable, hempty, hlong, hread, r]
  | case5 size bytes events hempty hlong => simp [readAvailable, hempty, hlong]
  | case6 size events => simp at h
  | case7 size events cause htimeout => simp at h
  | case8 size events cause htimeout hinterrupted ih =>
    have hread := ih h
    simp [readAvailable, htimeout, hinterrupted, hread]
  | case9 size events cause htimeout hinterrupted => simp at h

end EarthStation.Wire
