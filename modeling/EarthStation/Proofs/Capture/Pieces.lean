import EarthStation.Capture
import EarthStation.Proofs.Wire.Chunks

/-!
# Pieces — what the reads from a source meet

* `Capture.cuts`, `Capture.pieces`: chunks cut into what single reads take.
* `Capture.read_spec`: a read meets the first piece and leaves the others.
* `Capture.brought_pieces`: pieces bring the same bytes as what they are made of.
-/

namespace EarthStation.Capture

open Wire (Bytes ReadEvent contents haltedPart)

/-- The parts of bytes that reads bring one after another. -/
def cuts (bytes : Bytes) : List Bytes :=
  if bytes.length ≤ readSize then [bytes] else bytes.take readSize :: cuts (bytes.drop readSize)
termination_by bytes.length
decreasing_by simp only [List.length_drop, readSize] at *; omega

/-- What reads meet of an event. -/
def piecesOf : ReadEvent → List ReadEvent
  | .chunk bytes => (cuts bytes).map .chunk
  | e => [e]

/-- What reads meet of events, one by one. -/
def pieces (events : List ReadEvent) : List ReadEvent := events.flatMap piecesOf

/-- What a read answers that meets an event. -/
def answer : ReadEvent → Except IoError Bytes
  | .chunk bytes => .ok bytes
  | .eof => .ok []
  | .failure cause => .error cause

theorem flatten_cuts (bytes : Bytes) : (cuts bytes).flatten = bytes := by
  fun_induction cuts bytes with
  | case1 bytes _ => simp
  | case2 bytes _ ih => rw [List.flatten_cons, ih, List.take_append_drop]

/-- A read meets the first piece, and leaves the others; where there is none the source has ended. -/
theorem read_spec (s : Source) :
    match pieces s.events with
    | [] => s.read = (.ok [], ⟨[], .read :: s.handlings⟩)
    | e :: later =>
      ∃ rest, s.read = (answer e, ⟨rest, .read :: s.handlings⟩) ∧ pieces rest = later := by
  obtain ⟨events, handlings⟩ := s
  cases events with
  | nil => rfl
  | cons e events =>
    cases e with
    | chunk bytes =>
      by_cases hlong : bytes.length ≤ readSize
      · simp [pieces, piecesOf, cuts, hlong, Source.read, Wire.readSome, answer]
      · rw [pieces, List.flatMap_cons, piecesOf, cuts, if_neg hlong]
        refine ⟨.chunk (bytes.drop readSize) :: events, ?_, rfl⟩
        simp [Source.read, Wire.readSome, hlong, answer]
    | eof => exact ⟨events, rfl, rfl⟩
    | failure cause => exact ⟨events, rfl, rfl⟩

theorem length_cuts (bytes : Bytes) : (cuts bytes).length ≤ bytes.length + 1 := by
  fun_induction cuts bytes with
  | case1 bytes _ => simp
  | case2 bytes hlong ih =>
    rw [List.length_drop] at ih
    rw [List.length_cons]
    simp only [readSize] at *
    omega

/-- So many reads find the end of a source. -/
theorem length_pieces (events : List ReadEvent) : (pieces events).length < Source.readBound events := by
  induction events with
  | nil => exact Nat.one_pos
  | cons e events ih =>
    rw [pieces, List.flatMap_cons, List.length_append, ← pieces]
    cases e with
    | chunk bytes =>
      have hcuts := length_cuts bytes
      simp only [piecesOf, Source.readBound, List.length_map]
      omega
    | eof => simp only [piecesOf, Source.readBound, List.length_singleton]; omega
    | failure cause => simp only [piecesOf, Source.readBound, List.length_singleton]; omega

theorem ne_nil_of_mem_cuts {bytes part : Bytes} (h : bytes ≠ []) (hpart : part ∈ cuts bytes) :
    part ≠ [] := by
  fun_induction cuts bytes with
  | case1 bytes _ => rwa [List.mem_singleton.mp hpart]
  | case2 bytes hlong ih =>
    rcases List.mem_cons.mp hpart with rfl | hpart
    · simp [h, readSize]
    · exact ih (by simpa using hlong) hpart

/-- The pieces of what does not end a read do not end it either, and bring the same. -/
theorem piecesOf_steady {e : ReadEvent} (he : e.Steady) :
    (∀ piece ∈ piecesOf e, piece.Steady) ∧ contents (piecesOf e) = e.bytes := by
  cases e with
  | chunk bytes =>
    refine ⟨List.forall_mem_map.mpr fun part => ne_nil_of_mem_cuts he, ?_⟩
    simp only [piecesOf, contents, List.flatMap_map, ReadEvent.bytes, List.flatMap_id', flatten_cuts]
  | eof => exact he.elim
  | failure cause => exact ⟨List.forall_mem_singleton.mpr he, rfl⟩

theorem piecesOf_halt {e : ReadEvent} (he : ¬ e.Steady) : piecesOf e = [e] := by
  cases e with
  | chunk bytes =>
    obtain rfl : bytes = [] := not_not.mp he
    simp [piecesOf, cuts]
  | eof => rfl
  | failure cause => rfl

/-- Pieces bring the same bytes as what they are made of before the same halt. -/
theorem brought_pieces (events : List ReadEvent) :
    Wire.brought (pieces events) = Wire.brought events ∧
      (haltedPart (pieces events)).head? = (haltedPart events).head? := by
  induction events with
  | nil => exact ⟨rfl, rfl⟩
  | cons e events ih =>
    rw [pieces, List.flatMap_cons, ← pieces]
    by_cases he : e.Steady
    · obtain ⟨hsteady, hcontents⟩ := piecesOf_steady he
      rw [Wire.brought_append hsteady, Wire.haltedPart_append hsteady, Wire.brought_of_steady he,
        Wire.haltedPart_of_steady he, hcontents, ih.1, ih.2]
      exact ⟨rfl, rfl⟩
    · rw [piecesOf_halt he, List.singleton_append, Wire.brought_of_halt he, Wire.brought_of_halt he,
        Wire.haltedPart_of_halt he, Wire.haltedPart_of_halt he]
      exact ⟨rfl, rfl⟩

/-- Bytes that one read takes are met as they are. -/
theorem pieces_of_short {events : List ReadEvent}
    (h : ∀ bytes, .chunk bytes ∈ events → bytes.length ≤ readSize) : pieces events = events := by
  induction events with
  | nil => rfl
  | cons e events ih =>
    have hrest := ih fun bytes hbytes => h bytes (List.mem_cons_of_mem e hbytes)
    rw [pieces, List.flatMap_cons, ← pieces, hrest]
    cases e with
    | chunk bytes => simp [piecesOf, cuts, h bytes List.mem_cons_self]
    | eof => rfl
    | failure cause => rfl

end EarthStation.Capture
