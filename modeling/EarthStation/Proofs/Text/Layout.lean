import EarthStation.Catalog
import Mathlib.Data.List.DropRight

/-!
# Layout — texts as lines with white space after them

* `Text.IsLine`: a line that is not blank and has no trailing white space.
* `Text.LaidOut`: a text of given lines, with blank lines and trailing white space put in.
* `Catalog.significantLines_eq_iff`: the lines of a text that count are those that it is laid out of.
-/

namespace EarthStation.Text

/-! ## White space at the end -/

/-- Holds of white space. -/
def Blank (w : List Char) : Prop := ∀ c ∈ w, isBlank c = true

theorem trimEnd_append {l w : List Char} (hw : Blank w) : trimEnd (l ++ w) = trimEnd l := by
  unfold trimEnd
  rw [List.reverse_append, List.dropWhile_append_of_pos fun c hc => hw c (List.mem_reverse.mp hc)]

theorem trimEnd_eq_nil_iff {l : List Char} : trimEnd l = [] ↔ Blank l :=
  List.rdropWhile_eq_nil_iff

theorem trimEnd_trimEnd (l : List Char) : trimEnd (trimEnd l) = trimEnd l :=
  List.rdropWhile_idempotent _ _

/-- What is cut off at the end is white space. -/
theorem exists_trimEnd (l : List Char) : ∃ w, Blank w ∧ l = trimEnd l ++ w :=
  ⟨l.rtakeWhile isBlank, fun _ => List.mem_rtakeWhile_imp,
    List.rdropWhile_append_rtakeWhile.symm⟩

theorem mem_of_mem_trimEnd {l : List Char} {c : Char} (h : c ∈ trimEnd l) : c ∈ l :=
  (List.rdropWhile_prefix isBlank l).subset h

theorem trim_eq_nil_iff {l : List Char} : trim l = [] ↔ Blank l := by
  have hstart : trim l = [] ↔ Blank (trimStart l) := trimEnd_eq_nil_iff
  have hnil : trimStart l = [] ↔ Blank l := List.dropWhile_eq_nil_iff
  rw [hstart, ← hnil]
  constructor
  · intro h
    by_contra hne
    have hhead := List.head_dropWhile_not isBlank hne
    exact absurd (h _ (List.head_mem hne)) (by simp [trimStart, hhead])
  · intro h
    rw [h]
    exact fun c hc => absurd hc (by simp)

theorem trim_append {l w : List Char} (hw : Blank w) : trim (l ++ w) = trim l := by
  simp only [trim, trimStart, List.dropWhile_append]
  split
  · rename_i hblank
    rw [List.isEmpty_iff.mp hblank, List.dropWhile_eq_nil_iff.mpr hw]
  · exact trimEnd_append hw

theorem trim_trim (l : List Char) : trim (trim l) = trim l := by
  suffices hstart : trimStart (trim l) = trim l by
    rw [trim, hstart]
    exact trimEnd_trimEnd _
  have hprefix : trim l <+: trimStart l := List.rdropWhile_prefix isBlank _
  cases htrim : trim l with
  | nil => rfl
  | cons c cs =>
    obtain ⟨rest, hrest⟩ := hprefix
    have hhead : (trimStart l).head? = some c := by rw [← hrest, htrim]; rfl
    have hc : isBlank c = false := by
      have hnot := List.head?_dropWhile_not isBlank l
      rw [← trimStart, hhead] at hnot
      simpa using hnot
    exact List.dropWhile_cons_of_neg (by simp [hc])

/-- A carriage return at the end of a line is white space. -/
theorem dropReturn_append (l : List Char) : ∃ w, Blank w ∧ l = dropReturn l ++ w := by
  unfold dropReturn
  split
  · rename_i hlast
    obtain ⟨first, rfl⟩ := List.getLast?_eq_some_iff.mp hlast
    exact ⟨['\r'], by simp [Blank, isBlank], by rw [List.dropLast_concat]⟩
  · exact ⟨[], by simp [Blank], (List.append_nil l).symm⟩

theorem trimEnd_dropReturn (l : List Char) : trimEnd (dropReturn l) = trimEnd l := by
  obtain ⟨w, hw, hl⟩ := dropReturn_append l
  rw [← trimEnd_append hw, ← hl]

/-! ## Cutting at line feeds -/

theorem split_ne_nil (sep : Char) (cs : List Char) : split sep cs ≠ [] := by
  cases cs with
  | nil => simp [split]
  | cons c cs =>
    unfold split
    split
    · simp
    · split <;> simp

theorem split_append (sep : Char) (a b : List Char) :
    split sep (a ++ sep :: b) = split sep a ++ split sep b := by
  induction a with
  | nil => simp [split]
  | cons c a ih =>
    rw [List.cons_append, split, split, ih]
    by_cases hc : c = sep
    · simp [hc]
    · cases h : split sep a with
      | nil => exact absurd h (split_ne_nil sep a)
      | cons piece pieces => simp [hc]

theorem split_of_not_mem {sep : Char} {a : List Char} (h : sep ∉ a) : split sep a = [a] := by
  induction a with
  | nil => rfl
  | cons c a ih =>
    obtain ⟨hc, ha⟩ := List.ne_and_not_mem_of_not_mem_cons h
    rw [split, if_neg (Ne.symm hc), ih ha]

theorem lines_of_not_mem {a : List Char} (h : '\n' ∉ a) : lines a = if a = [] then [] else [a] := by
  simp [lines, split_of_not_mem h]

theorem lines_append {a : List Char} (h : '\n' ∉ a) (b : List Char) :
    lines (a ++ '\n' :: b) = dropReturn a :: lines b := by
  obtain ⟨ended, final, hpieces⟩ : ∃ ended final, split '\n' b = ended ++ [final] :=
    (List.eq_nil_or_concat' _).resolve_left (split_ne_nil _ _)
  simp only [lines, split_append, split_of_not_mem h, hpieces, ← List.append_assoc,
    List.getLast?_concat, Option.getD_some, List.dropLast_concat, List.map_cons,
    List.singleton_append]
  split <;> rfl

/-- Every text is a piece without line feeds, or has a line feed after its first such piece. -/
theorem pieces_induction {P : List Char → Prop} (piece : ∀ a, '\n' ∉ a → P a)
    (cut : ∀ a b, '\n' ∉ a → P b → P (a ++ '\n' :: b)) (text : List Char) : P text := by
  induction hn : text.length using Nat.strong_induction_on generalizing text with
  | _ n ih =>
    by_cases hfeed : '\n' ∈ text
    · obtain ⟨a, b, rfl, ha⟩ := List.eq_append_cons_of_mem hfeed
      exact cut a b ha (ih b.length (by simp [← hn]; omega) b rfl)
    · exact piece text hfeed

/-! ## Texts of lines -/

/-- Holds of lines that are not blank and have no white space at the end. -/
structure IsLine (l : List Char) : Prop where
  whole : '\n' ∉ l
  trimmed : trimEnd l = l
  written : l ≠ []

/-- The texts of lines, with blank lines and with white space at the ends of lines put in. -/
inductive LaidOut : List (List Char) → List Char → Prop where
  | blank {w : List Char} (hw : Blank w) : LaidOut [] w
  | skip {lines : List (List Char)} {w text : List Char} (hw : Blank w) (h : LaidOut lines text) :
    LaidOut lines (w ++ '\n' :: text)
  | line {l : List Char} {lines : List (List Char)} {w text : List Char} (hw : Blank w)
    (h : LaidOut lines text) : LaidOut (l :: lines) (l ++ w ++ '\n' :: text)
  | last {l w : List Char} (hw : Blank w) : LaidOut [l] (l ++ w)

end EarthStation.Text

namespace EarthStation.Catalog

open Text

/-! ## The lines that count -/

theorem significantLines_eq (text : List Char) :
    significantLines text = ((split '\n' text).map trimEnd).filter fun l => !l.isEmpty := by
  obtain ⟨ended, final, hpieces⟩ : ∃ ended final, split '\n' text = ended ++ [final] :=
    (List.eq_nil_or_concat' _).resolve_left (split_ne_nil _ _)
  have hkept (l : List Char) (hl : trimEnd l = l) : (trim l).isEmpty = l.isEmpty := by
    rw [Bool.eq_iff_iff, List.isEmpty_iff, List.isEmpty_iff, trim_eq_nil_iff,
      ← trimEnd_eq_nil_iff, hl]
  have hfilter (pieces : List (List Char)) :
      (pieces.map trimEnd).filter (fun l => !(trim l).isEmpty) =
        (pieces.map trimEnd).filter fun l => !l.isEmpty := by
    refine List.filter_congr fun l hl => ?_
    obtain ⟨piece, -, rfl⟩ := List.mem_map.mp hl
    rw [hkept _ (trimEnd_trimEnd piece)]
  have hended : (ended.map dropReturn).map trimEnd = ended.map trimEnd := by
    simp only [List.map_map, Function.comp_def, trimEnd_dropReturn]
  unfold significantLines Text.lines
  rw [hfilter, hpieces]
  simp only [List.getLast?_concat, Option.getD_some, List.dropLast_concat]
  split
  · rename_i hempty
    rw [List.isEmpty_iff.mp hempty, hended, List.map_append, List.filter_append]
    simp [trimEnd]
  · rw [List.map_append, List.map_append, hended]

theorem significantLines_append (a b : List Char) :
    significantLines (a ++ '\n' :: b) = significantLines a ++ significantLines b := by
  simp only [significantLines_eq, split_append, List.map_append, List.filter_append]

theorem significantLines_piece {a : List Char} (h : '\n' ∉ a) :
    significantLines a = if trimEnd a = [] then [] else [trimEnd a] := by
  rw [significantLines_eq, split_of_not_mem h]
  by_cases hblank : trimEnd a = [] <;> simp [hblank]

theorem significantLines_blank {w : List Char} (hw : Blank w) : significantLines w = [] := by
  induction w using pieces_induction with
  | piece w hwhole => rw [significantLines_piece hwhole, if_pos (trimEnd_eq_nil_iff.mpr hw)]
  | cut w rest hwhole ih =>
    obtain ⟨hw, hrest⟩ := List.forall_mem_append.mp hw
    rw [significantLines_append, significantLines_piece hwhole,
      if_pos (trimEnd_eq_nil_iff.mpr hw), ih fun c hc => hrest c (List.mem_cons_of_mem _ hc)]
    rfl

theorem significantLines_line {l w : List Char} (hl : IsLine l) (hw : Blank w) :
    significantLines (l ++ w) = [l] := by
  have hpiece {v : List Char} (hv : Blank v) (hwhole : '\n' ∉ v) :
      significantLines (l ++ v) = [l] := by
    rw [significantLines_piece (by simp [hl.whole, hwhole]), trimEnd_append hv, hl.trimmed,
      if_neg hl.written]
  by_cases hfeed : '\n' ∈ w
  · obtain ⟨v, rest, rfl, hwhole⟩ := List.eq_append_cons_of_mem hfeed
    obtain ⟨hv, hrest⟩ := List.forall_mem_append.mp hw
    rw [← List.append_assoc, significantLines_append, hpiece hv hwhole,
      significantLines_blank fun c hc => hrest c (List.mem_cons_of_mem _ hc)]
    rfl
  · exact hpiece hw hfeed

theorem significantLines_of_laidOut {lines : List (List Char)} {text : List Char}
    (h : LaidOut lines text) (hlines : ∀ l ∈ lines, IsLine l) : significantLines text = lines := by
  induction h with
  | blank hw => exact significantLines_blank hw
  | skip hw _ ih => rw [significantLines_append, significantLines_blank hw, ih hlines]; rfl
  | line hw _ ih =>
    obtain ⟨hl, hlines⟩ := List.forall_mem_cons.mp hlines
    rw [significantLines_append, significantLines_line hl hw, ih hlines]
    rfl
  | last hw => exact significantLines_line (hlines _ List.mem_cons_self) hw

/-- A piece is blank, or a line with white space after it. -/
theorem blank_or_line {a : List Char} (hwhole : '\n' ∉ a) :
    Blank a ∨ ∃ l w, IsLine l ∧ Blank w ∧ a = l ++ w := by
  by_cases hblank : trimEnd a = []
  · exact .inl (trimEnd_eq_nil_iff.mp hblank)
  · obtain ⟨w, hw, ha⟩ := exists_trimEnd a
    exact .inr ⟨trimEnd a, w, ⟨mt mem_of_mem_trimEnd hwhole, trimEnd_trimEnd a, hblank⟩, hw, ha⟩

theorem laidOut_significantLines (text : List Char) :
    LaidOut (significantLines text) text ∧ ∀ l ∈ significantLines text, IsLine l := by
  induction text using pieces_induction with
  | piece a hwhole =>
    rcases blank_or_line hwhole with hblank | ⟨l, w, hl, hw, rfl⟩
    · rw [significantLines_blank hblank]
      exact ⟨.blank hblank, by simp⟩
    · rw [significantLines_line hl hw]
      exact ⟨.last hw, by simpa using hl⟩
  | cut a b hwhole ih =>
    obtain ⟨hrest, hlines⟩ := ih
    rw [significantLines_append]
    rcases blank_or_line hwhole with hblank | ⟨l, w, hl, hw, rfl⟩
    · rw [significantLines_blank hblank]
      exact ⟨.skip hblank hrest, hlines⟩
    · rw [significantLines_line hl hw]
      exact ⟨.line hw hrest, List.forall_mem_cons.mpr ⟨hl, hlines⟩⟩

/-- **The lines that count are the lines that the text is laid out of.** -/
theorem significantLines_eq_iff {text : List Char} {lines : List (List Char)} :
    significantLines text = lines ↔ LaidOut lines text ∧ ∀ l ∈ lines, IsLine l := by
  constructor
  · rintro rfl
    exact laidOut_significantLines text
  · exact fun ⟨h, hlines⟩ => significantLines_of_laidOut h hlines

end EarthStation.Catalog
