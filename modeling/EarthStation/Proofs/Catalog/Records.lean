import EarthStation.Proofs.Exchange
import EarthStation.Proofs.Text.Layout
import Mathlib.Data.List.Chain

/-!
# Records — which texts are catalogs

* `Catalog.Entry`: the two or three lines of a record.
* `Catalog.Splits`: lines that are those of entries, one after another.
* `Catalog.ofLines_eq_ok_iff`: what is read from lines, and from which.
* `Catalog.Fits`: what may stand after what; one line out of place and nothing is read.
* `Catalog.format_law`: what is read from texts, and from which.
-/

namespace EarthStation.Catalog

open Text

/-! ## Entries -/

/-- The lines of a record, with a name line or without one. -/
inductive Entry where
  | bare (first second : List Char)
  | named (name first second : List Char)

namespace Entry

def lines : Entry → List (List Char)
  | bare first second => [first, second]
  | named name first second => [name, first, second]

def record : Entry → Record
  | bare first second => ⟨numberName first, String.ofList first, String.ofList second⟩
  | named name first second =>
    ⟨String.ofList (trim name), String.ofList first, String.ofList second⟩

/-- Holds of entries whose element lines are marked as such, and whose name line is not. -/
def WellFormed : Entry → Prop
  | bare first second => isFirst first ∧ isSecond second
  | named name first second =>
    ¬ isFirst name ∧ ¬ isSecond name ∧ isFirst first ∧ isSecond second

end Entry

/-- Holds if the lines are those of the entries, one after another. -/
structure Splits (entries : List Entry) (lines : List (List Char)) : Prop where
  wellFormed : ∀ e ∈ entries, e.WellFormed
  flatMap_lines : entries.flatMap Entry.lines = lines

theorem Splits.nil : Splits [] [] := ⟨by simp, rfl⟩

theorem Splits.cons {e : Entry} {entries : List Entry} {lines : List (List Char)}
    (he : e.WellFormed) (h : Splits entries lines) : Splits (e :: entries) (e.lines ++ lines) :=
  ⟨List.forall_mem_cons.mpr ⟨he, h.wellFormed⟩, by rw [List.flatMap_cons, h.flatMap_lines]⟩

/-- An entry at the head of the lines is read first. -/
theorem ofLines_entry {e : Entry} (he : e.WellFormed) (number : ℕ) (rest : List (List Char)) :
    ofLines number (e.lines ++ rest) =
      (ofLines (number + e.lines.length) rest).map (e.record :: ·) := by
  cases e with
  | bare first second =>
    obtain ⟨hfirst, hsecond⟩ := he
    simp [Entry.lines, Entry.record, ofLines, hfirst, hsecond]
  | named name first second =>
    obtain ⟨hname, hname', hfirst, hsecond⟩ := he
    simp [Entry.lines, Entry.record, ofLines, hname, hname', hfirst, hsecond]

theorem Splits.ofLines_eq {entries : List Entry} {lines : List (List Char)}
    (h : Splits entries lines) (number : ℕ) :
    ofLines number lines = .ok (entries.map Entry.record) := by
  obtain ⟨hentries, rfl⟩ := h
  induction entries generalizing number with
  | nil => simp [ofLines]
  | cons e entries ih =>
    obtain ⟨he, hrest⟩ := List.forall_mem_cons.mp hentries
    rw [List.flatMap_cons, ofLines_entry he, ih _ hrest]
    rfl

theorem splits_of_ofLines {number : ℕ} {lines : List (List Char)} {records : List Record}
    (h : ofLines number lines = .ok records) :
    ∃ entries, Splits entries lines ∧ entries.map Entry.record = records := by
  fun_induction ofLines number lines generalizing records with
  | case1 => exact ⟨[], .nil, by simpa using h⟩
  | case3 number first hfirst name second rest hsecond =>
    rename_i ih
    obtain ⟨records, hrest, rfl⟩ := map_eq_ok_iff.mp h
    obtain ⟨entries, hsplits, rfl⟩ := ih hrest
    exact ⟨.bare first second :: entries, hsplits.cons ⟨hfirst, hsecond⟩, rfl⟩
  | case8 number line hline hline' name first hfirst second rest hsecond =>
    rename_i ih
    obtain ⟨records, hrest, rfl⟩ := map_eq_ok_iff.mp h
    obtain ⟨entries, hsplits, rfl⟩ := ih hrest
    exact ⟨.named line first second :: entries,
      hsplits.cons ⟨hline, hline', hfirst, hsecond⟩, rfl⟩
  | _ => cases h

/-- **The lines of entries are read, and no others.** -/
theorem ofLines_eq_ok_iff {number : ℕ} {lines : List (List Char)} {records : List Record} :
    ofLines number lines = .ok records ↔
      ∃ entries, Splits entries lines ∧ entries.map Entry.record = records := by
  constructor
  · exact splits_of_ofLines
  · rintro ⟨entries, hsplits, rfl⟩
    exact hsplits.ofLines_eq number

theorem Entry.lines_append_inj {e e' : Entry} (he : e.WellFormed) (he' : e'.WellFormed)
    {rest rest' : List (List Char)} (h : e.lines ++ rest = e'.lines ++ rest') :
    e = e' ∧ rest = rest' := by
  cases e with
  | bare first second =>
    cases e' with
    | bare first' second' => simpa [Entry.lines, and_assoc] using h
    | named name' first' second' =>
      obtain ⟨rfl, -⟩ := List.cons.inj h
      exact absurd he.1 he'.1
  | named name first second =>
    cases e' with
    | bare first' second' =>
      obtain ⟨rfl, -⟩ := List.cons.inj h
      exact absurd he'.1 he.1
    | named name' first' second' => simpa [Entry.lines, and_assoc] using h

/-- Lines are those of entries in one way only. -/
theorem Splits.unique {entries entries' : List Entry} {lines : List (List Char)}
    (h : Splits entries lines) (h' : Splits entries' lines) : entries = entries' := by
  induction entries generalizing entries' lines with
  | nil =>
    cases entries' with
    | nil => rfl
    | cons e' entries' =>
      have hlines := h'.flatMap_lines.trans h.flatMap_lines.symm
      cases e' <;> simp [Entry.lines] at hlines
  | cons e entries ih =>
    cases entries' with
    | nil =>
      have hlines := h.flatMap_lines.trans h'.flatMap_lines.symm
      cases e <;> simp [Entry.lines] at hlines
    | cons e' entries' =>
      obtain ⟨he, hrest⟩ := List.forall_mem_cons.mp h.wellFormed
      obtain ⟨he', hrest'⟩ := List.forall_mem_cons.mp h'.wellFormed
      have hlines := h.flatMap_lines.trans h'.flatMap_lines.symm
      rw [List.flatMap_cons, List.flatMap_cons] at hlines
      obtain ⟨rfl, hfollowing⟩ := Entry.lines_append_inj he he' hlines
      rw [ih ⟨hrest, hfollowing⟩ ⟨hrest', rfl⟩]

/-! ## One line after another -/

/-- What a line can be. -/
inductive Kind where
  | first | second | other
deriving DecidableEq

def kind (line : List Char) : Kind :=
  if isFirst line then .first else if isSecond line then .second else .other

@[simp] theorem kind_eq_first_iff {line : List Char} : kind line = .first ↔ isFirst line := by
  unfold kind
  split
  · simp [*]
  · split <;> simp [*]

@[simp] theorem kind_eq_second_iff {line : List Char} : kind line = .second ↔ isSecond line := by
  unfold kind
  split
  · rename_i hfirst
    obtain ⟨rest, rfl⟩ := List.isPrefixOf_iff_prefix.mp hfirst
    simp [isSecond]
  · split <;> simp [*]

@[simp] theorem kind_eq_other_iff {line : List Char} :
    kind line = .other ↔ ¬ isFirst line ∧ ¬ isSecond line := by
  rw [← kind_eq_first_iff, ← kind_eq_second_iff]
  cases kind line <;> decide

/-- What may stand after what: a second line after a first one and nowhere else, and after any other
line a first one. -/
def Fits (before after : Kind) : Prop :=
  (before = .first ↔ after = .second) ∧ (before = .other → after = .first)

instance (before after : Kind) : Decidable (Fits before after) :=
  inferInstanceAs (Decidable (_ ∧ _))

/-- Holds of lines each of which may stand where it stands.  Before them all is the end of a record,
and after them may come a name. -/
def InOrder (lines : List (List Char)) : Prop :=
  List.IsChain Fits (.second :: (lines.map kind ++ [.other]))

theorem ofLines_isOk_iff {number : ℕ} {lines : List (List Char)} :
    (∃ records, ofLines number lines = .ok records) ↔ InOrder lines := by
  unfold InOrder
  fun_induction ofLines number lines with
  | case1 => simp [Fits]
  | case3 number first hfirst name second rest hsecond =>
    rename_i ih
    rw [← kind_eq_first_iff] at hfirst
    rw [← kind_eq_second_iff] at hsecond
    simp [map_eq_ok_iff, hfirst, hsecond, Fits, ih]
  | case8 number line hline hline' name first hfirst second rest hsecond =>
    rename_i ih
    have hkind : kind line = .other := kind_eq_other_iff.mpr ⟨hline, hline'⟩
    rw [← kind_eq_first_iff] at hfirst
    rw [← kind_eq_second_iff] at hsecond
    simp [map_eq_ok_iff, hkind, hfirst, hsecond, Fits, ih]
  | _ => simp [Fits, *]

/-- Between lines there is a pair of neighbours that a line put in there has to fit. -/
theorem exists_neighbours (pre post : List (List Char)) : ∃ before after,
    (∀ line, InOrder (pre ++ line :: post) → Fits before (kind line) ∧ Fits (kind line) after) ∧
      (InOrder (pre ++ post) → Fits before after) := by
  obtain ⟨xs, before, hbefore⟩ : ∃ xs before, Kind.second :: pre.map kind = xs ++ [before] :=
    (List.eq_nil_or_concat' _).resolve_left (by simp)
  obtain ⟨after, ys, hafter⟩ : ∃ after ys, post.map kind ++ [Kind.other] = after :: ys :=
    List.exists_cons_of_ne_nil (by simp)
  refine ⟨before, after, fun line h => ?_, fun h => ?_⟩
  · have hchain : List.IsChain Fits (xs ++ before :: kind line :: after :: ys) := by
      have hlines : Kind.second :: ((pre ++ line :: post).map kind ++ [.other]) =
          xs ++ before :: kind line :: after :: ys := by
        rw [List.map_append, List.map_cons, List.append_assoc, List.cons_append, hafter,
          ← List.cons_append, hbefore, List.append_assoc, List.singleton_append]
      rwa [InOrder, hlines] at h
    obtain ⟨-, hbefore, hrest⟩ := List.isChain_append_cons_cons.mp hchain
    exact ⟨hbefore, (List.isChain_cons_cons.mp hrest).1⟩
  · have hchain : List.IsChain Fits (xs ++ before :: after :: ys) := by
      have hlines : Kind.second :: ((pre ++ post).map kind ++ [.other]) =
          xs ++ before :: after :: ys := by
        rw [List.map_append, List.append_assoc, hafter, ← List.cons_append, hbefore,
          List.append_assoc, List.singleton_append]
      rwa [InOrder, hlines] at h
    exact (List.isChain_append_cons_cons.mp hchain).2.1

/-- A line that is read can only give way to one of its kind. -/
theorem InOrder.kind_eq {pre post : List (List Char)} {line line' : List Char}
    (h : InOrder (pre ++ line :: post)) (h' : InOrder (pre ++ line' :: post)) :
    kind line' = kind line := by
  obtain ⟨before, after, hfits, -⟩ := exists_neighbours pre post
  have hline := hfits line h
  have hline' := hfits line' h'
  generalize kind line = k at *
  generalize kind line' = k' at *
  cases before <;> cases after <;> cases k <;> cases k' <;> simp_all [Fits]

/-- Only a name line can be left out or put in. -/
theorem InOrder.kind_eq_other {pre post : List (List Char)} {line : List Char}
    (h : InOrder (pre ++ line :: post)) (h' : InOrder (pre ++ post)) : kind line = .other := by
  obtain ⟨before, after, hfits, hjoin⟩ := exists_neighbours pre post
  have hline := hfits line h
  have hwithout := hjoin h'
  generalize kind line = k at *
  cases before <;> cases after <;> cases k <;> simp_all [Fits]

/-! ## Names by number -/

/-- How many bytes a text takes. -/
def byteCount : List Char → ℕ
  | [] => 0
  | c :: cs => c.utf8Size + byteCount cs

theorem takeBytes_eq_some_iff {count : ℕ} {cs p : List Char} :
    takeBytes count cs = some p ↔ p <+: cs ∧ byteCount p = count := by
  fun_induction takeBytes count cs generalizing p with
  | case1 cs =>
    cases p with
    | nil => simp [byteCount]
    | cons c p =>
      have := c.utf8Size_pos
      simp [byteCount]
      omega
  | case2 count =>
    simp only [reduceCtorEq, List.prefix_nil, false_iff, not_and]
    rintro rfl
    simp [byteCount]
  | case3 count c cs hc ih =>
    cases p with
    | nil => simp [byteCount]
    | cons d p =>
      simp only [Option.map_eq_some_iff, ih, List.cons.injEq, List.cons_prefix_cons, byteCount]
      constructor
      · rintro ⟨q, ⟨hq, hcount⟩, rfl, rfl⟩
        exact ⟨⟨rfl, hq⟩, by omega⟩
      · rintro ⟨⟨rfl, hp⟩, hcount⟩
        exact ⟨p, ⟨hp, by omega⟩, rfl, rfl⟩
  | case4 count c cs hc =>
    cases p with
    | nil => simp [byteCount]
    | cons d p =>
      simp only [reduceCtorEq, List.cons_prefix_cons, byteCount, false_iff, not_and]
      rintro ⟨rfl, -⟩
      omega

theorem numberName_of_byteCount {p rest : List Char} (h : byteCount p = 5) :
    numberName (['1', ' '] ++ (p ++ rest)) = "NORAD " ++ String.ofList (trim p) := by
  have htake : takeBytes 5 (p ++ rest) = some p :=
    takeBytes_eq_some_iff.mpr ⟨List.prefix_append p rest, h⟩
  have hfield : numberField (['1', ' '] ++ (p ++ rest)) = trim p := by simp [numberField, htake]
  unfold numberName
  rw [hfield, String.ofList_append, String.ofList_toList]

theorem numberName_eq {line : List Char} (h : ∀ p, p <+: line.drop 2 → byteCount p ≠ 5) :
    numberName line = "NORAD " := by
  have htake : takeBytes 5 (line.drop 2) = none := by
    rw [Option.eq_none_iff_forall_ne_some]
    intro p hp
    obtain ⟨hbegins, hcount⟩ := takeBytes_eq_some_iff.mp hp
    exact h p hbegins hcount
  have hfield : numberField line = [] := by
    rw [numberField, htake]
    rfl
  unfold numberName
  rw [hfield, List.append_nil, String.ofList_toList]

/-! ## Rendering -/

/-- Holds of records whose texts are lines, each of its kind. -/
structure Record.Valid (r : Record) : Prop where
  name_isLine : IsLine r.name.toList
  name_trimmed : trim r.name.toList = r.name.toList
  name_other : ¬ isFirst r.name.toList ∧ ¬ isSecond r.name.toList
  line1_isLine : IsLine r.line1.toList
  line1_first : isFirst r.line1.toList
  line2_isLine : IsLine r.line2.toList
  line2_second : isSecond r.line2.toList

/-- The entry that a record is rendered as. -/
def Record.entry (r : Record) : Entry := .named r.name.toList r.line1.toList r.line2.toList

theorem Record.Valid.entry_wellFormed {r : Record} (h : r.Valid) : r.entry.WellFormed :=
  ⟨h.name_other.1, h.name_other.2, h.line1_first, h.line2_second⟩

theorem Record.Valid.entry_record {r : Record} (h : r.Valid) : r.entry.record = r := by
  simp [Record.entry, Entry.record, h.name_trimmed]

theorem laidOut_render (records : List Record) :
    LaidOut ((records.flatMap Record.lines).map String.toList) (render records).toList := by
  unfold render
  rw [String.toList_join]
  generalize records.flatMap Record.lines = lines
  induction lines with
  | nil => exact .blank (by simp [Blank])
  | cons l lines ih =>
    have hlast : Blank [] := by simp [Blank]
    simpa using LaidOut.line (l := l.toList) hlast ih

/-! ## The format -/

theorem ofText_laidOut {entries : List Entry} {text : String}
    (hentries : ∀ e ∈ entries, e.WellFormed)
    (hlines : ∀ l ∈ entries.flatMap Entry.lines, IsLine l)
    (htext : LaidOut (entries.flatMap Entry.lines) text.toList) :
    ofText text = .ok (entries.map Entry.record) := by
  rw [ofText, significantLines_of_laidOut htext hlines]
  exact Splits.ofLines_eq ⟨hentries, rfl⟩ 1

theorem ofText_laidOut_records {records : List Record} {text : String}
    (h : ∀ r ∈ records, r.Valid)
    (htext : LaidOut ((records.flatMap Record.lines).map String.toList) text.toList) :
    ofText text = .ok records := by
  have hlines : (records.map Record.entry).flatMap Entry.lines =
      (records.flatMap Record.lines).map String.toList := by
    rw [List.flatMap_map, List.map_flatMap]
    rfl
  have hrecords : (records.map Record.entry).map Entry.record = records := by
    rw [List.map_map]
    exact (List.map_congr_left fun r hr => (h r hr).entry_record).trans (List.map_id records)
  rw [← hlines] at htext
  rw [ofText_laidOut _ _ htext, hrecords]
  · intro e he
    obtain ⟨r, hr, rfl⟩ := List.mem_map.mp he
    exact (h r hr).entry_wellFormed
  · intro l hl
    rw [List.flatMap_map] at hl
    obtain ⟨r, hr, hl⟩ := List.mem_flatMap.mp hl
    have hvalid := h r hr
    simp only [Record.entry, Entry.lines, List.mem_cons, List.not_mem_nil, or_false] at hl
    rcases hl with rfl | rfl | rfl
    · exact hvalid.name_isLine
    · exact hvalid.line1_isLine
    · exact hvalid.line2_isLine

theorem ofText_isOk_iff {text : String} :
    (∃ records, ofText text = .ok records) ↔ InOrder (significantLines text.toList) :=
  ofLines_isOk_iff

theorem inOrder {text : String} {lines : List (List Char)} {records : List Record}
    (hread : ofText text = .ok records) (hlines : significantLines text.toList = lines) :
    InOrder lines := by
  rw [← hlines]
  exact ofText_isOk_iff.mp ⟨records, hread⟩

theorem exists_error {text : String} {lines : List (List Char)}
    (hlines : significantLines text.toList = lines) (h : ¬ InOrder lines) :
    ∃ cause, ofText text = .error cause := by
  cases hread : ofText text with
  | error cause => exact ⟨cause, rfl⟩
  | ok records => exact absurd (inOrder hread hlines) h

/-- What is read from which texts.  The lines that count are cut into entries, in one way (`reads`,
`unique`), and depend on no blanks (`significant`); a record without a name line is named by its
number (`numbered`, `unnumbered`).  Entries and records come back from every text that they are laid
out in (`restores`, `returns`, `rendered`).  One line that does not fit, and nothing is read
(`ordered`); so it is with a line that gives way to one of another kind, is lost, or is added, except
for the names that may or may not be there (`replaced`, `lost`, `added`). -/
structure FormatLaw : Prop where
  reads (text : String) (records : List Record) :
    ofText text = .ok records ↔ ∃ entries, Splits entries (significantLines text.toList) ∧
      entries.map Entry.record = records
  unique {entries entries' : List Entry} {lines : List (List Char)} :
    Splits entries lines → Splits entries' lines → entries = entries'
  significant (text : List Char) (lines : List (List Char)) :
    significantLines text = lines ↔ LaidOut lines text ∧ ∀ l ∈ lines, IsLine l
  numbered (p rest : List Char) : byteCount p = 5 →
    numberName (['1', ' '] ++ (p ++ rest)) = "NORAD " ++ String.ofList (trim p)
  unnumbered (line : List Char) : (∀ p, p <+: line.drop 2 → byteCount p ≠ 5) →
    numberName line = "NORAD "
  restores (entries : List Entry) (text : String) : (∀ e ∈ entries, e.WellFormed) →
    (∀ l ∈ entries.flatMap Entry.lines, IsLine l) →
    LaidOut (entries.flatMap Entry.lines) text.toList →
      ofText text = .ok (entries.map Entry.record)
  returns (records : List Record) (text : String) : (∀ r ∈ records, r.Valid) →
    LaidOut ((records.flatMap Record.lines).map String.toList) text.toList →
      ofText text = .ok records
  rendered (records : List Record) :
    LaidOut ((records.flatMap Record.lines).map String.toList) (render records).toList
  ordered (text : String) :
    (∃ records, ofText text = .ok records) ↔ InOrder (significantLines text.toList)
  replaced {text text' : String} {pre post : List (List Char)} {line line' : List Char}
    {records : List Record} : ofText text = .ok records →
    significantLines text.toList = pre ++ line :: post →
    significantLines text'.toList = pre ++ line' :: post → kind line' ≠ kind line →
      ∃ cause, ofText text' = .error cause
  lost {text text' : String} {pre post : List (List Char)} {line : List Char}
    {records : List Record} : ofText text = .ok records →
    significantLines text.toList = pre ++ line :: post →
    significantLines text'.toList = pre ++ post → kind line ≠ .other →
      ∃ cause, ofText text' = .error cause
  added {text text' : String} {pre post : List (List Char)} {line : List Char}
    {records : List Record} : ofText text = .ok records →
    significantLines text.toList = pre ++ post →
    significantLines text'.toList = pre ++ line :: post → kind line ≠ .other →
      ∃ cause, ofText text' = .error cause

/-- **Catalogs are the texts of their records**: they are read as a whole or not at all, and no line
is left over. -/
theorem format_law : FormatLaw where
  reads _ _ := ofLines_eq_ok_iff
  unique := Splits.unique
  significant _ _ := significantLines_eq_iff
  numbered _ _ := numberName_of_byteCount
  unnumbered _ := numberName_eq
  restores _ _ := ofText_laidOut
  returns _ _ := ofText_laidOut_records
  rendered := laidOut_render
  ordered _ := ofText_isOk_iff
  replaced hread hlines hlines' hkind :=
    exists_error hlines' fun h => hkind ((inOrder hread hlines).kind_eq h)
  lost hread hlines hlines' hkind :=
    exists_error hlines' fun h => hkind ((inOrder hread hlines).kind_eq_other h)
  added hread hlines hlines' hkind :=
    exists_error hlines' fun h => hkind (h.kind_eq_other (inOrder hread hlines))

/-- A record with a name line and one without, with blank lines between them. -/
theorem format_law_mixed :
    ofText "\n ISS \r\n1 25544U\n2 25544  \n\n1 43641U\n\t\n2 43641" =
      .ok [⟨"ISS", "1 25544U", "2 25544"⟩, ⟨"NORAD 43641", "1 43641U", "2 43641"⟩] := by
  have hnumber : numberName "1 43641U".toList = "NORAD 43641" :=
    format_law.numbered "43641".toList "U".toList (by decide)
  have hname : Text.trim " ISS".toList = "ISS".toList := by decide +kernel
  refine (format_law.reads _ _).mpr
    ⟨[.named " ISS".toList "1 25544U".toList "2 25544".toList,
      .bare "1 43641U".toList "2 43641".toList], ⟨?_, ?_⟩, ?_⟩
  · simp [Entry.WellFormed, isFirst, isSecond]
  · decide +kernel
  · simp only [List.map, Entry.record, hnumber, hname, String.ofList_toList]

end EarthStation.Catalog
