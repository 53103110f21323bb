import EarthStation.Proofs.Text.Layout
import EarthStation.StatusTable

/-!
# Status tables — reading what was written, and finding satellites in it

* `StatusTable.Entry.Plain`: the entries that a line can hold.
* `StatusTable.Tabulated`: the texts of entries, with comments and blank lines put in.
* `StatusTable.ofText_of_tabulated`: a text of entries is read as these entries.
* `StatusTable.lookup_eq_some_iff`, `StatusTable.lookup_eq_none_iff`: what is found under a name.
* `StatusTable.table_law`: both, and what is found under the names of entries that were read.
-/

namespace EarthStation.Text

/-! ## Cutting at a number of separators -/

variable {sep : Char} {count : Nat}

theorem splitAtMost_of_not_mem {a : List Char} (h : sep ∉ a) : splitAtMost sep count a = [a] := by
  cases count with
  | zero => simp [splitAtMost]
  | succ count =>
    induction a with
    | nil => rfl
    | cons c a ih =>
      obtain ⟨hc, ha⟩ := List.ne_and_not_mem_of_not_mem_cons h
      rw [splitAtMost, if_neg (Ne.symm hc), ih ha]

theorem splitAtMost_append {a : List Char} (h : sep ∉ a) (b : List Char) :
    splitAtMost sep (count + 1) (a ++ sep :: b) = a :: splitAtMost sep count b := by
  induction a with
  | nil => simp [splitAtMost]
  | cons c a ih =>
    obtain ⟨hc, ha⟩ := List.ne_and_not_mem_of_not_mem_cons h
    rw [List.cons_append, splitAtMost, if_neg (Ne.symm hc), ih ha]

/-- Pieces that were joined are cut apart again; only the last may hold separators. -/
theorem splitAtMost_intercalate {pieces : List (List Char)} (h : ∀ a ∈ pieces, sep ∉ a)
    (last : List Char) :
    splitAtMost sep pieces.length (List.intercalate [sep] (pieces ++ [last])) = pieces ++ [last] := by
  induction pieces with
  | nil => simp [splitAtMost]
  | cons a pieces ih =>
    obtain ⟨ha, hpieces⟩ := List.forall_mem_cons.mp h
    have hjoined : List.intercalate [sep] (a :: pieces ++ [last]) =
        a ++ sep :: List.intercalate [sep] (pieces ++ [last]) := by
      cases pieces <;> simp [List.intercalate_cons_cons]
    rw [hjoined, List.length_cons, splitAtMost_append ha, ih hpieces]
    rfl

/-- What is added behind a text goes to its last piece. -/
theorem splitAtMost_append_right {w : List Char} (hw : sep ∉ w) (a : List Char) :
    ∃ pieces last, splitAtMost sep count a = pieces ++ [last] ∧
      splitAtMost sep count (a ++ w) = pieces ++ [last ++ w] := by
  induction a generalizing count with
  | nil => exact ⟨[], [], splitAtMost_of_not_mem (by simp), splitAtMost_of_not_mem hw⟩
  | cons c a ih =>
    cases count with
    | zero => exact ⟨[], c :: a, rfl, by simp [splitAtMost]⟩
    | succ count =>
      rw [List.cons_append, splitAtMost, splitAtMost]
      by_cases hc : c = sep
      · obtain ⟨pieces, last, hshort, hlong⟩ := @ih count
        exact ⟨[] :: pieces, last, by simp [hc, hshort], by simp [hc, hlong]⟩
      · obtain ⟨pieces, last, hshort, hlong⟩ := @ih (count + 1)
        rw [if_neg hc, if_neg hc, hshort, hlong]
        -- the character belongs to the first piece, which may be the last one too
        cases pieces with
        | nil => exact ⟨[], c :: last, rfl, rfl⟩
        | cons piece pieces => exact ⟨(c :: piece) :: pieces, last, rfl, rfl⟩

end EarthStation.Text

namespace EarthStation.StatusTable

open Text

variable {e : Entry} {entries table : List Entry} {name : String}

/-! ## Lines -/

namespace Entry

/-- Holds of entries that a line can hold: no white space around the fields and no line feed in them,
separators in the last one at most, and a name that does not look like a comment. -/
structure Plain (e : Entry) : Prop where
  trimmed : ∀ field ∈ e.fields, trim field.toList = field.toList
  whole : ∀ field ∈ e.fields, '\n' ∉ field.toList
  unseparated : ∀ field ∈ e.fields.take 7, ';' ∉ field.toList
  uncommented : e.name.toList.head? ≠ some '#'

theorem toList_line (e : Entry) :
    e.line.toList = List.intercalate [';'] (e.fields.map String.toList) := by
  rw [line, String.toList_intercalate]
  rfl

/-- A line begins with the name and a separator. -/
theorem exists_line_eq (e : Entry) : ∃ rest, e.line.toList = e.name.toList ++ ';' :: rest := by
  refine ⟨List.intercalate [';'] ((e.fields.drop 1).map String.toList), ?_⟩
  simp [toList_line, fields, List.intercalate_cons_cons]

theorem Plain.newline_not_mem_line (he : e.Plain) : '\n' ∉ e.line.toList := by
  have hwhole := he.whole
  simp only [fields, List.forall_mem_cons] at hwhole
  simp [toList_line, fields, List.intercalate_cons_cons, hwhole]

/-- White space behind a line does not matter. -/
theorem ofLine_append {w : List Char} (hw : Blank w) (line : List Char) :
    ofLine (line ++ w) = ofLine line := by
  have hsep : ';' ∉ w := fun h => absurd (hw _ h) (by decide)
  obtain ⟨pieces, last, hshort, hlong⟩ := @splitAtMost_append_right ';' 7 w hsep line
  simp only [ofLine, hshort, hlong, List.map_append, List.map_cons, List.map_nil, trim_append hw]

theorem Plain.ofLine_line (he : e.Plain) : ofLine e.line.toList = e := by
  have hfirst : ∀ a ∈ (e.fields.take 7).map String.toList, ';' ∉ a :=
    List.forall_mem_map.mpr he.unseparated
  have hpieces : splitAtMost ';' 7 e.line.toList = e.fields.map String.toList := by
    rw [toList_line]
    exact splitAtMost_intercalate hfirst e.status.toList
  have hfields : (e.fields.map String.toList).map (fun f => String.ofList (trim f)) = e.fields := by
    rw [List.map_map]
    refine (List.map_congr_left fun field hfield => ?_).trans (List.map_id _)
    rw [Function.comp_apply, he.trimmed field hfield, String.ofList_toList, id_eq]
  rw [ofLine, hpieces, hfields]
  rfl

end Entry

theorem isSkipped_append {w : List Char} (hw : Blank w) (line : List Char) :
    isSkipped (line ++ w) = isSkipped line := by
  unfold isSkipped
  rw [trim_append hw]
  cases line with
  | nil =>
    have hhead : w.head? ≠ some '#' := fun h => absurd (hw _ (List.mem_of_head? h)) (by decide)
    simp [hhead]
  | cons c line => rfl

theorem isSkipped_of_blank {w : List Char} (hw : Blank w) : isSkipped w = true := by
  simp [isSkipped, trim_eq_nil_iff.mpr hw]

theorem Entry.Plain.not_isSkipped (he : e.Plain) : isSkipped e.line.toList = false := by
  obtain ⟨rest, hline⟩ := e.exists_line_eq
  have hblank : ¬ Blank e.line.toList := fun h => absurd (h ';' (by simp [hline])) (by decide)
  have hhead : e.line.toList.head? ≠ some '#' := by
    have hname := he.uncommented
    rw [hline]
    cases h : e.name.toList with
    | nil => simp
    | cons c cs => rwa [h] at hname
  simp [isSkipped, hhead, trim_eq_nil_iff, hblank]

/-! ## Texts -/

/-- What a line of a table says: nothing if it is a comment or blank, and else an entry, with white
space behind it. -/
inductive Row : List Entry → List Char → Prop
  | comment {note : List Char} (hnote : '\n' ∉ note) : Row [] ('#' :: note)
  | blank {w : List Char} (hw : Blank w) (hwhole : '\n' ∉ w) : Row [] w
  | entry {e : Entry} {w : List Char} (hw : Blank w) (hwhole : '\n' ∉ w) : Row [e] (e.line.toList ++ w)

/-- The texts of entries, with comments, blank lines and white space at the ends of lines put in.  The
last line need not be ended by a line feed. -/
inductive Tabulated : List Entry → List Char → Prop
  | last {entries : List Entry} {line : List Char} (h : Row entries line) : Tabulated entries line
  | line {first entries : List Entry} {line text : List Char} (h : Row first line)
    (hrest : Tabulated entries text) : Tabulated (first ++ entries) (line ++ '\n' :: text)

/-- What some lines say. -/
def ofLines (lines : List (List Char)) : List Entry :=
  (lines.filter fun line => !isSkipped line).map Entry.ofLine

theorem Row.newline_not_mem {line : List Char} (h : Row entries line)
    (hentries : ∀ e ∈ entries, e.Plain) : '\n' ∉ line := by
  cases h with
  | comment hnote => simpa using hnote
  | blank _ hwhole => exact hwhole
  | entry _ hwhole =>
    have he := hentries _ List.mem_cons_self
    simp [hwhole, he.newline_not_mem_line]

/-- A line is read as what it says, also without white space at its end. -/
theorem Row.read {line shown w : List Char} (h : Row entries line) (hentries : ∀ e ∈ entries, e.Plain)
    (hw : Blank w) (hshown : line = shown ++ w) : ofLines [shown] = entries := by
  have hskipped : isSkipped shown = isSkipped line := by rw [hshown, isSkipped_append hw]
  have hread : Entry.ofLine shown = Entry.ofLine line := by rw [hshown, Entry.ofLine_append hw]
  suffices hline : ofLines [line] = entries by
    simpa [ofLines, List.filter_cons, hskipped, hread, apply_ite] using hline
  cases h with
  | comment _ => rfl
  | blank hblank _ => simp [ofLines, isSkipped_of_blank hblank]
  | entry hblank _ =>
    have he := hentries _ List.mem_cons_self
    simp [ofLines, isSkipped_append hblank, he.not_isSkipped, Entry.ofLine_append hblank,
      he.ofLine_line]

theorem ofLines_of_tabulated {text : List Char} (h : Tabulated entries text)
    (hentries : ∀ e ∈ entries, e.Plain) : ofLines (lines text) = entries := by
  induction h with
  | @last entries line h =>
    have hline := h.read hentries (w := []) (by simp [Blank]) (List.append_nil line).symm
    rw [lines_of_not_mem (h.newline_not_mem hentries)]
    split
    · rename_i hempty
      rw [hempty] at hline
      exact hline
    · exact hline
  | @line first entries line text h hrest ih =>
    obtain ⟨hfirst, hentries⟩ := List.forall_mem_append.mp hentries
    obtain ⟨w, hw, hreturn⟩ := dropReturn_append line
    have hhead := h.read hfirst hw hreturn
    rw [lines_append (h.newline_not_mem hfirst), ← ih hentries, ← hhead, ← List.singleton_append]
    simp only [ofLines, List.filter_append, List.map_append]

/-- **A text of entries is read as these entries.** -/
theorem ofText_of_tabulated {text : String} (h : Tabulated entries text.toList)
    (hentries : ∀ e ∈ entries, e.Plain) : ofText text = entries :=
  ofLines_of_tabulated h hentries

/-- A written table is a text of its entries. -/
theorem tabulated_render (entries : List Entry) : Tabulated entries (render entries).toList := by
  induction entries with
  | nil => exact .last (.blank (w := []) (by simp [Blank]) (by simp))
  | cons e entries ih =>
    have hrow : Row [e] e.line.toList := by
      simpa using Row.entry (e := e) (w := []) (by simp [Blank]) (by simp)
    simpa [render, String.toList_join] using Tabulated.line hrow ih

/-- **What was written is read back.** -/
theorem ofText_render (hentries : ∀ e ∈ entries, e.Plain) : ofText (render entries) = entries :=
  ofText_of_tabulated (tabulated_render entries) hentries

/-! ## Finding -/

/-- The first element of a list that has a property. -/
def IsFirst (P : Entry → Prop) (table : List Entry) (e : Entry) : Prop :=
  ∃ before after, table = before ++ e :: after ∧ P e ∧ ∀ x ∈ before, ¬ P x

/-- Holds of the entries whose name is the given one without white space around it. -/
def Named (name : String) (e : Entry) : Prop := e.name.toList = trim name.toList

/-- Holds of the entries with a name that begins the given one, or that it begins. -/
def Resembling (name : String) (e : Entry) : Prop :=
  e.name ≠ "" ∧ (e.name.toList <+: trim name.toList ∨ trim name.toList <+: e.name.toList)

instance : DecidablePred (Named name) :=
  fun e => inferInstanceAs (Decidable (e.name.toList = trim name.toList))

instance : DecidablePred (Resembling name) :=
  fun e => inferInstanceAs (Decidable (e.name ≠ "" ∧ (_ <+: _ ∨ _ <+: _)))

theorem resembles_iff : resembles (trim name.toList) e = true ↔ Resembling name e := by
  simp [resembles, Resembling]

theorem find_eq_some_iff {p : Entry → Bool} {P : Entry → Prop} (hp : ∀ e, p e = true ↔ P e) :
    table.find? p = some e ↔ IsFirst P table e := by
  have hnot (x : Entry) : (!p x) = true ↔ ¬ P x := by rw [← hp x]; simp
  rw [List.find?_eq_some_iff_append, IsFirst, hp e]
  constructor
  · rintro ⟨he, before, after, htable, hbefore⟩
    exact ⟨before, after, htable, he, fun x hx => (hnot x).mp (hbefore x hx)⟩
  · rintro ⟨before, after, htable, he, hbefore⟩
    exact ⟨he, before, after, htable, fun x hx => (hnot x).mpr (hbefore x hx)⟩

theorem find_eq_none_iff {p : Entry → Bool} {P : Entry → Prop} (hp : ∀ e, p e = true ↔ P e) :
    table.find? p = none ↔ ∀ e ∈ table, ¬ P e := by
  simp only [List.find?_eq_none, hp]

theorem named_iff : decide (e.name.toList = trim name.toList) = true ↔ Named name e :=
  decide_eq_true_iff

theorem lookup_eq (table : List Entry) (name : String) :
    lookup table name = (table.find? fun e => e.name.toList = trim name.toList).or
      (table.find? (resembles (trim name.toList))) := by
  simp only [lookup]
  cases table.find? fun e => e.name.toList = trim name.toList <;> rfl

/-- What is found: the first entry with exactly the name, and only where there is none the first one
with a name that resembles it. -/
theorem lookup_eq_some_iff :
    lookup table name = some e ↔
      IsFirst (Named name) table e ∨
        (∀ x ∈ table, ¬ Named name x) ∧ IsFirst (Resembling name) table e := by
  rw [lookup_eq, Option.or_eq_some_iff, find_eq_some_iff fun _ => named_iff,
    find_eq_none_iff fun _ => named_iff, find_eq_some_iff fun _ => resembles_iff]

theorem lookup_eq_none_iff :
    lookup table name = none ↔ ∀ e ∈ table, ¬ Named name e ∧ ¬ Resembling name e := by
  rw [lookup_eq, Option.or_eq_none_iff, find_eq_none_iff fun _ => named_iff,
    find_eq_none_iff fun _ => resembles_iff]
  exact ⟨fun ⟨h, h'⟩ e he => ⟨h e he, h' e he⟩,
    fun h => ⟨fun e he => (h e he).1, fun e he => (h e he).2⟩⟩

/-- Of the entries with a property, the first one is the given one or stands before it. -/
theorem exists_isFirst {P : Entry → Prop} (before after : List Entry) (he : P e) :
    ∃ found, IsFirst P (before ++ e :: after) found ∧ (found = e ∨ found ∈ before) := by
  induction before with
  | nil => exact ⟨e, ⟨[], after, rfl, he, by simp⟩, .inl rfl⟩
  | cons x before ih =>
    by_cases hx : P x
    · exact ⟨x, ⟨[], before ++ e :: after, rfl, hx, by simp⟩, .inr List.mem_cons_self⟩
    · obtain ⟨found, ⟨skipped, rest, htable, hfound, hskipped⟩, hplace⟩ := ih
      refine ⟨found, ⟨x :: skipped, rest, by simp [htable], hfound, ?_⟩, ?_⟩
      · exact List.forall_mem_cons.mpr ⟨hx, hskipped⟩
      · exact hplace.imp_right (List.mem_cons_of_mem x)

/-- The fields that are read have no white space around them. -/
theorem trim_name_of_mem_ofText {text : String} (h : e ∈ ofText text) :
    trim e.name.toList = e.name.toList := by
  obtain ⟨line, -, rfl⟩ := List.mem_map.mp h
  obtain ⟨pieces, hpieces⟩ : ∃ pieces, splitAtMost ';' 7 line = pieces := ⟨_, rfl⟩
  rw [Entry.ofLine, hpieces]
  cases pieces with
  | nil => rfl
  | cons piece pieces => simp [Entry.ofFields, trim_trim]

/-- **Tables.**  A text of entries, with comments and blank lines put in, is read as these entries.
What is found under a name is the first entry with exactly this name, else the first one with a name
that begins it or that it begins, and nothing only where there is neither.  So an entry of a table that
was read is found under its own name unless an earlier one with this name is. -/
theorem table_law :
    (∀ (entries : List Entry) (text : String), (∀ e ∈ entries, e.Plain) →
      Tabulated entries text.toList → ofText text = entries) ∧
    (∀ (table : List Entry) (name : String),
      (∀ found, lookup table name = some found ↔
        IsFirst (Named name) table found ∨
          (∀ e ∈ table, ¬ Named name e) ∧ IsFirst (Resembling name) table found) ∧
      (lookup table name = none ↔ ∀ e ∈ table, ¬ Named name e ∧ ¬ Resembling name e)) ∧
    ∀ (text : String) (before after : List Entry) (e : Entry), ofText text = before ++ e :: after →
      ∃ found, lookup (ofText text) e.name = some found ∧ found.name = e.name ∧
        (found = e ∨ found ∈ before) := by
  refine ⟨fun entries text hentries h => ofText_of_tabulated h hentries,
    fun table name => ⟨fun found => lookup_eq_some_iff, lookup_eq_none_iff⟩,
    fun text before after e htext => ?_⟩
  have htrim : trim e.name.toList = e.name.toList :=
    trim_name_of_mem_ofText (by rw [htext]; simp)
  have hnamed (x : Entry) : Named e.name x ↔ x.name = e.name := by
    rw [Named, htrim, String.toList_inj]
  obtain ⟨found, hfirst, hplace⟩ := exists_isFirst before after ((hnamed e).mpr rfl)
  have hfound : found.name = e.name := by
    obtain ⟨-, -, -, hfound, -⟩ := hfirst
    exact (hnamed found).mp hfound
  exact ⟨found, lookup_eq_some_iff.mpr (.inl (htext ▸ hfirst)), hfound, hplace⟩

/-- Two satellites, the name of the first of which begins that of the second. -/
def amateurs : List Entry :=
  [⟨"AO", "7530", "", "29.502", "", "", "", "active"⟩,
    ⟨"AO-91", "43017", "435.250", "145.960", "", "FM", "", "active; at night only"⟩]

/-- A text of them: a comment, an entry with a carriage return, a blank line, and a last line that is
not ended. -/
def amateurText : String :=
  "# heard\nAO;7530;;29.502;;;;active\r\n \nAO-91;43017;435.250;145.960;;FM;;active; at night only"

/-- The text is read; the exact name is found behind the one that begins it, and another name only by
that. -/
theorem table_law_amateurs :
    ofText amateurText = amateurs ∧ lookup amateurs " AO-91 " = amateurs[1]? ∧
    lookup amateurs "AO-92" = amateurs[0]? ∧ lookup amateurs "ISS" = none := by
  obtain ⟨hread, hfind, -⟩ := table_law
  have hplain : ∀ e ∈ amateurs, e.Plain := by
    simp only [amateurs, List.forall_mem_cons]
    exact ⟨⟨by decide, by decide, by decide, by decide⟩,
      ⟨by decide, by decide, by decide, by decide⟩, by simp⟩
  have hnote : '\n' ∉ " heard".toList := by decide
  have hblank : Blank [] ∧ Blank [' '] ∧ Blank ['\r'] := by simp [Blank, isBlank]
  have htext : Tabulated amateurs _ :=
    .line (.comment hnote) (.line (.entry hblank.2.2 (by decide))
      (.line (.blank hblank.2.1 (by decide)) (.last (.entry hblank.1 (by decide)))))
  refine ⟨hread amateurs amateurText hplain ?_, ?_, ?_, ?_⟩
  · convert htext using 1
    decide +kernel
  · exact ((hfind amateurs _).1 _).mpr (.inl ⟨amateurs.take 1, [], rfl, by decide, by decide⟩)
  · exact ((hfind amateurs _).1 _).mpr (.inr ⟨by decide, [], amateurs.drop 1, rfl, by decide, by decide⟩)
  · exact (hfind amateurs _).2.mpr (by decide)

end EarthStation.StatusTable
