import EarthStation.Catalog
import EarthStation.Proofs.Search.Structure
import EarthStation.Proofs.Text.Layout

/-!
# Selection — which satellite is tracked for its next or its best pass

* `PassSearch.FirstBest`, `PassSearch.pick_spec`: the first best pass of a list is picked.
* `PassSearch.Offer`, `PassSearch.offers`: the passes of a scan, each with the place in the catalog of
  the record whose scan has found it; `offers_of_run`: they are the passes that a run lists.
* `Catalog.lookup`, `lookup_first`: the record that a name stands for.
* `Catalog.select_of_some`: the choice of a pass, and a search of the catalog by the name of that pass.
* `Catalog.SelectionLaw`, `Catalog.pass_selection_law`: what is tracked.
* `Catalog.namesake_tracked`: it need not be the satellite that makes the pass.
-/

namespace EarthStation

namespace PassSearch

/-! ## The first best pass -/

section Pick

variable {τ α : Type}

/-- One of some passes, or of what they belong to, that is as good as any and better than all before
it. -/
structure FirstBest {β : Type} (beats : β → β → Bool) (all : List β) (a : β) : Prop where
  best : ∀ b ∈ all, beats a b = true
  first : ∃ before after, all = before ++ a :: after ∧ ∀ b ∈ before, beats b a = false

theorem FirstBest.mem {β : Type} {beats : β → β → Bool} {all : List β} {a : β}
    (h : FirstBest beats all a) : a ∈ all := by
  obtain ⟨before, after, hall, -⟩ := h.first
  exact hall ▸ List.mem_append_right before List.mem_cons_self

theorem pick_concat (beats : Pass τ α → Pass τ α → Bool) (passes : List (Pass τ α)) (p : Pass τ α) :
    Found.pick beats (passes ++ [p]) =
      match Found.pick beats passes with
      | some k => if beats k p then some k else some p
      | none => some p := by
  unfold Found.pick
  rw [List.foldl_append]
  rfl

/-- **The pass that is picked is the first best one**, if all of them can be compared. -/
theorem pick_spec {beats : Pass τ α → Pass τ α → Bool} {passes : List (Pass τ α)}
    (htrans : ∀ {p q r}, beats p q = true → beats q r = true → beats p r = true)
    (htotal : ∀ p ∈ passes, ∀ q ∈ passes, beats p q = true ∨ beats q p = true) :
    (passes = [] ∧ Found.pick beats passes = none) ∨
      ∃ p, Found.pick beats passes = some p ∧ FirstBest beats passes p := by
  induction passes using List.reverseRecOn with
  | nil => exact .inl ⟨rfl, rfl⟩
  | append_singleton passes n ih =>
    right
    have hself : beats n n = true := (htotal n (by simp) n (by simp)).elim id id
    rw [pick_concat]
    rcases ih fun p hp q hq => htotal p (by simp [hp]) q (by simp [hq]) with
      ⟨rfl, hnone⟩ | ⟨p, hpick, hp⟩
    · rw [hnone]
      exact ⟨n, rfl, by simpa using hself, [], [], rfl, by simp⟩
    · rw [hpick]
      dsimp only
      by_cases hkeep : beats p n = true
      · obtain ⟨before, after, rfl, hbefore⟩ := hp.first
        rw [if_pos hkeep]
        refine ⟨p, rfl, fun q hq => ?_, before, after ++ [n], by simp, hbefore⟩
        rcases List.mem_append.mp hq with hq | hq
        · exact hp.best q hq
        · exact List.mem_singleton.mp hq ▸ hkeep
      · -- what is better than `p` is better than all before it
        have hbetter (q : Pass τ α) (hq : q ∈ passes) : beats q n = false :=
          Bool.eq_false_iff.mpr fun h => hkeep (htrans (hp.best q hq) h)
        rw [if_neg hkeep]
        refine ⟨n, rfl, fun q hq => ?_, passes, [], rfl, hbetter⟩
        rcases List.mem_append.mp hq with hq | hq
        · have hno : ¬ beats q n = true := Bool.eq_false_iff.mp (hbetter q hq)
          exact (htotal q (by simp [hq]) n (by simp)).resolve_left hno
        · exact List.mem_singleton.mp hq ▸ hself

theorem exists_firstBest_of_map {β γ : Type} {g : β → γ} {beats : γ → γ → Bool} {all : List β} {p : γ}
    (h : FirstBest beats (all.map g) p) :
    ∃ a, g a = p ∧ FirstBest (fun a b => beats (g a) (g b)) all a := by
  obtain ⟨before, after, hall, hbefore⟩ := h.first
  obtain ⟨first, rest, rfl, rfl, hrest⟩ := List.map_eq_append_iff.mp hall
  obtain ⟨a, last, rfl, rfl, rfl⟩ := List.map_eq_cons_iff.mp hrest
  exact ⟨a, rfl, fun b hb => h.best (g b) (List.mem_map_of_mem hb), first, last, rfl,
    fun b hb => hbefore (g b) (List.mem_map_of_mem hb)⟩

end Pick

/-! ## Passes and records -/

/-- A pass with the place in the catalog of the record whose scan has found it. -/
structure Offer (τ α : Type) where
  place : ℕ
  pass : Pass τ α

variable {τ α : Type} [Scalar α] [Timeline τ α]

/-- The passes of a scan in order of time, as `run` lists them, each with its place. -/
def offers (f : NameFilter) (c : Criteria α) (o : Options τ α)
    (catalog : List (Except CatalogError (Ephemeris τ α))) : List (Offer τ α) :=
  (catalog.zipIdx.flatMap fun e => (entryPasses f c o e.1).map (Offer.mk e.2)).mergeSort
    fun a b => o.order.precedes a.pass b.pass

variable {f : NameFilter} {c : Criteria α} {o : Options τ α}
  {catalog : List (Except CatalogError (Ephemeris τ α))}

theorem map_pass_offers : (offers f c o catalog).map Offer.pass =
    (catalog.flatMap (entryPasses f c o)).mergeSort o.order.precedes := by
  unfold offers
  rw [List.map_mergeSort (s := o.order.precedes) (fun _ _ _ _ => rfl), List.map_flatMap]
  have hpass (e : Except CatalogError (Ephemeris τ α) × ℕ) :
      ((entryPasses f c o e.1).map (Offer.mk e.2)).map Offer.pass = entryPasses f c o e.1 := by
    rw [List.map_map]
    exact List.map_id _
  simp only [hpass]
  rw [← List.flatMap_map, List.zipIdx_map_fst]

theorem mem_offers {a : Offer τ α} (h : a ∈ offers f c o catalog) :
    ∃ entry, catalog[a.place]? = some entry ∧ a.pass ∈ entryPasses f c o entry := by
  unfold offers at h
  obtain ⟨⟨entry, place⟩, hentry, ha⟩ := List.mem_flatMap.mp (List.mem_mergeSort.mp h)
  obtain ⟨p, hp, rfl⟩ := List.mem_map.mp ha
  exact ⟨entry, List.mem_zipIdx_iff_getElem?.mp hentry, hp⟩

/-- A pass is reported under the name of the satellite that makes it. -/
theorem satellite_of_mem {e : Ephemeris τ α} {p : Pass τ α} (h : p ∈ entryPasses f c o (.ok e)) :
    p.satellite = listedName e := by
  obtain ⟨e', passes, he, -, hpasses, hp⟩ := mem_entryPasses h
  obtain rfl := Except.ok.inj he
  obtain ⟨y, -, hfound⟩ := found_of_mem hpasses hp
  obtain ⟨minutes, s, -, -, rfl⟩ := upcoming_of_found hfound
  rfl

/-- A scan that does not fail has a filter, loads all entries, and lists what they offer. -/
theorem offers_of_run [PatternReader] {found : Found τ α} (h : run catalog c o = .ok found) :
    ∃ f, NameFilter.ofCriteria? c = some f ∧ (∀ entry ∈ catalog, ∃ e, entry = .ok e) ∧
      (offers f c o catalog).map Offer.pass = found.passes := by
  cases hf : NameFilter.ofCriteria? c with
  | none =>
    unfold run at h
    rw [hf] at h
    cases h
  | some f =>
    rw [run_eq hf] at h
    cases hfault : catalog.findSome? (entryFault f c o) with
    | some cause =>
      rw [hfault] at h
      cases h
    | none =>
      rw [hfault] at h
      cases h
      refine ⟨f, rfl, fun entry hentry => ?_, map_pass_offers⟩
      cases entry with
      | ok e => exact ⟨e, rfl⟩
      | error cause => cases List.findSome?_eq_none_iff.mp hfault _ hentry

end PassSearch

namespace Catalog

open Binary64 (le_iff value)
open PassSearch

/-! ## By pass and by name -/

/-- What the pass of the satellite to track is to be. -/
inductive Preference where
  | next
  | best

namespace Preference

/-- The word that asks for it. -/
def word : Preference → String
  | next => "next"
  | best => "best"

/-- The first pass is at least as good as the second one. -/
def beats {τ : Type} : Preference → Pass τ Float → Pass τ Float → Bool
  | next, p, q => decide (p.minutesAway ≤ q.minutesAway)
  | best, p, q => decide (q.maxElevationDeg ≤ p.maxElevationDeg)

variable {τ : Type} (w : Preference) {p q r : Pass τ Float}

/-- The pass that is chosen of a scan. -/
def pick : Preference → Found τ Float → Option (Pass τ Float)
  | next => Found.soonest
  | best => Found.best

theorem pick_eq (found : Found τ Float) : w.pick found = Found.pick w.beats found.passes := by
  cases w <;> rfl

theorem beats_trans (hpq : w.beats p q = true) (hqr : w.beats q r = true) : w.beats p r = true := by
  cases w with
  | next => exact precedes_trans .soonestFirst p q r hpq hqr
  | best =>
    have hpq' := of_decide_eq_true hpq
    have hqr' := of_decide_eq_true hqr
    exact decide_eq_true (LawfulScalar.le_trans hqr' hpq')

/-- The passes of a scan can be compared. -/
theorem beats_total [Timeline τ Float] {f : NameFilter} {c : Criteria Float}
    {o : Options τ Float} {catalog : List (Except CatalogError (Ephemeris τ Float))}
    (hp : p ∈ catalog.flatMap (entryPasses f c o)) (hq : q ∈ catalog.flatMap (entryPasses f c o)) :
    w.beats p q = true ∨ w.beats q p = true := by
  obtain ⟨_, -, hp⟩ := List.mem_flatMap.mp hp
  obtain ⟨_, -, hq⟩ := List.mem_flatMap.mp hq
  cases w with
  | next =>
    have htotal := precedes_total .soonestFirst (minutesAway_nonneg hp) (minutesAway_nonneg hq)
    exact (Bool.or_eq_true _ _).mp htotal
  | best =>
    have hp' := maxElevationDeg_defined hp
    have hq' := maxElevationDeg_defined hq
    rcases le_total (value q.maxElevationDeg) (value p.maxElevationDeg) with h | h
    · exact .inl (decide_eq_true (le_iff.mpr ⟨hq', hp', h⟩))
    · exact .inr (decide_eq_true (le_iff.mpr ⟨hp', hq', h⟩))

end Preference

/-- The record that a name stands for: the first that bears it, or else the first whose name begins with
it. -/
def lookup (records : List Record) (name : String) : Option Record :=
  (records.find? fun r => r.name = name).or
    (records.find? fun r => name.toList.isPrefixOf r.name.toList)

/-- The name under which the passes of a record are listed. -/
def Record.listedName (r : Record) : String := String.ofList (Text.trimEnd r.name.toList)

/-- A record is found by the name under which its passes are listed, if not itself, then another one. -/
theorem exists_lookup {records : List Record} {r : Record} (h : r ∈ records) :
    ∃ used ∈ records, lookup records r.listedName = some used := by
  have hprefix : (records.find? fun r' => r.listedName.toList.isPrefixOf r'.name.toList) ≠ none := by
    intro hnone
    obtain ⟨w, -, hw⟩ := Text.exists_trimEnd r.name.toList
    refine List.find?_eq_none.mp hnone r h (List.isPrefixOf_iff_prefix.mpr ⟨w, ?_⟩)
    unfold Record.listedName
    rw [String.toList_ofList, ← hw]
  obtain ⟨used, hused⟩ := Option.ne_none_iff_exists'.mp hprefix
  unfold lookup
  cases hfind : records.find? fun r' => r'.name = r.listedName with
  | some r' => exact ⟨r', List.mem_of_find?_eq_some hfind, rfl⟩
  | none => exact ⟨used, List.mem_of_find?_eq_some hused, hused⟩

/-- **A name stands for the first record that bears it**, if it does not end in blanks. -/
theorem lookup_first {records : List Record} {i : ℕ} {r used : Record} (h : records[i]? = some r)
    (htrim : r.listedName = r.name) (hused : lookup records r.listedName = some used) :
    ∃ j ≤ i, records[j]? = some used ∧ used.name = r.name ∧
      ∀ k < j, ∀ r', records[k]? = some r' → r'.name ≠ r.name := by
  rw [htrim] at hused
  obtain ⟨hi, hr⟩ := List.getElem?_eq_some_iff.mp h
  unfold lookup at hused
  cases hfind : records.find? fun r' => r'.name = r.name with
  | none =>
    have hno := List.find?_eq_none.mp hfind r (List.mem_of_getElem? h)
    exact absurd (decide_eq_true rfl) hno
  | some r' =>
    rw [hfind] at hused
    obtain rfl := Option.some.inj hused
    obtain ⟨hname, j, hj, rfl, hearlier⟩ := List.find?_eq_some_iff_getElem.mp hfind
    have hothers (k : ℕ) (hk : k < j) (r' : Record) (hr' : records[k]? = some r') :
        r'.name ≠ r.name := by
      obtain ⟨_, rfl⟩ := List.getElem?_eq_some_iff.mp hr'
      simpa using hearlier k hk
    refine ⟨j, Nat.le_of_not_lt fun hlt => ?_, List.getElem?_eq_getElem hj, of_decide_eq_true hname,
      hothers⟩
    exact hothers i hlt r h rfl

section Select

variable {τ σ : Type} [Timeline τ Float] {records : List Record}
  {build : Record → Except CatalogError σ} {seen : σ → Ephemeris τ Float} {criteria : Criteria Float}
  {start : τ}

/-- The entries of a scan. -/
def entries (records : List Record) (build : Record → Except CatalogError σ)
    (seen : σ → Ephemeris τ Float) : List (Except CatalogError (Ephemeris τ Float)) :=
  records.map fun r => (build r).map seen

section Outcome

variable [PatternReader] {w : Preference} {found : Found τ Float} {p : Pass τ Float} {r : Record}
  {cause : PredictionError Float}

/-! A satellite is selected by a scan, the choice of a pass, and a search for the name of that pass. -/

theorem select_of_error
    (h : run (entries records build seen) criteria (.standard start criteria) = .error cause) :
    select records build seen criteria start w.word = .error (.prediction cause) := by
  unfold entries at h
  cases w <;> simp [select, Preference.word, h, Except.mapError, Bind.bind, Except.bind]

theorem select_of_none
    (h : run (entries records build seen) criteria (.standard start criteria) = .ok found)
    (hpick : w.pick found = none) :
    select records build seen criteria start w.word = .error .noPass := by
  unfold entries at h
  unfold Preference.pick at hpick
  cases w <;> simp [select, Preference.word, h, hpick, Except.mapError, Bind.bind, Except.bind]

theorem select_of_some
    (h : run (entries records build seen) criteria (.standard start criteria) = .ok found)
    (hpick : w.pick found = some p) (hr : lookup records p.satellite = some r) :
    select records build seen criteria start w.word = (build r).mapError .catalog := by
  unfold entries at h
  unfold Preference.pick at hpick
  unfold lookup at hr
  rcases Option.or_eq_some_iff.mp hr with hfind | ⟨hnone, hfind⟩
  · cases w <;>
      simp [select, Preference.word, h, hpick, hfind, Except.mapError, Bind.bind, Except.bind]
  · cases w <;>
      simp [select, Preference.word, h, hpick, hnone, find, hfind, Except.mapError, Bind.bind, Except.bind]

end Outcome

/-- **The pass that is chosen is the first best one of a scan.** -/
theorem exists_best_offer [PatternReader] {found : Found τ Float}
    {catalog : List (Except CatalogError (Ephemeris τ Float))} {o : Options τ Float} (h : run catalog criteria o = .ok found) (hsome : found.passes ≠ [])
    (w : Preference) :
    ∃ f a, NameFilter.ofCriteria? criteria = some f ∧
      (offers f criteria o catalog).map Offer.pass = found.passes ∧
      FirstBest (fun a b => w.beats a.pass b.pass) (offers f criteria o catalog) a ∧
      w.pick found = some a.pass := by
  obtain ⟨f, hf, -, hpasses⟩ := offers_of_run h
  have hlisted : found.passes.Perm (catalog.flatMap (entryPasses f criteria o)) := by
    rw [← hpasses, map_pass_offers]
    exact List.mergeSort_perm _ _
  have htotal (p : Pass τ Float) (hp : p ∈ found.passes) (q : Pass τ Float) (hq : q ∈ found.passes) :
      w.beats p q = true ∨ w.beats q p = true :=
    w.beats_total (hlisted.mem_iff.mp hp) (hlisted.mem_iff.mp hq)
  obtain ⟨p, hpick, hbest⟩ :=
    (@pick_spec _ _ w.beats _ w.beats_trans htotal).resolve_left fun hnone => hsome hnone.1
  rw [← hpasses] at hbest
  obtain ⟨a, rfl, ha⟩ := exists_firstBest_of_map hbest
  exact ⟨f, a, hf, hpasses, ha, (w.pick_eq found).trans hpick⟩

/-- An offer is that of the record at its place, and is made under the name of that record. -/
theorem record_of_offer (hname : ∀ r s, build r = .ok s → (seen s).name = r.name) {f : NameFilter}
    {o : Options τ Float} {a : Offer τ Float}
    (h : a ∈ offers f criteria o (entries records build seen)) :
    ∃ r, records[a.place]? = some r ∧ a.pass.satellite = r.listedName := by
  obtain ⟨entry, hentry, hfound⟩ := mem_offers h
  unfold entries at hentry
  rw [List.getElem?_map] at hentry
  obtain ⟨r, hr, rfl⟩ := Option.map_eq_some_iff.mp hentry
  obtain ⟨e, -, he, -⟩ := mem_entryPasses hfound
  obtain ⟨s, hs, rfl⟩ := map_eq_ok_iff.mp he
  rw [he] at hfound
  refine ⟨r, hr, (satellite_of_mem hfound).trans ?_⟩
  unfold listedName Record.listedName
  rw [hname r s hs]

/-- A scan that does not fail has loaded all records. -/
theorem build_of_run [PatternReader] {o : Options τ Float} {found : Found τ Float}
    (h : run (entries records build seen) criteria o = .ok found) {r : Record} (hr : r ∈ records) :
    ∃ s, build r = .ok s := by
  obtain ⟨-, -, hload, -⟩ := offers_of_run h
  obtain ⟨e, he⟩ := hload _ (List.mem_map_of_mem hr)
  obtain ⟨s, hs, -⟩ := map_eq_ok_iff.mp he
  exact ⟨s, hs⟩

variable (records build seen criteria start)

/-- What is tracked for the next or the best pass. -/
structure SelectionLaw [PatternReader] (w : Preference) : Prop where
  failed : ∀ cause, run (entries records build seen) criteria (.standard start criteria) = .error cause →
    select records build seen criteria start w.word = .error (.prediction cause)
  none : ∀ found, run (entries records build seen) criteria (.standard start criteria) = .ok found →
    found.passes = [] → select records build seen criteria start w.word = .error .noPass
  /-- The pass is the first best one.  What is tracked is the record to which its name leads.  For a name
  that does not end in blanks that is the first record of the name, and so it is the record whose scan has
  found the pass unless an earlier one bears the same name. -/
  tracked : ∀ found, run (entries records build seen) criteria (.standard start criteria) = .ok found →
    found.passes ≠ [] → ∃ f a r used s, NameFilter.ofCriteria? criteria = some f ∧
      let all := offers f criteria (.standard start criteria) (entries records build seen)
      all.map Offer.pass = found.passes ∧ FirstBest (fun a b => w.beats a.pass b.pass) all a ∧
        records[a.place]? = some r ∧ lookup records r.listedName = some used ∧ build used = .ok s ∧
        select records build seen criteria start w.word = .ok s ∧
        (r.listedName = r.name →
          (∃ j ≤ a.place, records[j]? = some used ∧ used.name = r.name ∧
            ∀ k < j, ∀ r', records[k]? = some r' → r'.name ≠ r.name) ∧
          ((∀ k < a.place, ∀ r', records[k]? = some r' → r'.name ≠ r.name) → used = r))

variable {build seen}

/-- **The law of the selection.**  Whatever the catalog, the criteria and the time of the search are, and
whatever is made of a record, as long as it keeps the name of the record. -/
theorem pass_selection_law [PatternReader] (hname : ∀ r s, build r = .ok s → (seen s).name = r.name)
    (w : Preference) : SelectionLaw records build seen criteria start w where
  failed cause h := select_of_error h
  none found h hnone := by
    refine select_of_none h ?_
    rw [Preference.pick_eq, hnone]
    rfl
  tracked found h hsome := by
    obtain ⟨f, a, hf, hpasses, ha, hpick⟩ := exists_best_offer h hsome w
    obtain ⟨r, hr, hsatellite⟩ := record_of_offer hname ha.mem
    obtain ⟨used, husedMem, hused⟩ := exists_lookup (List.mem_of_getElem? hr)
    obtain ⟨s, hs⟩ := build_of_run h husedMem
    have hselect := select_of_some h hpick (hsatellite ▸ hused)
    rw [hs] at hselect
    refine ⟨f, a, r, used, s, hf, hpasses, ha, hr, hused, hs, hselect, fun htrim => ?_⟩
    obtain ⟨j, hj, husedAt, hbears, hearlier⟩ := lookup_first hr htrim hused
    refine ⟨⟨j, hj, husedAt, hbears, hearlier⟩, fun halone => ?_⟩
    obtain rfl : j = a.place := Nat.le_antisymm hj (Nat.le_of_not_lt fun hlt =>
      halone j hlt used husedAt hbears)
    exact Option.some.inj (husedAt.symm.trans hr)

end Select

/-! ## Two records of one name -/

/-- A record of a satellite above the altitudes that are looked at. -/
def upper : Record := ⟨"ZERO", "1 90007", "2 90007"⟩

/-- A record of the same name, for a satellite below. -/
def lower : Record := ⟨"ZERO", "1 90006", "2 90006"⟩

/-- Both are up from the first minute to the second. -/
def sighted (r : Record) : Ephemeris Instant Float where
  name := r.name
  observe t :=
    .ok ⟨180, if 60000000 ≤ t.micros ∧ t.micros ≤ 120000000 then 10 else -30,
      if r = upper then 2000 else 500, 0⟩

def belowUpper : Criteria Float := { Criteria.standard with maxAltitudeKm := 1200, maxMinutes := 10 }

/-- The law holds of both of them, for the next pass, and there is one. -/
theorem pass_selection_law_namesakes :
    letI := PatternReader.words
    (∀ r s : Record, (.ok r : Except CatalogError Record) = .ok s → (sighted s).name = r.name) ∧
      SelectionLaw [upper, lower] .ok sighted belowUpper ⟨0⟩ .next ∧
      ∃ found, run (entries [upper, lower] .ok sighted) belowUpper (.standard ⟨0⟩ belowUpper) =
        .ok found ∧ found.passes ≠ [] := by
  let := PatternReader.words
  have hname (r s : Record) (h : (.ok r : Except CatalogError Record) = .ok s) :
      (sighted s).name = r.name := by
    cases h
    rfl
  have hsome : ((run (entries [upper, lower] .ok sighted) belowUpper
      (.standard ⟨0⟩ belowUpper)).toOption.any fun found => !found.passes.isEmpty) = true := by
    decide +kernel
  refine ⟨hname, pass_selection_law [upper, lower] belowUpper ⟨0⟩ hname .next, ?_⟩
  cases hrun : run (entries [upper, lower] .ok sighted) belowUpper (.standard ⟨0⟩ belowUpper) with
  | error cause =>
    rw [hrun] at hsome
    cases hsome
  | ok found =>
    rw [hrun] at hsome
    exact ⟨found, rfl, by simpa [Except.toOption] using hsome⟩

/-- **A namesake is tracked**: the only pass is that of the second record, and the satellite of the first
one is selected for it. -/
theorem namesake_tracked :
    letI := PatternReader.words
    (offers ⟨none, true⟩ belowUpper (.standard ⟨0⟩ belowUpper)
        (entries [upper, lower] .ok sighted)).map Offer.place = [1] ∧
      select [upper, lower] .ok sighted belowUpper ⟨0⟩ "next" = .ok upper ∧ upper ≠ lower := by
  let := PatternReader.words
  have hselected : (match select [upper, lower] .ok sighted belowUpper ⟨0⟩ "next" with
      | .ok r => decide (r = upper)
      | .error _ => false) = true := by decide +kernel
  refine ⟨by decide +kernel, ?_, by decide⟩
  split at hselected
  · rename_i r hr
    rw [hr, of_decide_eq_true hselected]
  · cases hselected

end Catalog

end EarthStation
