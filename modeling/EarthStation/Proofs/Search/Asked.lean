import EarthStation.PassSearch

/-!
# Asked — a scan told by the questions that it asks

* `PassSearch.asked`: the offsets at which the scan of one satellite asks for the next pass.
* `PassSearch.onward`: the offset at which it goes on behind a question, with `PassSearch.asked_succ`.
* `PassSearch.passesFrom_eq`: the scan fails with the first failure among the answers that is not
  forgiven, and otherwise finds the passes among the answers.
* `PassSearch.foldlM_scan`, `PassSearch.run_eq`: a catalog is scanned entry by entry; no entry sees what
  the others left.
-/

namespace EarthStation

variable {τ α : Type} [Scalar α] [Timeline τ α]

/-- Holds of failures that end a scan of the catalog.  The others end the scan of one satellite only. -/
def PredictionError.ends : PredictionError α → Bool
  | .propagation _ => false
  | .sweepIncomplete _ => false
  | _ => true

namespace PassSearch

/-! ## One satellite -/

/-- The answer to the question for the next pass at an offset. -/
def ask (e : Ephemeris τ α) (o : Options τ α) (x : α) :
    Except (PredictionError α) (EarthStation.Pass.Next τ α) :=
  EarthStation.Pass.next e (Timeline.later o.start x) (o.windowMinutes - x) o.stepMinutes

/-- The pass that the answer at an offset adds to the list. -/
def foundAt (e : Ephemeris τ α) (name : String) (c : Criteria α) (o : Options τ α) (x : α) :
    Option (Pass τ α) :=
  match ask e o x with
  | .ok (.upcoming minutes s) =>
    if admits c (x + minutes) s then some (Pass.ofSummary name (x + minutes) s) else none
  | _ => none

/-- The failure with which the answer at an offset ends the scan of the catalog. -/
def faultAt (e : Ephemeris τ α) (o : Options τ α) (x : α) : Option (PredictionError α) :=
  match ask e o x with
  | .ok _ => none
  | .error cause => if cause.ends then some cause else none

/-- The offsets, from `x` on, at which a scan asks for the next pass. -/
def asked (e : Ephemeris τ α) (c : Criteria α) (o : Options τ α) : (fuel : Nat) → (x : α) → List α
  | 0, _ => []
  | fuel + 1, x =>
    if x < o.windowMinutes then
      x :: match ask e o x with
        | .ok (.upcoming minutes s) =>
          if admits c (x + minutes) s && !o.findAll then []
          else asked e c o fuel (x + (minutes + gapMinutes))
        | .ok (.inProgress since) =>
          asked e c o fuel (x + Scalar.max (gapMinutes - since) o.stepMinutes)
        | .ok .notFound => []
        | .error _ => []
    else []

/-- The offset at which a scan goes on behind the question at `x`, or `none` if that is the last one. -/
def onward (e : Ephemeris τ α) (c : Criteria α) (o : Options τ α) (x : α) : Option α :=
  match ask e o x with
  | .ok (.upcoming minutes s) =>
    if admits c (x + minutes) s && !o.findAll then none else some (x + (minutes + gapMinutes))
  | .ok (.inProgress since) => some (x + Scalar.max (gapMinutes - since) o.stepMinutes)
  | .ok .notFound => none
  | .error _ => none

/-- What comes of a list of questions. -/
def answer (e : Ephemeris τ α) (name : String) (c : Criteria α) (o : Options τ α) (xs : List α) :
    Except (PredictionError α) (List (Pass τ α)) :=
  match xs.findSome? (faultAt e o) with
  | some cause => .error cause
  | none => .ok (xs.filterMap (foundAt e name c o))

variable {e : Ephemeris τ α} {name : String} {c : Criteria α} {o : Options τ α} {x : α}

/-- What comes of questions without a fatal answer is what they find. -/
theorem eq_found_of_answer {xs : List α} {passes : List (Pass τ α)}
    (h : answer e name c o xs = .ok passes) : passes = xs.filterMap (foundAt e name c o) := by
  unfold answer at h
  split at h
  · cases h
  · exact (Except.ok.inj h).symm

/-- A question without a fatal answer adds what it finds to the rest. -/
theorem answer_cons (hfault : faultAt e o x = none) (xs : List α) :
    answer e name c o (x :: xs) =
      (answer e name c o xs).map ((foundAt e name c o x).toList ++ ·) := by
  unfold answer
  rw [List.findSome?_cons, hfault, List.filterMap_cons]
  dsimp only
  cases xs.findSome? (faultAt e o) with
  | some cause => rfl
  | none => cases foundAt e name c o x <;> rfl

theorem answer_single (hfault : faultAt e o x = none) (hfound : foundAt e name c o x = none) :
    answer e name c o [x] = .ok [] := by
  rw [answer_cons hfault, hfound]
  rfl

theorem map_nil_append {ε β : Type} (r : Except ε (List β)) : r.map ([] ++ ·) = r := by
  cases r <;> rfl

section Answers

variable {y minutes since : α} {s : EarthStation.Pass.Summary τ α}

theorem faultAt_of_ok {next : EarthStation.Pass.Next τ α} (h : ask e o x = .ok next) :
    faultAt e o x = none := by
  unfold faultAt
  rw [h]

theorem foundAt_of_upcoming (h : ask e o x = .ok (.upcoming minutes s)) :
    foundAt e name c o x = if admits c (x + minutes) s then
      some (Pass.ofSummary name (x + minutes) s) else none := by
  unfold foundAt
  rw [h]

theorem foundAt_of_inProgress (h : ask e o x = .ok (.inProgress since)) :
    foundAt e name c o x = none := by
  unfold foundAt
  rw [h]

theorem foundAt_of_notFound (h : ask e o x = .ok .notFound) : foundAt e name c o x = none := by
  unfold foundAt
  rw [h]

/-- A scan goes on behind a rise, or behind a pass in progress. -/
theorem onward_cases (h : onward e c o x = some y) :
    (∃ minutes s, ask e o x = .ok (.upcoming minutes s) ∧ y = x + (minutes + gapMinutes)) ∨
      ∃ since, ask e o x = .ok (.inProgress since) ∧
        y = x + Scalar.max (gapMinutes - since) o.stepMinutes := by
  unfold onward at h
  split at h
  · rename_i minutes s hanswer
    split at h
    · cases h
    · exact Or.inl ⟨minutes, s, hanswer, (Option.some.inj h).symm⟩
  · rename_i since hanswer
    exact Or.inr ⟨since, hanswer, (Option.some.inj h).symm⟩
  · cases h
  · cases h

theorem asked_succ (fuel : Nat) (x : α) :
    asked e c o (fuel + 1) x = if x < o.windowMinutes then
      x :: match onward e c o x with
        | some y => asked e c o fuel y
        | none => []
      else [] := by
  rw [asked]
  unfold onward
  cases ask e o x with
  | error cause => rfl
  | ok next =>
    cases next with
    | notFound => rfl
    | inProgress since => rfl
    | upcoming minutes s =>
      dsimp only
      cases admits c (x + minutes) s && !o.findAll <;> rfl

/-- A scan goes on only where its question was answered. -/
theorem faultAt_of_onward (h : onward e c o x = some y) : faultAt e o x = none := by
  rcases onward_cases h with ⟨minutes, s, hanswer, -⟩ | ⟨since, hanswer, -⟩
  · exact faultAt_of_ok hanswer
  · exact faultAt_of_ok hanswer

/-- A failure ends the scan: the one of the catalog, or the one of the satellite. -/
theorem answer_of_error {cause : PredictionError α} (h : ask e o x = .error cause) :
    answer e name c o [x] = if cause.ends then .error cause else .ok [] := by
  have hfound : foundAt e name c o x = none := by
    unfold foundAt
    rw [h]
  have hfault : faultAt e o x = if cause.ends then some cause else none := by
    unfold faultAt
    rw [h]
  by_cases hends : cause.ends
  · rw [if_pos hends] at hfault ⊢
    unfold answer
    rw [List.findSome?_cons, hfault]
  · rw [if_neg hends] at hfault ⊢
    exact answer_single hfault hfound

end Answers

/-- **A scan is its questions and their answers.** -/
theorem passesFrom_eq (e : Ephemeris τ α) (name : String) (c : Criteria α) (o : Options τ α)
    (fuel : Nat) (x : α) : passesFrom e name c o fuel x = answer e name c o (asked e c o fuel x) := by
  induction fuel generalizing x with
  | zero => rfl
  | succ fuel ih =>
    rw [passesFrom, asked]
    by_cases hx : x < o.windowMinutes
    · rw [if_pos hx, if_pos hx]
      have hask : EarthStation.Pass.next e (Timeline.later o.start x) (o.windowMinutes - x)
        o.stepMinutes = ask e o x := rfl
      rw [hask]
      cases hanswer : ask e o x with
      | error cause =>
        dsimp only
        rw [answer_of_error hanswer]
        cases cause <;> rfl
      | ok next =>
        have hfault := faultAt_of_ok hanswer
        cases next with
        | notFound => exact (answer_single hfault (foundAt_of_notFound hanswer)).symm
        | inProgress since =>
          dsimp only
          rw [ih, answer_cons hfault, foundAt_of_inProgress hanswer]
          exact (map_nil_append _).symm
        | upcoming minutes s =>
          have hfound : foundAt e name c o x = _ := foundAt_of_upcoming hanswer
          dsimp only
          by_cases hadmits : admits c (x + minutes) s
          · rw [if_pos hadmits] at hfound ⊢
            cases hall : o.findAll with
            | true =>
              rw [if_neg (by simp), if_neg (by simp), ih, answer_cons hfault, hfound]
              rfl
            | false =>
              rw [if_pos (by simp), if_pos (by simp [hadmits]), answer_cons hfault, hfound]
              rfl
          · rw [if_neg hadmits] at hfound ⊢
            rw [if_neg (by simp), if_neg (by simp [hadmits]), ih, answer_cons hfault, hfound]
            rfl
    · rw [if_neg hx, if_neg hx]
      rfl

/-! ## A catalog -/

/-- Holds of the entries whose passes are looked for. -/
def isChecked (f : NameFilter) (c : Criteria α) (o : Options τ α) :
    Except CatalogError (Ephemeris τ α) → Bool
  | .error _ => false
  | .ok e => isCandidate f c o e

/-- The failure with which an entry ends a scan. -/
def entryFault (f : NameFilter) (c : Criteria α) (o : Options τ α) :
    Except CatalogError (Ephemeris τ α) → Option (PredictionError α)
  | .error cause => some (.catalog cause)
  | .ok e =>
    if isCandidate f c o e then
      match passesOf e (listedName e) c o with
      | .error cause => some cause
      | .ok _ => none
    else none

/-- The passes that an entry adds to a scan: all of them, or none if its passes are not looked for. -/
def entryPasses (f : NameFilter) (c : Criteria α) (o : Options τ α) :
    Except CatalogError (Ephemeris τ α) → List (Pass τ α)
  | .error _ => []
  | .ok e => if isCandidate f c o e then (passesOf e (listedName e) c o).toOption.getD [] else []

variable {f : NameFilter}

theorem mem_entryPasses {entry : Except CatalogError (Ephemeris τ α)} {p : Pass τ α}
    (h : p ∈ entryPasses f c o entry) :
    ∃ e passes, entry = .ok e ∧ isCandidate f c o e = true ∧
      passesOf e (listedName e) c o = .ok passes ∧ p ∈ passes := by
  cases entry with
  | error cause => cases h
  | ok e =>
    unfold entryPasses at h
    by_cases hcandidate : isCandidate f c o e
    · simp only [if_pos hcandidate] at h
      cases hpasses : passesOf e (listedName e) c o with
      | error cause =>
        rw [hpasses] at h
        cases h
      | ok passes =>
        rw [hpasses] at h
        exact ⟨e, passes, rfl, hcandidate, hpasses, h⟩
    · simp only [if_neg hcandidate] at h
      cases h

/-- A pass of a scan that does not fail was found at one of its offsets. -/
theorem found_of_mem {fuel : Nat} {passes : List (Pass τ α)}
    (h : passesFrom e name c o fuel x = .ok passes) {p : Pass τ α} (hp : p ∈ passes) :
    ∃ y ∈ asked e c o fuel x, foundAt e name c o y = some p := by
  rw [passesFrom_eq] at h
  obtain rfl := eq_found_of_answer h
  exact List.mem_filterMap.mp hp

theorem scan_eq (found : Found τ α) (entry : Except CatalogError (Ephemeris τ α)) :
    scan f c o found entry = match entryFault f c o entry with
      | some cause => .error cause
      | none => .ok ⟨found.passes ++ entryPasses f c o entry, found.scanned + 1,
          found.checked + if isChecked f c o entry then 1 else 0⟩ := by
  cases entry with
  | error cause => rfl
  | ok e =>
    unfold scan entryFault entryPasses isChecked
    dsimp only
    by_cases hcandidate : isCandidate f c o e
    · simp only [if_pos hcandidate]
      cases passesOf e (listedName e) c o <;> rfl
    · simp only [if_neg hcandidate, List.append_nil, Nat.add_zero]

/-- **The entries of a catalog are scanned one by one**, and what they add is put together. -/
theorem foldlM_scan (catalog : List (Except CatalogError (Ephemeris τ α))) (found : Found τ α) :
    catalog.foldlM (scan f c o) found = match catalog.findSome? (entryFault f c o) with
      | some cause => .error cause
      | none => .ok ⟨found.passes ++ catalog.flatMap (entryPasses f c o),
          found.scanned + catalog.length, found.checked + catalog.countP (isChecked f c o)⟩ := by
  induction catalog generalizing found with
  | nil => simp [pure, Except.pure]
  | cons entry rest ih =>
    rw [List.foldlM_cons, scan_eq, List.findSome?_cons]
    cases entryFault f c o entry with
    | some cause => rfl
    | none =>
      dsimp only
      change rest.foldlM (scan f c o) _ = _
      rw [ih]
      cases rest.findSome? (entryFault f c o) with
      | some cause => rfl
      | none =>
        dsimp only
        have hchecked : found.checked + (if isChecked f c o entry then 1 else 0) +
            rest.countP (isChecked f c o) = found.checked + (entry :: rest).countP (isChecked f c o) := by
          rw [List.countP_cons]
          omega
        have hscanned : found.scanned + 1 + rest.length = found.scanned + (entry :: rest).length := by
          rw [List.length_cons]
          omega
        rw [hchecked, hscanned, List.append_assoc, List.flatMap_cons]

/-- A run fails with the failure of the first entry that has one; otherwise it sorts what the entries
add. -/
theorem run_eq [PatternReader] (hf : NameFilter.ofCriteria? c = some f)
    (catalog : List (Except CatalogError (Ephemeris τ α))) :
    run catalog c o = match catalog.findSome? (entryFault f c o) with
      | some cause => .error cause
      | none => .ok ⟨(catalog.flatMap (entryPasses f c o)).mergeSort o.order.precedes,
          catalog.length, catalog.countP (isChecked f c o)⟩ := by
  unfold run
  rw [hf]
  dsimp only
  rw [foldlM_scan]
  cases catalog.findSome? (entryFault f c o) with
  | some cause => rfl
  | none =>
    simp only [List.nil_append, Nat.zero_add]
    rfl

end PassSearch

end EarthStation
