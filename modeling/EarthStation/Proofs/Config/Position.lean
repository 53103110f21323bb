import EarthStation.Config

/-!
# Position — another latitude or longitude for the station

* `Site.Reads`: the latitude and the longitude that a text says.
* `Site.replaced`: a place with the coordinates that are given instead of its own.
* `StationSection.place`: a section with a place in its separate values, with the laws of reading a place
  and writing it (`site_place`, `place_site`, `place_place`).
* `StationSection.overridePosition_eq`: what an override comes to.
* `StationSection.overridePosition_bind`: two overrides are one, in which the later one counts.
* `StationSection.position_law`: an override replaces what is given and keeps the rest.
-/

namespace EarthStation

/-! ## Places -/

namespace Site

/-- The first two pieces of a text, cut at commas, are a latitude and a longitude. -/
def Reads (text : String) (latitude longitude : Float) : Prop :=
  ∃ first second rest, Text.split ',' text.toList = first :: second :: rest ∧
    Decimal.readFloat? (Text.trim first) = some latitude ∧
    Decimal.readFloat? (Text.trim second) = some longitude

theorem ofCoordinates?_eq_some_iff {text : String} {altitude : Float} {site : Site} :
    ofCoordinates? text altitude = some site ↔
      Reads text site.latitudeDeg site.longitudeDeg ∧ site.altitudeM = altitude := by
  unfold ofCoordinates? Reads
  constructor
  · intro h
    split at h
    · rename_i first second rest hsplit
      obtain ⟨latitude, hfirst, h⟩ := Option.bind_eq_some_iff.mp h
      obtain ⟨longitude, hsecond, h⟩ := Option.bind_eq_some_iff.mp h
      obtain rfl := Option.some.inj h
      exact ⟨⟨first, second, rest, hsplit, hfirst, hsecond⟩, rfl⟩
    · cases h
  · rintro ⟨⟨first, second, rest, hsplit, hfirst, hsecond⟩, rfl⟩
    rw [hsplit]
    simp only [hfirst, hsecond]
    rfl

theorem ofCoordinates?_eq_none_iff {text : String} {altitude : Float} :
    ofCoordinates? text altitude = none ↔ ¬ ∃ latitude longitude, Reads text latitude longitude := by
  rw [Option.eq_none_iff_forall_ne_some]
  constructor
  · rintro h ⟨latitude, longitude, hreads⟩
    exact h ⟨latitude, longitude, altitude⟩ (ofCoordinates?_eq_some_iff.mpr ⟨hreads, rfl⟩)
  · intro h site hread
    exact h ⟨_, _, (ofCoordinates?_eq_some_iff.mp hread).1⟩

/-- The place with the coordinates that are given instead of its own. -/
def replaced (site : Site) (latitude longitude : Option Float) : Site :=
  { site with
    latitudeDeg := latitude.getD site.latitudeDeg
    longitudeDeg := longitude.getD site.longitudeDeg }

theorem replaced_none (site : Site) : site.replaced none none = site := rfl

/-- Of two coordinates that are given the later one counts. -/
theorem replaced_replaced (site : Site) (latitude longitude latitude' longitude' : Option Float) :
    (site.replaced latitude longitude).replaced latitude' longitude' =
      site.replaced (latitude'.or latitude) (longitude'.or longitude) := by
  cases latitude' <;> cases longitude' <;> rfl

end Site

namespace Config.StationSection

variable {s : StationSection} {site : Site}

/-! ## Reading a place and writing it -/

/-- The section with a place in its separate values.  The altitude stays. -/
def place (s : StationSection) (site : Site) : StationSection :=
  { s with
    coordinates := none
    latitudeDeg := site.latitudeDeg
    longitudeDeg := site.longitudeDeg }

/-- What was written is read, but for the altitude. -/
theorem site_place (s : StationSection) (site : Site) :
    (s.place site).site = .ok { site with altitudeM := s.altitudeM } := rfl

/-- Writing what is read changes nothing where the values are separate. -/
theorem place_site (hseparate : s.coordinates = none) (h : s.site = .ok site) :
    s.place site = s := by
  unfold StationSection.site at h
  rw [hseparate] at h
  obtain rfl := Except.ok.inj h
  unfold place
  rw [← hseparate]

theorem place_place (s : StationSection) (a b : Site) : (s.place a).place b = s.place b := rfl

theorem altitudeM_of_site (h : s.site = .ok site) : site.altitudeM = s.altitudeM := by
  unfold StationSection.site at h
  split at h
  · split at h
    · rename_i hread
      obtain rfl := Except.ok.inj h
      exact (Site.ofCoordinates?_eq_some_iff.mp hread).2
    · cases h
  · obtain rfl := Except.ok.inj h
    rfl

/-- **There is no place** just if it is given as a text that says none. -/
theorem site_eq_error_iff {flaw : Flaw} :
    s.site = .error flaw ↔ ∃ text, s.coordinates = some text ∧ flaw = .coordinates text ∧
      ¬ ∃ latitude longitude, Site.Reads text latitude longitude := by
  constructor
  · intro h
    unfold StationSection.site at h
    split at h
    · rename_i text hcoordinates
      split at h
      · cases h
      · rename_i hread
        exact ⟨text, hcoordinates, (Except.error.inj h).symm, Site.ofCoordinates?_eq_none_iff.mp hread⟩
    · cases h
  · rintro ⟨text, hcoordinates, rfl, hnone⟩
    have hread : Site.ofCoordinates? text s.altitudeM = none := Site.ofCoordinates?_eq_none_iff.mpr hnone
    simp only [StationSection.site, hcoordinates, hread]

/-! ## Overriding -/

/-- A place that is given as a text is moved to the separate values, if it can be read. -/
theorem separate_eq (s : StationSection) :
    separate s = match s.site with
      | .ok site => (.ok (), s.place site)
      | .error flaw => (.error flaw, s) := by
  unfold separate
  rw [Exchange.run_bind_of_ok (Exchange.run_get s)]
  cases hcoordinates : s.coordinates with
  | none =>
    have hsite : s.site = .ok ⟨s.latitudeDeg, s.longitudeDeg, s.altitudeM⟩ := by
      unfold StationSection.site
      rw [hcoordinates]
    rw [hsite]
    show _ = (Except.ok (), s.place _)
    rw [place_site hcoordinates hsite]
    rfl
  | some text =>
    cases hsite : s.site <;> rfl

/-- Nothing is done where nothing is given, whether there is a place or not. -/
theorem overridePosition_none (s : StationSection) :
    overridePosition none none s = (.ok (), s) := rfl

/-- **What an override comes to.**  The place is read first, and nothing is written if that fails. -/
theorem overridePosition_eq {latitude longitude : Option Float}
    (hgiven : latitude.isSome ∨ longitude.isSome) (s : StationSection) :
    overridePosition latitude longitude s = match s.site with
      | .ok site => (.ok (), s.place (site.replaced latitude longitude))
      | .error flaw => (.error flaw, s) := by
  have hor : (latitude.isSome || longitude.isSome) = true := by simpa using hgiven
  unfold overridePosition
  rw [if_pos hor, Exchange.run_bind, separate_eq]
  cases s.site with
  | error flaw => rfl
  | ok site => cases latitude <;> cases longitude <;> rfl

/-- **Two overrides are one**, in which the later one counts. -/
theorem overridePosition_bind (latitude longitude latitude' longitude' : Option Float) :
    (overridePosition latitude longitude >>= fun _ => overridePosition latitude' longitude') =
      overridePosition (latitude'.or latitude) (longitude'.or longitude) := by
  funext s
  rw [Exchange.run_bind]
  by_cases hgiven : latitude.isSome ∨ longitude.isSome
  · have hor : (latitude'.or latitude).isSome ∨ (longitude'.or longitude).isSome := by
      simp only [Option.isSome_or, Bool.or_eq_true]
      exact hgiven.imp Or.inr Or.inr
    rw [overridePosition_eq hgiven, overridePosition_eq hor]
    cases s.site with
    | error flaw => rfl
    | ok site =>
      show overridePosition latitude' longitude' _ = (Except.ok (), _)
      rw [← Site.replaced_replaced]
      by_cases hgiven' : latitude'.isSome ∨ longitude'.isSome
      · rw [overridePosition_eq hgiven', site_place]
        rfl
      · obtain ⟨rfl, rfl⟩ : latitude' = none ∧ longitude' = none := by simpa using hgiven'
        rw [overridePosition_none, Site.replaced_none]
  · obtain ⟨rfl, rfl⟩ : latitude = none ∧ longitude = none := by simpa using hgiven
    rw [overridePosition_none, Option.or_none, Option.or_none]

/-- **An override replaces what is given and keeps the rest.**  It changes nothing if nothing is given, and
neither does it if the place is given as a text that cannot be read, which is the only reason to fail.
Otherwise the place is the one from before with the coordinates that are given, at the same altitude.
It does not matter in which order they are given. -/
theorem position_law (s : StationSection) (latitude longitude : Option Float) :
    overridePosition none none s = (.ok (), s) ∧
    (∀ flaw s', overridePosition latitude longitude s = (.error flaw, s') ↔
      (latitude.isSome ∨ longitude.isSome) ∧ s' = s ∧
        ∃ text, s.coordinates = some text ∧ flaw = .coordinates text ∧
          ¬ ∃ φ θ, Site.Reads text φ θ) ∧
    (∀ s', overridePosition latitude longitude s = (.ok (), s') →
      s'.site = s.site.map fun site => site.replaced latitude longitude) ∧
    (overridePosition latitude none >>= fun _ => overridePosition none longitude) s =
      overridePosition latitude longitude s ∧
    (overridePosition none longitude >>= fun _ => overridePosition latitude none) s =
      overridePosition latitude longitude s := by
  refine ⟨overridePosition_none s, fun flaw s' => ?_, fun s' h => ?_, ?_, ?_⟩
  · rw [← site_eq_error_iff]
    by_cases hgiven : latitude.isSome ∨ longitude.isSome
    · rw [overridePosition_eq hgiven]
      cases s.site with
      | ok site => simp
      | error flaw' =>
        simp only [Prod.mk.injEq, Except.error.injEq, hgiven, true_and, eq_comm (a := s)]
        exact And.comm
    · obtain ⟨rfl, rfl⟩ : latitude = none ∧ longitude = none := by simpa using hgiven
      simp [overridePosition_none]
  · by_cases hgiven : latitude.isSome ∨ longitude.isSome
    · rw [overridePosition_eq hgiven] at h
      cases hsite : s.site with
      | error flaw =>
        rw [hsite] at h
        cases h
      | ok site =>
        rw [hsite] at h
        cases h
        rw [site_place, ← altitudeM_of_site hsite]
        rfl
    · obtain ⟨rfl, rfl⟩ : latitude = none ∧ longitude = none := by simpa using hgiven
      cases h
      cases s.site <;> rfl
  · rw [overridePosition_bind, Option.none_or, Option.or_none]
  · rw [overridePosition_bind, Option.none_or, Option.or_none]

/-- The longitude of a place that is given as a text is replaced, and its latitude stays. -/
theorem position_law_west :
    ∃ s', overridePosition none (some (-73.6)) ⟨none, some "51.05, -114.07", 0, 0, 1045⟩ =
        (.ok (), s') ∧
      s'.site = .ok ⟨51.05, -73.6, 1045⟩ := by
  obtain ⟨-, -, hplace, -⟩ :=
    position_law ⟨none, some "51.05, -114.07", 0, 0, 1045⟩ none (some (-73.6))
  exact ⟨_, rfl, hplace _ rfl⟩

end Config.StationSection

end EarthStation
