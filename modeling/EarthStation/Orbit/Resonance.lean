import EarthStation.Orbit.ThirdBody

/-!
# Resonance — orbits in step with the turning Earth

* `Orbit.Resonance`: the coefficients for orbits of one day or of half a day.
* `Orbit.Resonance.ofMean`: which of them an orbit has.
* `Orbit.Resonance.integrate`: the mean motion and the mean longitude after a time.

The equations are integrated in steps of half a day from the epoch.
-/

namespace EarthStation.Orbit

/-- Radians a minute by which the Earth turns under the stars. -/
def siderealRate : Float := 4.37526908801129966e-3

/-- The coefficients of the resonance terms. -/
inductive ResonanceTerms where
  | oneDay (del1 del2 del3 : Float)
  | halfDay (d2201 d2211 d3210 d3222 d4410 d4422 d5220 d5232 d5421 d5433 : Float)

/-- A resonance: its coefficients, the longitude at the epoch and the rate at which the longitude
grows beside the mean motion. -/
structure Resonance where
  terms : ResonanceTerms
  longitude : Float
  rate : Float

namespace Resonance

/-- The resonance of an orbit of one day. -/
def oneDay (o : Mean) (r : Rates) (d : Drift) : Resonance :=
  let e2 := square o.eccentricity
  let cosI := o.cosI
  let g200 := 1.0 + e2 * (-2.5 + 0.8125 * e2)
  let g310 := 1.0 + 2.0 * e2
  let g300 := 1.0 + e2 * (-6.0 + 6.60937 * e2)
  let f220 := 0.75 * square (1.0 + cosI)
  let f311 := 0.9375 * square o.sinI * (1.0 + 3.0 * cosI) - 0.75 * (1.0 + cosI)
  let f330 := 1.875 * (1.0 + cosI) * square (1.0 + cosI)
  let inverse := power (o.motion / Gravity.ke) (2.0 / 3.0)
  let del := 3.0 * square o.motion * square inverse
  { terms :=
      .oneDay (del * f311 * g310 * 2.1460748e-6 * inverse) (2.0 * del * f220 * g200 * 1.7891679e-6)
        (3.0 * del * f330 * g300 * 2.2123015e-7 * inverse)
    longitude := turns (o.anomaly + o.node + o.perigee - o.sidereal)
    rate :=
      r.anomaly + (r.perigee + r.node) - siderealRate + d.anomaly + d.perigee + d.node
        - o.motion }

/-- The resonance of an eccentric orbit of half a day. -/
def halfDay (o : Mean) (r : Rates) (d : Drift) : Resonance :=
  let e := o.eccentricity
  let e2 := square e
  let e3 := e * e2
  let cosI := o.cosI
  let cos2 := square cosI
  let sinI := o.sinI
  let sin2 := square sinI
  let p (c0 c1 c2 c3 : Float) : Float := c0 + c1 * e + c2 * e2 + c3 * e3
  let g201 := -0.306 - (e - 0.64) * 0.440
  let low : Bool := e ≤ 0.65
  let g211 :=
    if low then 3.616 - 13.2470 * e + 16.2900 * e2
    else p (-72.099) 331.819 (-508.738) 266.724
  let g310 :=
    if low then p (-19.302) 117.3900 (-228.4190) 156.5910
    else p (-346.844) 1582.851 (-2415.925) 1246.113
  let g322 :=
    if low then p (-18.9068) 109.7927 (-214.6334) 146.5816
    else p (-342.585) 1554.908 (-2366.899) 1215.972
  let g410 :=
    if low then p (-41.122) 242.6940 (-471.0940) 313.9530
    else p (-1052.797) 4758.686 (-7193.992) 3651.957
  let g422 :=
    if low then p (-146.407) 841.8800 (-1629.014) 1083.4350
    else p (-3581.690) 16178.110 (-24462.770) 12422.520
  let g520 :=
    if low then p (-532.114) 3017.977 (-5740.032) 3708.2760
    else if e < 0.715 then 1464.74 - 4664.75 * e + 3763.64 * e2
    else p (-5149.66) 29936.92 (-54087.36) 31324.56
  let high : Bool := e ≥ 0.7
  let g533 :=
    if high then p (-37995.780) 161616.52 (-229838.20) 109377.94
    else p (-919.22770) 4988.6100 (-9064.7700) 5542.21
  let g521 :=
    if high then p (-51752.104) 218913.95 (-309468.16) 146349.42
    else p (-822.71072) 4568.6173 (-8491.4146) 5337.524
  let g532 :=
    if high then p (-40023.880) 170470.89 (-242699.48) 115605.82
    else p (-853.66600) 4690.2500 (-8624.7700) 5341.4
  let f220 := 0.75 * (1.0 + 2.0 * cosI + cos2)
  let f221 := 1.5 * sin2
  let f321 := 1.875 * sinI * (1.0 - 2.0 * cosI - 3.0 * cos2)
  let f322 := -1.875 * sinI * (1.0 + 2.0 * cosI - 3.0 * cos2)
  let f441 := 35.0 * sin2 * f220
  let f442 := 39.3750 * sin2 * sin2
  let f522 := 9.84375 * sinI
    * (sin2 * (1.0 - 2.0 * cosI - 5.0 * cos2)
      + 0.33333333 * (-2.0 + 4.0 * cosI + 6.0 * cos2))
  let f523 := sinI
    * (4.92187512 * sin2 * (-2.0 - 4.0 * cosI + 10.0 * cos2)
      + 6.56250012 * (1.0 + 2.0 * cosI - 3.0 * cos2))
  let f542 := 29.53125 * sinI
    * (2.0 - 8.0 * cosI + cos2 * (-12.0 + 8.0 * cosI + 10.0 * cos2))
  let f543 := 29.53125 * sinI
    * (-2.0 - 8.0 * cosI + cos2 * (12.0 + 8.0 * cosI - 10.0 * cos2))
  let inverse := power (o.motion / Gravity.ke) (2.0 / 3.0)
  let k2 := 3.0 * square o.motion * square inverse
  let k3 := k2 * inverse
  let k4 := k3 * inverse
  let k5 := k4 * inverse
  let t2 := k2 * 1.7891679e-6
  let t3 := k3 * 3.7393792e-7
  let t4 := 2.0 * k4 * 7.3636953e-9
  let t52 := k5 * 1.1428639e-7
  let t54 := 2.0 * k5 * 2.1765803e-9
  { terms :=
      .halfDay (t2 * f220 * g201) (t2 * f221 * g211) (t3 * f321 * g310) (t3 * f322 * g322)
        (t4 * f441 * g410) (t4 * f442 * g422) (t52 * f522 * g520) (t52 * f523 * g532)
        (t54 * f542 * g521) (t54 * f543 * g533)
    longitude := turns (o.anomaly + o.node + o.node - o.sidereal - o.sidereal)
    rate :=
      r.anomaly + d.anomaly + 2.0 * (r.node + d.node - siderealRate) - o.motion }

/-- The resonance of an orbit, if its period is close to a day, or to half a day and its shape is
eccentric. -/
def ofMean (o : Mean) (r : Rates) (d : Drift) : Option Resonance :=
  if o.motion > 0.0034906585 && o.motion < 0.0052359877 then some (oneDay o r d)
  else if o.motion ≥ 8.26e-3 && o.motion ≤ 9.24e-3 && o.eccentricity ≥ 0.5 then
    some (halfDay o r d)
  else none

/-- The first two derivatives of the mean motion; `perigee` is the mean argument of the perigee at
the time. -/
def derivatives (terms : ResonanceTerms) (longitude longitudeRate perigee : Float) :
    Float × Float :=
  let l := longitude
  match terms with
  | .oneDay del1 del2 del3 =>
    let x1 := l - 0.13130908
    let x2 := 2.0 * (l - 2.8843198)
    let x3 := 3.0 * (l - 0.37448087)
    (del1 * x1.sin + del2 * x2.sin + del3 * x3.sin,
      (del1 * x1.cos + 2.0 * del2 * x2.cos + 3.0 * del3 * x3.cos) * longitudeRate)
  | .halfDay d2201 d2211 d3210 d3222 d4410 d4422 d5220 d5232 d5421 d5433 =>
    let p := perigee
    let p2 := perigee + perigee
    let l2 := l + l
    let g22 := 5.7686396
    let g32 := 0.95240898
    let g44 := 1.8014998
    let g52 := 1.0508330
    let g54 := 4.4108898
    (d2201 * (p2 + l - g22).sin + d2211 * (l - g22).sin + d3210 * (p + l - g32).sin
        + d3222 * (-p + l - g32).sin + d4410 * (p2 + l2 - g44).sin + d4422 * (l2 - g44).sin
        + d5220 * (p + l - g52).sin + d5232 * (-p + l - g52).sin + d5421 * (p + l2 - g54).sin
        + d5433 * (-p + l2 - g54).sin,
      (d2201 * (p2 + l - g22).cos + d2211 * (l - g22).cos + d3210 * (p + l - g32).cos
        + d3222 * (-p + l - g32).cos + d5220 * (p + l - g52).cos + d5232 * (-p + l - g52).cos
        + 2.0 * (d4410 * (p2 + l2 - g44).cos + d4422 * (l2 - g44).cos
          + d5421 * (p + l2 - g54).cos + d5433 * (-p + l2 - g54).cos)) * longitudeRate)

/-- The length of a step, in minutes. -/
def stepMinutes : Float := 720.0

/-- Steps on from `at_` minutes after the epoch to `t`, then extrapolates the rest; the answer is the
mean motion and the longitude. -/
def integrateFrom (q : Resonance) (o : Mean) (r : Rates) (t : Float) :
    (steps : Nat) → (at_ motion longitude : Float) → Float × Float
  | steps, at_, motion, longitude =>
    let longitudeRate := motion + q.rate
    let (first, second) :=
      derivatives q.terms longitude longitudeRate (o.perigee + r.perigee * at_)
    match steps with
    | 0 =>
      let rest := t - at_
      (motion + first * rest + second * rest * rest * 0.5,
        longitude + longitudeRate * rest + first * rest * rest * 0.5)
    | steps + 1 =>
      let delta := if t > 0.0 then stepMinutes else -stepMinutes
      let half := 0.5 * stepMinutes * stepMinutes
      integrateFrom q o r t steps (at_ + delta) (motion + first * delta + second * half)
        (longitude + longitudeRate * delta + first * half)

/-- The mean motion and the longitude, `t` minutes after the epoch. -/
def integrate (q : Resonance) (o : Mean) (r : Rates) (t : Float) : Float × Float :=
  let steps := (Binary64.nearest 0 9007199254740992 (t.abs / stepMinutes).floor).toNat
  integrateFrom q o r t steps 0.0 o.motion q.longitude

end Resonance

end EarthStation.Orbit
