import EarthStation.Geometry
import EarthStation.Orbit.Resonance

/-!
# Propagator — position and velocity on an orbit

* `Orbit.Propagator`: a mean orbit with all that its motion needs.
* `Orbit.Osculating`: the elements at an instant.
* `Orbit.Propagator.state`: position and velocity at an instant.

An orbit with a period of 225 minutes or more is disturbed by sun and moon.
-/

namespace EarthStation.Orbit

/-- Position in kilometres and velocity in kilometres a second, in the inertial frame of the
element sets. -/
structure State where
  position : Vec3 Float
  velocity : Vec3 Float

/-- Why an orbit has no position at an instant. -/
inductive Propagator.Fault where
  | span
  | eccentricity
  | semiLatusRectum
deriving DecidableEq, Repr

def Propagator.Fault.message : Propagator.Fault → String
  | span => "the time is too far from the epoch"
  | eccentricity => "the eccentricity left the range of closed orbits"
  | semiLatusRectum => "the semi-latus rectum is negative"

/-- What sun, moon and resonance add. -/
structure DeepSpace where
  sun : BodyTerms
  moon : BodyTerms
  drift : Drift
  resonance : Option Resonance

/-- A mean orbit with all that its motion needs. -/
structure Propagator where
  mean : Mean
  rates : Rates
  drag : Drag
  deep : Option DeepSpace

/-- The elements of an orbit at an instant. -/
structure Osculating where
  inclination : Float
  node : Float
  eccentricity : Float
  perigee : Float
  anomaly : Float
  axis : Float
  motion : Float

namespace Propagator

def ofElements (e : Elements) : Except Elements.Fault Propagator := do
  let mean ← Mean.ofElements e
  let rates := Rates.ofMean mean
  let far : Bool := twoPi / mean.motion ≥ 225.0
  let deep :=
    if far then
      let sun := (Body.sun mean).terms mean
      let moon := (Body.moon mean).terms mean
      let drift := Drift.ofBodies mean sun moon
      some { sun, moon, drift, resonance := Resonance.ofMean mean rates drift }
    else none
  pure { mean, rates, drag := Drag.ofMean mean rates far, deep }

/-- The mean elements that grow with the time, before sun and moon. -/
structure Growing where
  perigee : Float
  anomaly : Float
  node : Float
  /-- The factor of the semi-major axis, before it is squared. -/
  axisFactor : Float
  eccentricityLoss : Float
  longitudeGain : Float

/-- The growth of the elements by oblateness and drag, `t` minutes after the epoch. -/
def growing (p : Propagator) (t : Float) : Growing :=
  let o := p.mean
  let d := p.drag
  let t2 := t * t
  let anomaly := o.anomaly + p.rates.anomaly * t
  let perigee := o.perigee + p.rates.perigee * t
  let node := o.node + p.rates.node * t + d.nodeFactor * t2
  match d.near with
  | none =>
    { perigee, anomaly, node
      axisFactor := 1.0 - d.c1 * t
      eccentricityLoss := o.drag * d.c4 * t
      longitudeGain := d.l2 * t2 }
  | some k =>
    let shift := k.perigeeFactor * t
      + k.anomalyFactor * (power (1.0 + k.eta * anomaly.cos) 3.0 - k.anomalyTerm)
    let anomaly := anomaly + shift
    let t3 := t2 * t
    let t4 := t3 * t
    { perigee := perigee - shift
      anomaly, node
      axisFactor := 1.0 - d.c1 * t - k.d2 * t2 - k.d3 * t3 - k.d4 * t4
      eccentricityLoss := o.drag * d.c4 * t + o.drag * k.c5 * (anomaly.sin - k.sinAnomaly)
      longitudeGain := d.l2 * t2 + k.l3 * t3 + t4 * (k.l4 + t * k.l5) }

/-- Adds the periodic disturbances by sun and moon.  Close to the equatorial plane node and perigee
are moved together, since neither is well defined by itself. -/
def disturb (d : DeepSpace) (mean : Mean) (t : Float) (o : Osculating) : Osculating :=
  let k := (d.sun.periodics mean t).add (d.moon.periodics mean t)
  let inclination := o.inclination + k.inclination
  let eccentricity := o.eccentricity + k.eccentricity
  let sinI := inclination.sin
  let cosI := inclination.cos
  if inclination ≥ 0.2 then
    let node := k.node / sinI
    { o with
      inclination, eccentricity
      perigee := o.perigee + (k.perigee - cosI * node)
      node := o.node + node
      anomaly := o.anomaly + k.longitude }
  else
    let sinN := o.node.sin
    let cosN := o.node.cos
    let a := sinI * sinN + (k.node * cosN + k.inclination * cosI * sinN)
    let b := sinI * cosN + (-k.node * sinN + k.inclination * cosI * cosN)
    let before := turns o.node
    let longitude := o.anomaly + o.perigee + cosI * before
      + (k.longitude + k.perigee - k.inclination * before * sinI)
    let after := a.atan2 b
    let after :=
      if (before - after).abs > Instant.pi then
        (if after < before then after + twoPi else after - twoPi)
      else after
    let anomaly := o.anomaly + k.longitude
    { o with
      inclination, eccentricity
      node := after
      anomaly
      perigee := longitude - anomaly - cosI * after }

/-- A negative inclination is the positive one seen from the other node. -/
def upright (o : Osculating) : Osculating :=
  if o.inclination < 0.0 then
    { o with
      inclination := -o.inclination
      node := o.node + Instant.pi
      perigee := o.perigee - Instant.pi }
  else o

/-- The elements `t` minutes after the epoch. -/
def osculating (p : Propagator) (t : Float) : Except Fault Osculating :=
  let mean := p.mean
  let g := p.growing t
  let (o, motion) : Osculating × Float :=
    match p.deep with
    | none =>
      ({ inclination := mean.inclination
         node := g.node
         eccentricity := mean.eccentricity
         perigee := g.perigee
         anomaly := g.anomaly
         axis := 0.0
         motion := 0.0 }, mean.motion)
    | some d =>
      let node := g.node + d.drift.node * t
      let perigee := g.perigee + d.drift.perigee * t
      let anomaly := g.anomaly + d.drift.anomaly * t
      let sidereal := turns (mean.sidereal + t * siderealRate)
      let (anomaly, motion) : Float × Float :=
        match d.resonance with
        | none => (anomaly, mean.motion)
        | some q =>
          let (motion, longitude) := q.integrate mean p.rates t
          match q.terms with
          | .oneDay .. => (longitude - node - perigee + sidereal, motion)
          | .halfDay .. => (longitude - 2.0 * node + 2.0 * sidereal, motion)
      ({ inclination := mean.inclination + d.drift.inclination * t
         node
         eccentricity := mean.eccentricity + d.drift.eccentricity * t
         perigee
         anomaly
         axis := 0.0
         motion := 0.0 }, motion)
  let axis := Mean.axisOf motion * square g.axisFactor
  let eccentricity := o.eccentricity - g.eccentricityLoss
  if eccentricity ≥ 1.0 || eccentricity < -0.001 then .error .eccentricity
  else
    let eccentricity := if eccentricity < 1e-6 then 1e-6 else eccentricity
    let anomaly := o.anomaly + mean.motion * g.longitudeGain
    let longitude := turns (anomaly + o.perigee + o.node)
    let node := turns o.node
    let perigee := turns o.perigee
    let o : Osculating :=
      { inclination := o.inclination
        node, eccentricity, perigee
        anomaly := turns (longitude - perigee - node)
        axis
        motion := Gravity.ke / power axis 1.5 }
    match p.deep with
    | none => .ok o
    | some d =>
      let o := upright (disturb d mean t o)
      if o.eccentricity < 0.0 || o.eccentricity > 1.0 then .error .eccentricity else .ok o

/-- Solves Kepler's equation for the eccentric longitude by at most `rounds` Newton steps, each cut
to 0.95. -/
def kepler (u ax ay : Float) : (rounds : Nat) → Float → Float
  | 0, e => e
  | rounds + 1, e =>
    let s := e.sin
    let c := e.cos
    let step := (u - ay * c + ax * s - e) / (1.0 - c * ax - s * ay)
    let step := if step ≥ 0.95 then 0.95 else if step ≤ -0.95 then -0.95 else step
    if step.abs < 1e-12 then e + step else kepler u ax ay rounds (e + step)

/-- The factor of the long-period term of the longitude, which is kept finite for orbits against the
turning of the Earth. -/
def longPeriodFactor (sinI cosI : Float) : Float :=
  let ratio := -0.25 * (Gravity.j3 / Gravity.j2)
  let below := if (cosI + 1.0).abs > 1.5e-12 then 1.0 + cosI else 1.5e-12
  ratio * sinI * (3.0 + 5.0 * cosI) / below

/-- Position and velocity for elements, with the periodic terms of the oblateness. -/
def place (o : Osculating) : Except Fault State :=
  let sinI := o.inclination.sin
  let cosI := o.inclination.cos
  let cos2 := cosI * cosI
  let con41 := 3.0 * cos2 - 1.0
  let x1mth2 := 1.0 - cos2
  let x7thm1 := 7.0 * cos2 - 1.0
  let beta := 1.0 / (o.axis * (1.0 - o.eccentricity * o.eccentricity))
  let ax := o.eccentricity * o.perigee.cos
  let ay := o.eccentricity * o.perigee.sin
    + beta * (-0.5 * (Gravity.j3 / Gravity.j2) * sinI)
  let longitude := o.anomaly + o.perigee + o.node + beta * longPeriodFactor sinI cosI * ax
  let u := turns (longitude - o.node)
  let e := kepler u ax ay 10 u
  let s := e.sin
  let c := e.cos
  let ecose := ax * c + ay * s
  let esine := ax * s - ay * c
  let el2 := ax * ax + ay * ay
  let pl := o.axis * (1.0 - el2)
  if pl < 0.0 then .error .semiLatusRectum
  else
    let rl := o.axis * (1.0 - ecose)
    let rdotl := o.axis.sqrt * esine / rl
    let rvdotl := pl.sqrt / rl
    let betal := (1.0 - el2).sqrt
    let k := esine / (1.0 + betal)
    let sinu := o.axis / rl * (s - ay - ax * k)
    let cosu := o.axis / rl * (c - ax + ay * k)
    let sin2u := (cosu + cosu) * sinu
    let cos2u := 1.0 - 2.0 * sinu * sinu
    let k1 := 0.5 * Gravity.j2 / pl
    let k2 := k1 / pl
    let r := rl * (1.0 - 1.5 * k2 * betal * con41) + 0.5 * k1 * x1mth2 * cos2u
    let su := sinu.atan2 cosu - 0.25 * k2 * x7thm1 * sin2u
    let node := o.node + 1.5 * k2 * cosI * sin2u
    let inclination := o.inclination + 1.5 * k2 * cosI * sinI * cos2u
    let rdot := rdotl - o.motion * k1 * x1mth2 * sin2u / Gravity.ke
    let rvdot := rvdotl + o.motion * k1 * (x1mth2 * cos2u + 1.5 * con41) / Gravity.ke
    let mx := -node.sin * inclination.cos
    let my := node.cos * inclination.cos
    let ux := mx * su.sin + node.cos * su.cos
    let uy := my * su.sin + node.sin * su.cos
    let uz := inclination.sin * su.sin
    let vx := mx * su.cos - node.cos * su.sin
    let vy := my * su.cos - node.sin * su.sin
    let vz := inclination.sin * su.cos
    let speed := Gravity.radius * Gravity.ke / 60.0
    .ok
      { position := ⟨r * ux * Gravity.radius, r * uy * Gravity.radius, r * uz * Gravity.radius⟩
        velocity :=
          ⟨(rdot * ux + rvdot * vx) * speed, (rdot * uy + rvdot * vy) * speed,
            (rdot * uz + rvdot * vz) * speed⟩ }

/-- Position and velocity `t` minutes after the epoch. -/
def state (p : Propagator) (t : Float) : Except Fault State := do
  place (← p.osculating t)

end Propagator

end EarthStation.Orbit
