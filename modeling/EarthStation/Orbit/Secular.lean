import EarthStation.Orbit.Elements

/-!
# Secular — mean orbits, their slow turning and the drag

* `Orbit.Gravity`: the field of the Earth.
* `Orbit.Mean`: a mean orbit at its epoch, with the mean motion freed of the oblateness that element
  sets have in it.
* `Orbit.Rates`: how the oblateness turns an orbit.
* `Orbit.Drag`: how the air changes one.

Lengths are in Earth radii, times in minutes, angles in radians.
-/

namespace EarthStation.Orbit

/-- The power of a positive number. -/
def power (x y : Float) : Float := x.pow y

def square (x : Float) : Float := x * x

namespace Gravity

/-- The equatorial radius in kilometres. -/
def radius : Float := 6378.137

/-- The square root of the gravitational parameter. -/
def ke : Float := 0.07436685316871385

def j2 : Float := 0.00108262998905

def j3 : Float := -0.00000253215306

def j4 : Float := -0.00000161098761

end Gravity

def twoPi : Float := 2.0 * Instant.pi

/-- The remainder of an angle by a full turn, with the sign of the angle. -/
def turns (x : Float) : Float := Binary64.remainder x twoPi

/-- A mean orbit at its epoch. -/
structure Mean where
  /-- Years from the beginning of 2000 to the epoch. -/
  epochYears : Float
  /-- The sidereal angle at the epoch. -/
  sidereal : Float
  inclination : Float
  node : Float
  eccentricity : Float
  perigee : Float
  anomaly : Float
  /-- Radians a minute. -/
  motion : Float
  drag : Float

namespace Mean

/-- The semi-major axis that belongs to a mean motion. -/
def axisOf (motion : Float) : Float := power (Gravity.ke / motion) (2.0 / 3.0)

def axis (o : Mean) : Float := axisOf o.motion

def cosI (o : Mean) : Float := o.inclination.cos

def sinI (o : Mean) : Float := o.inclination.sin

/-- One less the square of the eccentricity. -/
def betaSquared (o : Mean) : Float := 1.0 - square o.eccentricity

/-- The mean motion of an element set without the oblateness that is in it. -/
def freedMotion (motion inclination eccentricity : Float) : Float :=
  let betaSquared := 1.0 - square eccentricity
  let axis := axisOf motion
  let d1 := 0.75 * Gravity.j2 * (3.0 * square inclination.cos - 1.0)
    / (betaSquared.sqrt * betaSquared)
  let d0 := d1 / square axis
  let adjusted := axis * (1.0 - d0 * d0 - d0 * (1.0 / 3.0 + 134.0 * d0 * d0 / 81.0))
  motion / (1.0 + d1 / square adjusted)

/-- The mean orbit of an element set. -/
def ofElements (e : Elements) : Except Elements.Fault Mean :=
  let radians (degrees : Float) : Float := degrees * (Instant.pi / 180.0)
  let motion := e.meanMotion * (Instant.pi / 720.0)
  if motion ≤ 0.0 then .error .meanMotion
  else if e.eccentricity < 0.0 || e.eccentricity ≥ 1.0 then .error .eccentricity
  else
    let freed := freedMotion motion (radians e.inclination) e.eccentricity
    if freed ≤ 0.0 then .error .meanMotion
    else
      let years := Instant.julianYearsOfNanos e.epochNanos
      .ok
        { epochYears := years
          sidereal := Instant.siderealOfYears years
          inclination := radians e.inclination
          node := radians e.ascendingNode
          eccentricity := e.eccentricity
          perigee := radians e.perigee
          anomaly := radians e.meanAnomaly
          motion := freed
          drag := e.drag }

end Mean

/-- How fast the angles of an orbit grow by the oblateness of the Earth. -/
structure Rates where
  anomaly : Float
  perigee : Float
  node : Float
  /-- The leading term of the rate of the node. -/
  nodeLeading : Float

/-- The secular rates of a mean orbit. -/
def Rates.ofMean (o : Mean) : Rates :=
  let c2 := square o.cosI
  let c4 := c2 * c2
  let inverse := 1.0 / square (o.axis * o.betaSquared)
  let t1 := 1.5 * Gravity.j2 * inverse * o.motion
  let t2 := 0.5 * t1 * Gravity.j2 * inverse
  let t3 := -0.46875 * Gravity.j4 * inverse * inverse * o.motion
  let leading := -t1 * o.cosI
  { anomaly :=
      o.motion + 0.5 * t1 * o.betaSquared.sqrt * (3.0 * c2 - 1.0)
        + 0.0625 * t2 * o.betaSquared.sqrt * (13.0 - 78.0 * c2 + 137.0 * c4)
    perigee :=
      -0.5 * t1 * (1.0 - 5.0 * c2) + 0.0625 * t2 * (7.0 - 114.0 * c2 + 395.0 * c4)
        + t3 * (3.0 - 36.0 * c2 + 49.0 * c4)
    node := leading + (0.5 * t2 * (4.0 - 19.0 * c2) + 2.0 * t3 * (3.0 - 7.0 * c2)) * o.cosI
    nodeLeading := leading }

/-- The drag terms of an orbit that stays close to the Earth. -/
structure NearDrag where
  d2 : Float
  d3 : Float
  d4 : Float
  c5 : Float
  eta : Float
  /-- `(1 + eta cos M) ^ 3` at the epoch. -/
  anomalyTerm : Float
  sinAnomaly : Float
  perigeeFactor : Float
  anomalyFactor : Float
  l3 : Float
  l4 : Float
  l5 : Float

/-- How the air changes an orbit. -/
structure Drag where
  c1 : Float
  c4 : Float
  nodeFactor : Float
  l2 : Float
  /-- Missing for orbits that dip deep into the air, and for those far out. -/
  near : Option NearDrag

/-- The drag terms of a mean orbit; `far` orbits have the leading ones only. -/
def Drag.ofMean (o : Mean) (rates : Rates) (far : Bool) : Drag :=
  let a := o.axis
  let e := o.eccentricity
  let c2 := square o.cosI
  let j2 := Gravity.j2
  let perigeeRadius := a * (1.0 - e)
  let height := (perigeeRadius - 1.0) * Gravity.radius
  let boundary :=
    if height < 98.0 then 20.0 else if height < 156.0 then height - 78.0 else 78.0
  let s := boundary / Gravity.radius + 1.0
  let q := square (square ((120.0 - boundary) / Gravity.radius))
  let xi := 1.0 / (a - s)
  let eta := a * e * xi
  let eta2 := eta * eta
  let eeta := e * eta
  let psi2 := (1.0 - eta2).abs
  let k := q * square (square xi)
  let k1 := k / power psi2 3.5
  let con41 := 3.0 * c2 - 1.0
  let x1mth2 := 1.0 - c2
  let cc2 := k1 * o.motion
    * (a * (1.0 + 1.5 * eta2 + eeta * (4.0 + eta2))
      + 0.375 * j2 * xi / psi2 * con41 * (8.0 + 3.0 * eta2 * (8.0 + eta2)))
  let c1 := o.drag * cc2
  let eccentric : Bool := e > 1e-4
  let cc3 :=
    if eccentric then -2.0 * k * xi * (Gravity.j3 / j2) * o.motion * o.sinI / e else 0.0
  let c4 := 2.0 * o.motion * k1 * a * o.betaSquared
    * (eta * (2.0 + 0.5 * eta2) + e * (0.5 + 2.0 * eta2)
      - j2 * xi / (a * psi2)
        * (-3.0 * con41 * (1.0 - 2.0 * eeta + eta2 * (1.5 - 0.5 * eeta))
          + 0.75 * x1mth2 * (2.0 * eta2 - eeta * (1.0 + eta2)) * (2.0 * o.perigee).cos))
  let near : Option NearDrag :=
    if far || perigeeRadius < 220.0 / Gravity.radius + 1.0 then none
    else
      let c1sq := c1 * c1
      let d2 := 4.0 * a * xi * c1sq
      let t := d2 * xi * c1 / 3.0
      let d3 := (17.0 * a + s) * t
      let d4 := 0.5 * t * a * xi * (221.0 * a + 31.0 * s) * c1
      some
        { d2, d3, d4
          c5 := 2.0 * k1 * a * o.betaSquared * (1.0 + 2.75 * (eta2 + eeta) + eeta * eta2)
          eta
          anomalyTerm := power (1.0 + eta * o.anomaly.cos) 3.0
          sinAnomaly := o.anomaly.sin
          perigeeFactor := o.drag * cc3 * o.perigee.cos
          anomalyFactor := if eccentric then -2.0 / 3.0 * k * o.drag / eeta else 0.0
          l3 := d2 + 2.0 * c1sq
          l4 := 0.25 * (3.0 * d3 + c1 * (12.0 * d2 + 10.0 * c1sq))
          l5 := 0.2 * (3.0 * d4 + 12.0 * c1 * d3 + 6.0 * d2 * d2
            + 15.0 * c1sq * (2.0 * d2 + c1sq)) }
  { c1, c4
    nodeFactor := 3.5 * o.betaSquared * rates.nodeLeading * c1
    l2 := 1.5 * c1
    near }

end EarthStation.Orbit
