import EarthStation.Orbit.Secular

/-!
# ThirdBody — how sun and moon disturb an orbit

* `Orbit.Body`: what enters of sun or moon.
* `Orbit.Body.terms`: the coefficients of a body's disturbance of a mean orbit.
* `Orbit.Periodics`: the disturbances that come and go.
* `Orbit.Drift`: the disturbances that add up.
-/

namespace EarthStation.Orbit

/-- Sun or moon: the direction of its orbit, its strength and its motion. -/
structure Body where
  sinG : Float
  cosG : Float
  sinI : Float
  cosI : Float
  sinH : Float
  cosH : Float
  strength : Float
  /-- Radians a minute. -/
  motion : Float
  eccentricity : Float
  /-- The mean anomaly at the epoch of the orbit. -/
  anomaly : Float

namespace Body

/-- Days from noon of 1899-12-31 to the epoch. -/
def day (o : Mean) : Float := (o.epochYears + 100.0) * 365.25

def sun (o : Mean) : Body where
  sinG := -0.98088458
  cosG := 0.1945905
  sinI := 0.39785416
  cosI := 0.91744867
  sinH := o.node.sin
  cosH := o.node.cos
  strength := 2.9864797e-6
  motion := 1.19459e-5
  eccentricity := 0.01675
  anomaly := turns (6.2565837 + 0.017201977 * day o)

def moon (o : Mean) : Body :=
  let lunarNode := turns (4.5236020 - 9.2422029e-4 * day o)
  let sinNode := lunarNode.sin
  let cosNode := lunarNode.cos
  let cosI := 0.91375164 - 0.03568096 * cosNode
  let sinI := (1.0 - cosI * cosI).sqrt
  let sinH := 0.089683511 * sinNode / sinI
  let cosH := (1.0 - sinH * sinH).sqrt
  let gamma := 5.8351514 + 0.0019443680 * day o
  let x := 0.39785416 * sinNode / sinI
  let y := cosH * cosNode + 0.91744867 * sinH * sinNode
  let g := gamma + x.atan2 y - lunarNode
  { sinG := g.sin
    cosG := g.cos
    sinI, cosI
    sinH := o.node.sin * cosH - o.node.cos * sinH
    cosH := cosH * o.node.cos + sinH * o.node.sin
    strength := 4.7968065e-7
    motion := 1.5835218e-4
    eccentricity := 0.05490
    anomaly := turns (4.7199672 + 0.22997150 * day o - gamma) }

end Body

/-- The coefficients of a body's disturbance of an orbit. -/
structure BodyTerms where
  body : Body
  s1 : Float
  s2 : Float
  s3 : Float
  s4 : Float
  s5 : Float
  s6 : Float
  s7 : Float
  z1 : Float
  z2 : Float
  z3 : Float
  z11 : Float
  z12 : Float
  z13 : Float
  z21 : Float
  z22 : Float
  z23 : Float
  z31 : Float
  z32 : Float
  z33 : Float

/-- The coefficients for a mean orbit. -/
def Body.terms (b : Body) (o : Mean) : BodyTerms :=
  let e2 := square o.eccentricity
  let beta2 := 1.0 - e2
  let beta := beta2.sqrt
  let sinI := o.sinI
  let cosI := o.cosI
  let sinP := o.perigee.sin
  let cosP := o.perigee.cos
  let a1 := b.cosG * b.cosH + b.sinG * b.cosI * b.sinH
  let a3 := -b.sinG * b.cosH + b.cosG * b.cosI * b.sinH
  let a7 := -b.cosG * b.sinH + b.sinG * b.cosI * b.cosH
  let a8 := b.sinG * b.sinI
  let a9 := b.sinG * b.sinH + b.cosG * b.cosI * b.cosH
  let a10 := b.cosG * b.sinI
  let a2 := cosI * a7 + sinI * a8
  let a4 := cosI * a9 + sinI * a10
  let a5 := -sinI * a7 + cosI * a8
  let a6 := -sinI * a9 + cosI * a10
  let x1 := a1 * cosP + a2 * sinP
  let x2 := a3 * cosP + a4 * sinP
  let x3 := -a1 * sinP + a2 * cosP
  let x4 := -a3 * sinP + a4 * cosP
  let x5 := a5 * sinP
  let x6 := a6 * sinP
  let x7 := a5 * cosP
  let x8 := a6 * cosP
  let z31 := 12.0 * x1 * x1 - 3.0 * x3 * x3
  let z32 := 24.0 * x1 * x2 - 6.0 * x3 * x4
  let z33 := 12.0 * x2 * x2 - 3.0 * x4 * x4
  let y1 := 3.0 * (a1 * a1 + a2 * a2) + z31 * e2
  let y2 := 6.0 * (a1 * a3 + a2 * a4) + z32 * e2
  let y3 := 3.0 * (a3 * a3 + a4 * a4) + z33 * e2
  let s3 := b.strength / o.motion
  let s2 := -0.5 * s3 / beta
  let s4 := s3 * beta
  { body := b
    s1 := -15.0 * o.eccentricity * s4
    s2, s3, s4
    s5 := x1 * x3 + x2 * x4
    s6 := x2 * x3 + x1 * x4
    s7 := x2 * x4 - x1 * x3
    z1 := y1 + y1 + beta2 * z31
    z2 := y2 + y2 + beta2 * z32
    z3 := y3 + y3 + beta2 * z33
    z11 := -6.0 * a1 * a5 + e2 * (-24.0 * x1 * x7 - 6.0 * x3 * x5)
    z12 := -6.0 * (a1 * a6 + a3 * a5)
      + e2 * (-24.0 * (x2 * x7 + x1 * x8) - 6.0 * (x3 * x6 + x4 * x5))
    z13 := -6.0 * a3 * a6 + e2 * (-24.0 * x2 * x8 - 6.0 * x4 * x6)
    z21 := 6.0 * a2 * a5 + e2 * (24.0 * x1 * x5 - 6.0 * x3 * x7)
    z22 := 6.0 * (a4 * a5 + a2 * a6)
      + e2 * (24.0 * (x2 * x5 + x1 * x6) - 6.0 * (x4 * x7 + x3 * x8))
    z23 := 6.0 * a4 * a6 + e2 * (24.0 * x2 * x6 - 6.0 * x4 * x8)
    z31, z32, z33 }

/-! ## Disturbances that come and go -/

/-- Changes of the elements of an orbit. -/
structure Periodics where
  eccentricity : Float
  inclination : Float
  longitude : Float
  perigee : Float
  node : Float

def Periodics.add (a b : Periodics) : Periodics where
  eccentricity := a.eccentricity + b.eccentricity
  inclination := a.inclination + b.inclination
  longitude := a.longitude + b.longitude
  perigee := a.perigee + b.perigee
  node := a.node + b.node

/-- The periodic changes by a body, `t` minutes after the epoch. -/
def BodyTerms.periodics (k : BodyTerms) (o : Mean) (t : Float) : Periodics :=
  let e2 := square o.eccentricity
  let m := k.body.anomaly + k.body.motion * t
  let f := m + 2.0 * k.body.eccentricity * m.sin
  let sinF := f.sin
  let f2 := 0.5 * sinF * sinF - 0.25
  let f3 := -0.5 * sinF * f.cos
  { eccentricity := 2.0 * k.s1 * k.s6 * f2 + 2.0 * k.s1 * k.s7 * f3
    inclination := 2.0 * k.s2 * k.z12 * f2 + 2.0 * k.s2 * (k.z13 - k.z11) * f3
    longitude :=
      -2.0 * k.s3 * k.z2 * f2 + -2.0 * k.s3 * (k.z3 - k.z1) * f3
        + -2.0 * k.s3 * (-21.0 - 9.0 * e2) * k.body.eccentricity * sinF
    perigee :=
      2.0 * k.s4 * k.z32 * f2 + 2.0 * k.s4 * (k.z33 - k.z31) * f3
        + -18.0 * k.s4 * k.body.eccentricity * sinF
    node := -2.0 * k.s2 * k.z22 * f2 + -2.0 * k.s2 * (k.z23 - k.z21) * f3 }

/-! ## Disturbances that add up -/

/-- Rates of change of the elements of an orbit. -/
structure Drift where
  eccentricity : Float
  inclination : Float
  anomaly : Float
  perigee : Float
  node : Float

/-- The part of the drift of the node before it is divided by the sine of the inclination; orbits in
the equatorial plane have none. -/
def BodyTerms.nodeDrift (k : BodyTerms) (o : Mean) : Float :=
  if o.inclination < 5.2359877e-2 || o.inclination > Instant.pi - 5.2359877e-2 then 0.0
  else -k.body.motion * k.s2 * (k.z21 + k.z23)

/-- The drift by sun and moon. -/
def Drift.ofBodies (o : Mean) (sun moon : BodyTerms) : Drift :=
  let e2 := square o.eccentricity
  let part (f : BodyTerms → Float) : Float := f sun + f moon
  let tilt : Float := if o.sinI == 0.0 then 0.0 else part (·.nodeDrift o) / o.sinI
  { eccentricity := part fun k => k.s1 * k.body.motion * k.s5
    inclination := part fun k => k.s2 * k.body.motion * (k.z11 + k.z13)
    anomaly := part fun k => -k.body.motion * k.s3 * (k.z1 + k.z3 - 14.0 - 6.0 * e2)
    perigee := part (fun k => k.s4 * k.body.motion * (k.z31 + k.z33 - 6.0)) - o.cosI * tilt
    node := tilt }

end EarthStation.Orbit
