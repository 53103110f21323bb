import EarthStation.Proofs.Binary64.Arithmetic
import EarthStation.Proofs.Tracking.Deeds
import EarthStation.Proofs.Tracking.Phases
import EarthStation.Proofs.Tracking.Tuning

/-!
# Resolution — the radio stays within the resolution of the shifted frequencies

* `Deed.tunings`, `Deed.retuned`: the calls of a deed for a carrier, and what its channel remembers.
* `deed_retuned`, `Path.lastTuned`: what is remembered after a deed, and along a path.
* `TuningLaw`, `tuningLaw_of_run`: which calls the steps of a run make, and what is remembered of them.
* `FiniteShifts`, `Deed.WithinResolution`: finite frequencies, and a step after which the last one is near
  enough.
* `tuning_law`: the law of the calls, and the resolution that follows from it.
-/

namespace EarthStation.Tracking

open Radio (Record)

/-- The channel that the settings ask for. -/
def Settings.channel {α : Type} (s : Settings α) : Carrier → Option (Channel α)
  | .signal .uplink => s.uplinkHz.map (.fresh .uplink s.uplinkVfo)
  | .signal .downlink => s.downlinkHz.map (.fresh .downlink s.downlinkVfo)
  | .reference => s.auxiliary.map fun a => .fresh .downlink s.downlinkVfo a.frequencyHz

namespace Controller

variable {τ α ρ κ : Type} [Scalar α] [Timeline τ α] [Chronology τ] [Rotator.Device ρ α]
  [Radio.Device κ α]

/-! ## Deeds -/

namespace Deed

/-- A step that goes through with what it has seen. -/
structure Sees (now : τ) (o : Observation α) (d : Deed τ α ρ κ) : Prop where
  act : d.act = .step now
  result : d.result = .ok ()
  observation : d.after.observation = some (now, o)

/-- The range rate that a step has seen, if it goes through. -/
def rangeRate? (d : Deed τ α ρ κ) : Option α :=
  match d.act, d.result with
  | .step _, .ok _ => d.after.observation.map (·.2.rangeRateKmS)
  | _, _ => none

/-- The state as a step finds it when it commands the radio. -/
def found (d : Deed τ α ρ κ) : Controller τ α ρ κ := d.before.inPhase d.after.session.phase

/-- The calls of a deed for a carrier. -/
def tunings (k : Carrier) (d : Deed τ α ρ (Taped κ (Record α))) : List (Record α) :=
  d.rangeRate?.elim [] fun rangeRateKmS => d.found.tunings rangeRateKmS k

/-- Holds if the auxiliary frequency is switched on or off. -/
def toggles (d : Deed τ α ρ κ) : Bool :=
  match d.act with
  | .command .auxiliary => d.result.isOk && d.before.settings.auxiliary.isSome
  | _ => false

/-- What is remembered for a carrier after a deed, when it was `last` before. -/
def retuned (k : Carrier) (last : Option α) (d : Deed τ α ρ (Taped κ (Record α))) : Option α :=
  if d.toggles then none else (d.tunings k).foldl Record.tuned last

theorem Sees.rangeRate {now : τ} {o : Observation α} {d : Deed τ α ρ κ} (h : d.Sees now o) :
    d.rangeRate? = some o.rangeRateKmS := by
  unfold rangeRate?
  rw [h.act, h.result, h.observation]
  rfl

end Deed

omit [Timeline τ α] [Chronology τ] [Radio.Device κ α] in
/-- Only the auxiliary frequency, switched on or off, resets the channels. -/
theorem obey_channel (command : Command α) (c : Controller τ α ρ κ) (k : Carrier) :
    (obey command c).channel k =
      match command with
      | .auxiliary => if c.settings.auxiliary.isSome then (c.channel k).map Channel.reset else c.channel k
      | _ => c.channel k := by
  cases command with
  | auxiliary =>
    unfold obey
    dsimp only
    split
    · match k with
      | .signal .uplink => rfl
      | .signal .downlink => rfl
      | .reference => rfl
    · rfl
  | _ => rfl

/-- What a deed does with the radio and with the channels: a step that goes through tells the radio, and
no other deed does; a channel is reset if the auxiliary frequency is switched on or off. -/
theorem deed_radio [Visibility.LawfulGrid α] (d : Deed τ α ρ (Taped κ (Record α))) :
    ((∀ now, d.act = .step now → d.result ≠ .ok ()) ∧
      d.after.radio.calls = d.before.radio.calls ∧
      ∀ k, d.after.channel k =
        if d.toggles then (d.before.channel k).map Channel.reset else d.before.channel k) ∨
    (d.toggles = false ∧ ∃ now o, d.Sees now o ∧ d.before.satellite.observe now = .ok o ∧
      Told o.rangeRateKmS d.found d.after) := by
  cases hact : d.act with
  | step now =>
    obtain ⟨hresult, hafter⟩ := Deed.of_step hact
    have htoggles : d.toggles = false := by
      unfold Deed.toggles
      rw [hact]
    have hradio := step_radio now d.before
    rw [← hresult, ← hafter] at hradio
    obtain ⟨hfailed, hsame⟩ | ⟨hok, o, ho, hobserved, htold⟩ := hradio
    · refine .inl ⟨fun _ _ => hfailed, congrArg Equipment.calls hsame.radio, fun k => ?_⟩
      rw [htoggles]
      exact hsame.channel k
    · exact .inr ⟨htoggles, now, o, ⟨hact, hok, hobserved⟩, ho, htold⟩
  | command command =>
    refine .inl ⟨nofun, ?_⟩
    unfold Deed.toggles
    rcases Deed.of_command hact with ⟨hrefused, hafter⟩ | ⟨haccepts, n, -, hafter⟩
    · rw [hafter, hact, hrefused]
      cases command <;> exact ⟨rfl, fun _ => rfl⟩
    · rw [hafter, hact, haccepts.2]
      refine ⟨congrArg Equipment.calls (obey_radio command _), fun k => ?_⟩
      rw [obey_channel]
      cases command <;> rfl

/-- Only a step that goes through makes calls. -/
theorem Deed.tunings_of_unseen {d : Deed τ α ρ (Taped κ (Record α))}
    (h : ∀ now, d.act = .step now → d.result ≠ .ok ()) (k : Carrier) : d.tunings k = [] := by
  have hnone : d.rangeRate? = none := by
    unfold Deed.rangeRate?
    split
    · rename_i now _ hact hresult
      exact absurd hresult (h now hact)
    · rfl
  unfold Deed.tunings
  rw [hnone]
  rfl

theorem Deed.Sees.tunings {d : Deed τ α ρ (Taped κ (Record α))} {now : τ} {o : Observation α}
    (h : d.Sees now o) (k : Carrier) : d.tunings k = d.found.tunings o.rangeRateKmS k := by
  unfold Deed.tunings
  rw [h.rangeRate]
  rfl

section Remembered

variable [Visibility.LawfulGrid α]

/-- **A deed changes what is remembered for a carrier** by its calls that succeed, or forgets it. -/
theorem deed_retuned (d : Deed τ α ρ (Taped κ (Record α))) (k : Carrier) :
    d.after.lastTuned k = d.retuned k (d.before.lastTuned k) := by
  unfold Deed.retuned
  obtain ⟨hunseen, -, hchannel⟩ | ⟨htoggles, now, o, hsees, -, htold⟩ := deed_radio d
  · unfold lastTuned
    rw [hchannel k, Deed.tunings_of_unseen hunseen]
    split
    · cases d.before.channel k <;> rfl
    · rfl
  · rw [htoggles, hsees.tunings]
    exact (htold.tuned k).lastCommandedHz

/-- A deed does not change what a channel is for. -/
theorem deed_reset (d : Deed τ α ρ (Taped κ (Record α))) (k : Carrier) :
    (d.after.channel k).map Channel.reset = (d.before.channel k).map Channel.reset := by
  obtain ⟨-, -, hchannel⟩ | ⟨-, now, o, -, -, htold⟩ := deed_radio d
  · rw [hchannel k]
    split
    · cases d.before.channel k <;> rfl
    · rfl
  · exact (htold.tuned k).reset

/-- **What is remembered along a path** follows from its deeds. -/
theorem Path.lastTuned {c c' : Controller τ α ρ (Taped κ (Record α))}
    {ds : List (Deed τ α ρ (Taped κ (Record α)))} (h : Path c ds c') (k : Carrier) :
    c'.lastTuned k = ds.foldl (Deed.retuned k) (c.lastTuned k) := by
  induction h with
  | nil c => rfl
  | deed d h ih =>
    rw [List.foldl_cons, ← deed_retuned]
    exact ih
  | countdown _ _ ih => exact ih

end Remembered

/-! ## The law of the calls -/

/-- The frequency of the last call for a carrier that has succeeded since the auxiliary frequency was
last switched on or off. -/
def commanded (k : Carrier) (ds : List (Deed τ α ρ (Taped κ (Record α)))) : Option α :=
  ds.foldl (Deed.retuned k) none

/-- What a run tells the radio, and what its channels remember of it. -/
structure TuningLaw (settings : Settings α) (ds : List (Deed τ α ρ (Taped κ (Record α)))) : Prop where
  /-- The channels are those that the settings ask for. -/
  channels : ∀ d ∈ ds, ∀ k, (d.before.channel k).map Channel.reset = settings.channel k
  /-- A step that goes through has made a look.  Its calls are those for the carriers, in order, after
  the satellite mode was switched on. -/
  calls : ∀ d ∈ ds, ∀ now, d.act = .step now → d.result = .ok () →
    ∃ o, d.Sees now o ∧ d.before.satellite.observe now = .ok o ∧
      ∃ switching, (∀ r ∈ switching, ∃ done, r = .satelliteMode true done) ∧
        d.after.radio.calls = d.before.radio.calls ++ switching ++ d.tunings (.signal .uplink) ++
          d.tunings (.signal .downlink) ++ d.tunings .reference
  /-- No other deed makes a call. -/
  silent : ∀ d ∈ ds, (∀ now o, ¬ d.Sees now o) → d.after.radio.calls = d.before.radio.calls
  /-- A carrier is tuned to at most once, and just if the radio is there when it is its turn, the carrier
  is in use, and its frequency is farther from the last one than the resolution. -/
  tuned : ∀ d ∈ ds, ∀ now o, d.Sees now o → ∀ k channel, d.before.channel k = some channel →
    (d.tunings k = [] ∨
      ∃ answer, d.tunings k = [.tune channel.vfo (k.wanted o.rangeRateKmS channel) answer]) ∧
    (d.tunings k ≠ [] ↔ (d.found.turn o.rangeRateKmS k).isAvailable = true ∧ d.found.Serves k ∧
      ∀ last, channel.lastCommandedHz = some last → settings.dopplerResolutionHz <
        Scalar.abs (k.wanted o.rangeRateKmS channel - last))
  /-- A carrier without a channel is not tuned to. -/
  missing : ∀ d ∈ ds, ∀ k, settings.channel k = none → d.tunings k = []
  /-- Before and after every deed the last call that has succeeded is remembered. -/
  remembered : ∀ past d later, ds = past ++ d :: later → ∀ k,
    d.before.lastTuned k = commanded k past ∧ d.after.lastTuned k = commanded k (past ++ [d])

theorem tuned_of_sees {settings : Settings α} {d : Deed τ α ρ (Taped κ (Record α))} {now : τ}
    {o : Observation α} (hsees : d.Sees now o) (hsettings : d.before.settings = settings)
    {k : Carrier} {channel : Channel α} (hchannel : d.before.channel k = some channel) :
    (d.tunings k = [] ∨
      ∃ answer, d.tunings k = [.tune channel.vfo (k.wanted o.rangeRateKmS channel) answer]) ∧
    (d.tunings k ≠ [] ↔ (d.found.turn o.rangeRateKmS k).isAvailable = true ∧ d.found.Serves k ∧
      ∀ last, channel.lastCommandedHz = some last → settings.dopplerResolutionHz <
        Scalar.abs (k.wanted o.rangeRateKmS channel - last)) := by
  have hfound : d.found.channel k = some channel := (channel_inPhase _ _ k).trans hchannel
  have hresolution : d.found.settings = settings := hsettings
  rw [hsees.tunings, ← Channel.needsRetune_iff]
  by_cases hs : d.found.Serves k
  · rw [tunings_of_serves o.rangeRateKmS hs, hfound, hresolution]
    dsimp only [Option.elim]
    unfold Channel.tuning
    split
    · rename_i hneeds
      rw [Bool.and_eq_true] at hneeds
      exact ⟨.inr ⟨_, rfl⟩, iff_of_true (by simp) ⟨hneeds.2, hs, hneeds.1⟩⟩
    · rename_i hneeds
      refine ⟨.inl rfl, iff_of_false (by simp) fun h => hneeds ?_⟩
      rw [h.1, h.2.2]
      rfl
  · rw [tunings_of_not_serves hs]
    exact ⟨.inl rfl, iff_of_false (by simp) fun h => hs h.2.1⟩

theorem tunings_of_missing {d : Deed τ α ρ (Taped κ (Record α))} {k : Carrier}
    (h : d.before.channel k = none) : d.tunings k = [] := by
  unfold Deed.tunings
  cases d.rangeRate? with
  | none => rfl
  | some rangeRateKmS =>
    have hfound : d.found.channel k = none := (channel_inPhase _ _ k).trans h
    dsimp only [Option.elim]
    unfold Controller.tunings
    rw [hfound]
    split <;> rfl

section Runs

variable [Visibility.LawfulGrid α]

omit [Timeline τ α] [Chronology τ] [Rotator.Device ρ α] [Radio.Device κ α] [Visibility.LawfulGrid α]
  [Scalar α] in
theorem lastTuned_fresh {satellite : Ephemeris τ α} {settings : Settings α} {rotator : Equipment ρ}
    {radio : Equipment κ} (k : Carrier) :
    (fresh satellite settings rotator radio).lastTuned k = none := by
  unfold lastTuned fresh
  match k with
  | .signal .uplink => cases settings.uplinkHz <;> rfl
  | .signal .downlink => cases settings.downlinkHz <;> rfl
  | .reference => cases settings.auxiliary <;> rfl

/-- The channels of a run are those of its settings. -/
theorem channels_of_run (satellite : Ephemeris τ α) (settings : Settings α) (rotator : Equipment ρ)
    (radio : Equipment (Taped κ (Record α))) (events : List (Event τ α)) :
    ∀ d ∈ deeds events (fresh satellite settings rotator radio), ∀ k,
      (d.before.channel k).map Channel.reset = settings.channel k := by
  let P (c : Controller τ α ρ (Taped κ (Record α))) : Prop :=
    ∀ k, (c.channel k).map Channel.reset = settings.channel k
  have hfresh : P (fresh satellite settings rotator radio) := by
    intro k
    match k with
    | .signal .uplink => exact Option.map_map ..
    | .signal .downlink => exact Option.map_map ..
    | .reference => exact Option.map_map ..
  exact ((path_deeds events _).holds (P := P) (fun _ h => h) hfresh fun d _ h k =>
    (deed_reset d k).trans (h k)).1

/-- **The radio is told what the law says** in every run. -/
theorem tuningLaw_of_run (satellite : Ephemeris τ α) (settings : Settings α) (rotator : Equipment ρ)
    (radio : Equipment (Taped κ (Record α))) (events : List (Event τ α)) :
    TuningLaw settings (deeds events (fresh satellite settings rotator radio)) := by
  have hchannels := channels_of_run satellite settings rotator radio events
  have hfixed := (fixed_invariant satellite settings).deeds
    (c := fresh satellite settings rotator radio) ⟨rfl, rfl⟩ events
  refine ⟨hchannels, fun d hd now hact hok => ?_, fun d hd hunseen => ?_,
    fun d hd now o hsees k channel hchannel => tuned_of_sees hsees (hfixed d hd).2 hchannel,
    fun d hd k hnone => ?_, fun past d later hdeeds k => ?_⟩
  · obtain ⟨hunseen, -⟩ | ⟨-, now', o, hsees, ho, htold⟩ := deed_radio d
    · exact absurd hok (hunseen now hact)
    · cases hact.symm.trans hsees.act
      obtain ⟨switching, hon, hcalls⟩ := htold.calls
      refine ⟨o, hsees, ho, switching, hon, ?_⟩
      rw [hsees.tunings, hsees.tunings, hsees.tunings]
      exact hcalls
  · obtain ⟨-, hcalls, -⟩ | ⟨-, now, o, hsees, -⟩ := deed_radio d
    · exact hcalls
    · exact absurd hsees (hunseen now o)
  · have hchannel := hchannels d hd k
    rw [hnone, Option.map_eq_none_iff] at hchannel
    exact tunings_of_missing hchannel
  · have hpath := path_deeds events (fresh satellite settings rotator radio)
    rw [hdeeds] at hpath
    obtain ⟨m, hpast, hrest⟩ := hpath.split
    have hbefore : d.before.lastTuned k = commanded k past := by
      have hm := hpast.lastTuned k
      rw [lastTuned_fresh] at hm
      exact hrest.head (P := fun c => c.lastTuned k = commanded k past) (fun _ h => h) hm
    refine ⟨hbefore, ?_⟩
    unfold commanded
    rw [deed_retuned, hbefore, List.foldl_append]
    rfl

end Runs

end Controller

/-! ## The resolution -/

namespace Controller

variable {τ ρ κ : Type} [Timeline τ Float] [Chronology τ] [Rotator.Device ρ Float]
  [Radio.Device κ Float]

/-- All frequencies that the motion of the satellite shifts the configured ones to are finite. -/
def FiniteShifts (satellite : Ephemeris τ Float) (settings : Settings Float) : Prop :=
  ∀ t o, satellite.observe t = .ok o → ∀ direction channel,
    settings.channel (.signal direction) = some channel →
      (channel.shifted o.rangeRateKmS).isFinite = true

/-- If the radio is there at the end of a step that goes through, then each direction that is in use was
tuned to without success, or the frequency that the step asks for is within the resolution of the last
one. -/
def Deed.WithinResolution (settings : Settings Float)
    (d : Deed τ Float ρ (Taped κ (Record Float))) : Prop :=
  ∀ now o, d.Sees now o → d.after.radio.isAvailable = true →
    ∀ direction, d.after.Serves (.signal direction) →
      ∀ channel, d.after.channel (.signal direction) = some channel →
        (∃ hz, d.tunings (.signal direction) = [.tune channel.vfo hz none]) ∨
          ∃ last, channel.lastCommandedHz = some last ∧
            Scalar.abs (channel.shifted o.rangeRateKmS - last) ≤ settings.dopplerResolutionHz

variable {satellite : Ephemeris τ Float} {settings : Settings Float}
  {d : Deed τ Float ρ (Taped κ (Record Float))}

omit [Timeline τ Float] [Chronology τ] [Rotator.Device ρ Float] [Radio.Device κ Float] in
/-- The frequency that a channel asks for is finite. -/
theorem FiniteShifts.wanted (h : FiniteShifts satellite settings) {c : Controller τ Float ρ κ}
    (hchannels : ∀ k, (c.channel k).map Channel.reset = settings.channel k) {t : τ}
    {o : Observation Float} (ho : satellite.observe t = .ok o) {direction : Direction}
    {channel : Channel Float} (hchannel : c.channel (.signal direction) = some channel) :
    (channel.shifted o.rangeRateKmS).isFinite = true := by
  have hconfigured := hchannels (.signal direction)
  rw [hchannel] at hconfigured
  exact h t o ho direction channel.reset hconfigured.symm

/-- What is remembered for the directions is finite after a deed if it was before. -/
theorem finite_retuned (h : FiniteShifts satellite settings) (hsatellite : d.before.satellite = satellite)
    (hsettings : d.before.settings = settings)
    (hchannels : ∀ k, (d.before.channel k).map Channel.reset = settings.channel k)
    (hlast : ∀ direction hz, d.before.lastTuned (.signal direction) = some hz → hz.isFinite = true)
    {direction : Direction} {hz : Float} (hafter : d.after.lastTuned (.signal direction) = some hz) :
    hz.isFinite = true := by
  rw [deed_retuned] at hafter
  unfold Deed.retuned at hafter
  split at hafter
  · cases hafter
  · obtain ⟨hunseen, -⟩ | ⟨-, now, o, hsees, ho, -⟩ := deed_radio d
    · rw [Deed.tunings_of_unseen hunseen] at hafter
      exact hlast direction hz hafter
    · cases hchannel : d.before.channel (.signal direction) with
      | none =>
        rw [tunings_of_missing hchannel] at hafter
        exact hlast direction hz hafter
      | some channel =>
        obtain ⟨hnil | ⟨answer, hcall⟩, -⟩ := tuned_of_sees hsees hsettings hchannel
        · rw [hnil] at hafter
          exact hlast direction hz hafter
        · rw [hcall] at hafter
          cases answer with
          | none => exact hlast direction hz hafter
          | some confirmed =>
            have hwanted := h.wanted hchannels (hsatellite ▸ ho) hchannel
            exact Option.some.inj hafter ▸ hwanted

/-- **A step leaves the radio within the resolution.** -/
theorem withinResolution_of_kept (h : FiniteShifts satellite settings)
    (hresolution : 0 ≤ settings.dopplerResolutionHz) (hsatellite : d.before.satellite = satellite)
    (hsettings : d.before.settings = settings)
    (hchannels : ∀ k, (d.before.channel k).map Channel.reset = settings.channel k)
    (hlast : ∀ direction hz, d.before.lastTuned (.signal direction) = some hz → hz.isFinite = true) :
    d.WithinResolution settings := by
  intro now o hsees ha direction hserves channel hchannel
  obtain ⟨hunseen, -⟩ | ⟨-, now', o', hsees', ho, htold⟩ := deed_radio d
  · exact absurd hsees.result (hunseen now hsees.act)
  · obtain ⟨rfl, rfl⟩ : now' = now ∧ o' = o := by
      simpa using hsees'.observation.symm.trans hsees.observation
    have hframe : SameOrders d.before d.after := by
      rw [(Deed.of_step hsees.act).2]
      exact step_frame now' d.before
    have hfound : d.found.Serves (.signal direction) :=
      ⟨hframe.engaged.symm.trans hserves.1, hframe.auxiliary.symm.trans hserves.2.1, hserves.2.2⟩
    have hturn := htold.available ha _ hfound
    -- the channel is the one before the step, but for what it remembers
    obtain ⟨old, hold, hreset⟩ :
        ∃ old, d.before.channel (.signal direction) = some old ∧ old.reset = channel.reset := by
      have hsame := deed_reset d (.signal direction)
      rw [hchannel] at hsame
      exact Option.map_eq_some_iff.mp hsame.symm
    obtain ⟨hdirection, hvfo, hnominal, -, -⟩ := Channel.mk.inj hreset
    have hshifted : old.shifted o'.rangeRateKmS = channel.shifted o'.rangeRateKmS := by
      unfold Channel.shifted
      rw [hdirection, hnominal]
    have hfinite : (channel.shifted o'.rangeRateKmS).isFinite = true :=
      hshifted ▸ h.wanted hchannels (hsatellite ▸ ho) hold
    have hremembered : channel.lastCommandedHz =
        (d.tunings (.signal direction)).foldl Record.tuned old.lastCommandedHz := by
      have htuned := (htold.tuned (.signal direction)).lastCommandedHz
      have hbefore : d.found.channel (.signal direction) = some old :=
        (channel_inPhase _ _ _).trans hold
      rw [hchannel, hbefore] at htuned
      rw [hsees.tunings]
      exact htuned
    obtain ⟨hnil | ⟨answer, hcall⟩, hneeds⟩ := tuned_of_sees hsees hsettings hold
    · -- no call was made, so the last frequency is near enough
      have hnear : ¬ ∀ last, old.lastCommandedHz = some last → settings.dopplerResolutionHz <
          Scalar.abs (old.shifted o'.rangeRateKmS - last) :=
        fun hfar => hneeds.mpr ⟨hturn, hfound, hfar⟩ hnil
      obtain ⟨last, hbefore, hlt⟩ : ∃ last, old.lastCommandedHz = some last ∧
          ¬ settings.dopplerResolutionHz < Scalar.abs (old.shifted o'.rangeRateKmS - last) := by
        simpa only [not_forall, exists_prop] using hnear
      rw [hnil] at hremembered
      refine .inr ⟨last, hremembered.trans hbefore, ?_⟩
      have hlastFinite : last.isFinite = true :=
        hlast direction last (by unfold lastTuned; rw [hold]; exact hbefore)
      rw [hshifted] at hlt
      exact Binary64.distance_le_of_not_lt hfinite hlastFinite
        (Binary64.zero_le_iff.mp hresolution).1 hlt
    · rw [hcall] at hremembered
      cases answer with
      | none => exact .inl ⟨_, hvfo ▸ hcall⟩
      | some confirmed =>
        refine .inr ⟨_, hremembered, ?_⟩
        rw [← hshifted]
        exact Binary64.distance_self_le (hshifted ▸ hfinite) hresolution

/-- **The law of the tuning.**  In every run a step that goes through tunes the radio to each direction
and to the auxiliary frequency at most once, and just if the radio is there when it is its turn, the
carrier is in use and its frequency is farther from the last one than the resolution; no other call tunes
it.  At any time each channel remembers the last call that has succeeded since the auxiliary frequency
was switched on or off.  Hence, if the frequencies are finite and the resolution is not negative, each
step in the vicinity of a pass leaves the last frequency within the resolution of the one for its own
range rate, unless its call has failed or the radio was lost.

The first condition leaves out range rates that are no finite numbers, and those for which the shifted
frequency overflows; the second holds of the settings of every configuration that is accepted
(`Config.Validated.resolution_nonneg`).  The calls and what is remembered of them need neither. -/
theorem tuning_law (satellite : Ephemeris τ Float) (settings : Settings Float) (rotator : Equipment ρ)
    (radio : Equipment (Taped κ (Record Float))) (events : List (Event τ Float)) :
    let c := fresh satellite settings rotator radio
    TuningLaw settings (deeds events c) ∧
      (∀ k, (after events c).lastTuned k = commanded k (deeds events c)) ∧
      (0 ≤ settings.dopplerResolutionHz → FiniteShifts satellite settings →
        ∀ d ∈ deeds events c, d.WithinResolution settings) := by
  intro c
  have hpath := path_deeds events c
  have hchannels := channels_of_run satellite settings rotator radio events
  have hfixed := (fixed_invariant satellite settings).deeds (c := c) ⟨rfl, rfl⟩ events
  refine ⟨tuningLaw_of_run satellite settings rotator radio events, fun k => ?_,
    fun hresolution hfinite => ?_⟩
  · have hafter := hpath.lastTuned k
    rw [lastTuned_fresh] at hafter
    exact hafter
  · let P (c : Controller τ Float ρ (Taped κ (Record Float))) : Prop :=
      ∀ direction hz, c.lastTuned (.signal direction) = some hz → hz.isFinite = true
    have hstart : P c := by
      intro direction hz hnone
      rw [lastTuned_fresh] at hnone
      cases hnone
    have hkept := (hpath.holds (P := P) (fun _ h => h) hstart fun d hd h direction hz hafter =>
      finite_retuned hfinite (hfixed d hd).1 (hfixed d hd).2 (hchannels d hd) h hafter).1
    exact fun d hd => withinResolution_of_kept hfinite hresolution (hfixed d hd).1 (hfixed d hd).2
      (hchannels d hd) (hkept d hd)

/-- Settings with two frequencies. -/
def shifting : Settings Float :=
  { blind with uplinkHz := some 145900000, downlinkHz := some 435100000 }

/-- A run in a pass, with a radio that does what it is told. -/
def passing : Controller Instant Float (Rotator.Bench Float) (Taped (Radio.Bench Float) (Record Float)) :=
  fresh flashes shifting .absent (.connected ⟨⟨[], []⟩, []⟩)

/-- The first step of the pass leaves both frequencies within the resolution. -/
theorem tuning_law_flashes :
    0 ≤ shifting.dopplerResolutionHz ∧ FiniteShifts flashes shifting ∧
      ∃ d ∈ deeds [.tick [] ⟨0⟩] passing, d.Sees ⟨0⟩ ⟨135, 10, 550, 6⟩ ∧
        d.after.radio.isAvailable = true ∧ (∀ direction, d.after.Serves (.signal direction)) ∧
        d.WithinResolution shifting := by
  have hresolution : 0 ≤ shifting.dopplerResolutionHz := by decide +kernel
  have hfinite : FiniteShifts flashes shifting := by
    intro t o ho direction channel hchannel
    cases ho
    have huplink : (Direction.uplink.shifted (145900000 : Float) 6).isFinite = true := by
      decide +kernel
    have hdownlink : (Direction.downlink.shifted (435100000 : Float) 6).isFinite = true := by
      decide +kernel
    cases direction with
    | uplink =>
      cases hchannel
      exact huplink
    | downlink =>
      cases hchannel
      exact hdownlink
  have hlaw := tuning_law flashes shifting passing.rotator passing.radio [.tick [] ⟨0⟩]
  have hmem : (⟨.step ⟨0⟩, passing⟩ : Deed Instant Float _ _) ∈ deeds [.tick [] ⟨0⟩] passing :=
    List.mem_singleton_self _
  refine ⟨hresolution, hfinite, _, hmem, ⟨rfl, eq_ok_of_isOk (by decide +kernel), by decide +kernel⟩,
    by decide +kernel, fun direction => ?_, hlaw.2.2 hresolution hfinite _ hmem⟩
  cases direction with
  | uplink => decide +kernel
  | downlink => decide +kernel

end Controller

end EarthStation.Tracking
