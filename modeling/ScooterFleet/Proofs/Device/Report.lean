import ScooterFleet.Proofs.Device.Charge

/-!
# The battery of a report

A movement shows what its ticks left of the battery with which it began, and never less than nothing.
The session keeps a battery of its own, which only samples change.  Reports tell of the session's.

* `MotionProfile.remaining` — what a number of ticks leaves of a battery;
* `Leg.battery_movement` — what a leg's movement shows;
* `Metered` / `metered_of_itinerary` — the session's battery where a leg ends: the one with which it began
  until there was a sample, and one that a movement showed from then on;
* `reported_battery` — **the run**: a report tells of the battery that its movement shows, as soon as the
  session has had a sample; until then it tells of the battery with which the session began.

Nothing looks at that battery, which may be below zero: `report_overdrawn`.
-/

namespace ScooterFleet

open Coordinate

variable {α : Type} [Coordinate α]

namespace Coordinate

@[simp] theorem floored_floored (x : α) : floored (floored x) = floored x := by
  unfold floored
  by_cases h : (zero : α) < x
  · simp only [if_pos h]
  · simp only [if_neg h, ite_self]

/-- Nothing, or more than nothing. -/
theorem floored_cases (x : α) : floored x = zero ∨ (zero : α) < floored x := by
  unfold floored
  split
  · next h => exact .inr h
  · exact .inl rfl

end Coordinate

/-- What is left of a battery after so many ticks.  Ticks are counted up to the last one. -/
def MotionProfile.remaining (p : MotionProfile α) (battery : α) : Nat → α
  | 0 => floored battery
  | ticks + 1 => floored (battery - p.discharge * ofNat (min (ticks + 1) Simulation.lastTick))

@[simp] theorem MotionProfile.floored_remaining (p : MotionProfile α) (battery : α) (ticks : Nat) :
    floored (p.remaining battery ticks) = p.remaining battery ticks := by
  cases ticks <;> exact floored_floored _

/-! ### Movements -/

namespace Simulation

theorem trace_of_nil {s : Simulation α} {n : Nat} (h : (s.trace n).1 = []) : (s.trace n).2 = s := by
  cases n with
  | zero => rfl
  | succ n =>
    cases hstep : s.step? with
    | none => simp [trace, hstep]
    | some s' => simp [trace, hstep] at h

/-- The last sample shows the state behind it. -/
theorem sample_of_getLast? {s : Simulation α} {n : Nat} {x : Sample α}
    (h : (s.trace n).1.getLast? = some x) : (s.trace n).2.sample = x := by
  induction n with
  | zero => cases h
  | succ n ih =>
    rw [trace_add_one] at h ⊢
    split at h
    · exact ih h
    · rw [List.getLast?_concat] at h
      exact Option.some.inj h

/-- **The battery of a movement is what its ticks left of the one that it was given.** -/
theorem battery_trace (position destination : Position α) (battery : α) (profile : MotionProfile α)
    (n : Nat) :
    ((start position destination battery profile).trace n).2.battery =
      profile.remaining battery ((start position destination battery profile).trace n).1.length := by
  have hgauge := gauge_start position destination battery profile
  obtain ⟨hcharge, hrest⟩ := Prod.mk.inj hgauge
  obtain ⟨hprofile, hfresh⟩ := Prod.mk.inj hrest
  cases hlast : ((start position destination battery profile).trace n).1.getLast? with
  | none =>
    have hnil := List.getLast?_eq_none_iff.mp hlast
    rw [trace_of_nil hnil, hnil]
    exact battery_settle _
  | some x =>
    rw [List.getLast?_eq_getElem?] at hlast
    have hdrained := (drained_trace hfresh n).battery _ x hlast
    rw [← List.getLast?_eq_getElem?] at hlast
    have hsample := sample_of_getLast? hlast
    have hsome : ((start position destination battery profile).trace n).1.length - 1 + 1 =
        ((start position destination battery profile).trace n).1.length :=
      Nat.sub_add_cancel (List.length_pos_iff.mpr fun hnil => by rw [hnil] at hlast; cases hlast)
    calc ((start position destination battery profile).trace n).2.battery
        = x.battery := congrArg Sample.battery hsample
      _ = profile.remaining battery
            (((start position destination battery profile).trace n).1.length - 1 + 1) := by
          rw [hdrained, batteryAfter, hcharge, hprofile]
          rfl
      _ = _ := by rw [hsome]

end Simulation

/-! ### Legs -/

namespace Leg

variable (s₀ : Session α) (leg : Leg α)

theorem battery_movement : (leg.movement s₀).battery =
    s₀.profile.remaining leg.origin.battery (leg.samples s₀).length :=
  Simulation.battery_trace ..

variable {s₀ leg}

theorem state_of_nil (h : leg.samples s₀ = []) : leg.state s₀ = leg.origin := by
  rw [state, h]
  rfl

/-- With a sample the session has the battery that the movement shows. -/
theorem battery_state (h : leg.samples s₀ ≠ []) :
    (leg.state s₀).battery = (leg.movement s₀).battery := by
  unfold state
  cases hlast : (leg.samples s₀).getLast? with
  | none => exact absurd (List.getLast?_eq_none_iff.mp hlast) h
  | some x => exact (congrArg Sample.battery (Simulation.sample_of_getLast? hlast)).symm

/-- A report among the frames of a leg is the report of its end. -/
theorem report_of_mem {r : TripReport α} (h : .tripEnded r ∈ leg.frames s₀) :
    leg.outcome s₀ = some r.outcome ∧ leg.report s₀ r.outcome = .tripEnded r := by
  rcases List.mem_append.mp h with h | h
  · obtain ⟨x, -, hx⟩ := List.mem_map.mp h
    cases hx
  · obtain ⟨o, ho, hr⟩ := List.mem_map.mp h
    cases hr
    exact ⟨Option.mem_toList.mp ho, rfl⟩

end Leg

/-! ### Legs that follow each other -/

theorem Itinerary.behind {s₀ : Session α} {later legs : List (Leg α)}
    (h : Itinerary s₀ (later ++ legs)) : Itinerary s₀ legs := by
  induction later with
  | nil => exact h
  | cons leg later ih =>
    cases h with
    | cons before addressed origin sound charged => exact ih before

/-- The session's battery at the end of some legs. -/
structure Metered (s₀ : Session α) (legs : List (Leg α)) : Prop where
  unsampled : way s₀ legs = [] → (standing s₀ legs).battery = s₀.battery
  sampled : way s₀ legs ≠ [] → floored (standing s₀ legs).battery = (standing s₀ legs).battery

variable {s₀ : Session α}

theorem metered_of_itinerary {legs : List (Leg α)} (h : Itinerary s₀ legs) : Metered s₀ legs := by
  induction h with
  | nil => exact ⟨fun _ => rfl, fun h => absurd rfl h⟩
  | @cons leg earlier before addressed origin sound charged ih =>
    have hway := way_cons s₀ leg earlier
    by_cases hnil : leg.samples s₀ = []
    · have hstanding : standing s₀ (leg :: earlier) = standing s₀ earlier :=
        (Leg.state_of_nil hnil).trans origin
      rw [hnil, List.append_nil] at hway
      exact ⟨fun h => by rw [hstanding]; exact ih.unsampled (hway ▸ h),
        fun h => by rw [hstanding]; exact ih.sampled (hway ▸ h)⟩
    · refine ⟨fun h => absurd (List.append_eq_nil_iff.mp (hway ▸ h)).2 hnil, fun _ => ?_⟩
      show floored (leg.state s₀).battery = (leg.state s₀).battery
      rw [Leg.battery_state hnil, Leg.battery_movement, MotionProfile.floored_remaining]

/-- The session and the movement agree on a leg's last battery if there has been a sample. -/
theorem Itinerary.battery {leg : Leg α} {earlier : List (Leg α)} (h : Itinerary s₀ (leg :: earlier)) :
    (way s₀ (leg :: earlier) ≠ [] → (leg.state s₀).battery = (leg.movement s₀).battery) ∧
      (way s₀ (leg :: earlier) = [] → (leg.state s₀).battery = s₀.battery ∧
        (leg.movement s₀).battery = floored s₀.battery) := by
  have hmetered := metered_of_itinerary h
  have hmovement := Leg.battery_movement s₀ leg
  have hlast : standing s₀ (leg :: earlier) = leg.state s₀ := rfl
  by_cases hnil : leg.samples s₀ = []
  · -- the movement shows what it was given, but never less than nothing
    have hshown : (leg.movement s₀).battery = floored (leg.state s₀).battery := by
      rw [hmovement, hnil, Leg.state_of_nil hnil]
      rfl
    refine ⟨fun hway => ?_, fun hway => ?_⟩
    · rw [hshown]
      exact (hmetered.sampled hway).symm
    · have hbattery : (leg.state s₀).battery = s₀.battery := hmetered.unsampled hway
      exact ⟨hbattery, by rw [hshown, hbattery]⟩
  · refine ⟨fun _ => Leg.battery_state hnil, fun hway => ?_⟩
    rw [way_cons] at hway
    exact absurd (List.append_eq_nil_iff.mp hway).2 hnil

/-- **Whose battery a report tells of.**  A session begins at rest with any position and any battery.
Whatever comes down its link, in whatever order with its ticks, each report is that of a leg which ended.
The leg's movement shows what its ticks left of the battery with which it began, and that is never less
than nothing.  The report tells of the same battery if there has been a sample since the session began.
If there has been none, it tells of the battery with which the session began, and the two agree just if
that one is not below zero. -/
theorem reported_battery (rest : s₀.movement = none) {now : Millis} {log : List (Deed α)}
    {d : Device α} (run : Runs (Device.attached s₀ now) log d) {r : TripReport α}
    (told : .tripEnded r ∈ log.flatMap Deed.frames ++ d.unsent) :
    ∃ later leg earlier, legs log = later ++ leg :: earlier ∧
      leg.outcome s₀ = some r.outcome ∧ leg.report s₀ r.outcome = .tripEnded r ∧
      (leg.movement s₀).battery =
        s₀.profile.remaining leg.origin.battery (leg.samples s₀).length ∧
      ((leg.movement s₀).battery = zero ∨ zero < (leg.movement s₀).battery) ∧
      (way s₀ (leg :: earlier) ≠ [] → r.battery = (leg.movement s₀).battery) ∧
      (way s₀ (leg :: earlier) = [] → r.battery = s₀.battery) ∧
      (r.battery = (leg.movement s₀).battery ↔
        way s₀ (leg :: earlier) ≠ [] ∨ floored s₀.battery = s₀.battery) := by
  have tells : Tells s₀ log d := tells_run rest run
  rw [tells.frames] at told
  obtain ⟨leg, hleg, hr⟩ := List.mem_flatMap.mp told
  obtain ⟨later, earlier, hlegs⟩ := List.append_of_mem (List.mem_reverse.mp hleg)
  obtain ⟨houtcome, hreport⟩ := Leg.report_of_mem hr
  have hitinerary : Itinerary s₀ (leg :: earlier) := (hlegs ▸ tells.itinerary).behind
  obtain ⟨hsampled, hunsampled⟩ := hitinerary.battery
  have hbattery : r.battery = (leg.state s₀).battery :=
    (congrArg TripReport.battery (DeviceFrame.tripEnded.inj hreport)).symm
  have hshown := Leg.battery_movement s₀ leg
  rw [← hbattery] at hsampled hunsampled
  refine ⟨later, leg, earlier, hlegs, houtcome, hreport, hshown, ?_, hsampled,
    fun hway => (hunsampled hway).1, fun hagree => ?_, ?_⟩
  · rw [hshown, ← MotionProfile.floored_remaining]
    exact floored_cases _
  · by_cases hway : way s₀ (leg :: earlier) = []
    · obtain ⟨hfirst, hfloored⟩ := hunsampled hway
      exact .inr (by rw [← hfloored, ← hagree, hfirst])
    · exact .inl hway
  · rintro (hway | hsound)
    · exact hsampled hway
    · by_cases hway : way s₀ (leg :: earlier) = []
      · obtain ⟨hfirst, hfloored⟩ := hunsampled hway
        rw [hfirst, hfloored, hsound]
      · exact hsampled hway

section Exact

attribute [local instance] exactRat

/-- The report of a way with a detour: its movement shows the same battery. -/
theorem reported_battery_detour : ∃ log d leg, Runs (Device.attached parked 0) log d ∧
    .tripEnded ⟨7, ⟨2, 1⟩, 77, .arrived, some (Uuid.ofNat 2)⟩ ∈ log.flatMap Deed.frames ∧
    leg ∈ legs log ∧ leg.outcome parked = some .arrived ∧ (leg.movement parked).battery = 77 := by
  have hplay : ((Device.attached parked 0).play detour).map (fun out =>
      out.1.flatMap Deed.frames) =
      some [.telemetry ⟨7, ⟨1, 0⟩⟩, .telemetry ⟨7, ⟨2, 0⟩⟩, .telemetry ⟨7, ⟨2, 1⟩⟩,
        .tripEnded ⟨7, ⟨2, 1⟩, 77, .arrived, some (Uuid.ofNat 2)⟩] := by
    decide +kernel
  obtain ⟨⟨log, d⟩, hplay, hframes⟩ := Option.map_eq_some_iff.mp hplay
  have run : Runs (Device.attached parked 0) log d := runs_of_play hplay .start
  have told : .tripEnded ⟨7, ⟨2, 1⟩, 77, .arrived, some (Uuid.ofNat 2)⟩ ∈
      log.flatMap Deed.frames := by
    rw [hframes]
    simp
  obtain ⟨later, leg, earlier, hlegs, houtcome, -, -, -, -, -, hagree⟩ :=
    reported_battery rfl run (List.mem_append_left _ told)
  have hleg : leg ∈ legs log := hlegs ▸ List.mem_append_right _ (List.mem_cons_self ..)
  have hfull : Coordinate.floored parked.battery = parked.battery := by decide +kernel
  exact ⟨log, d, leg, run, told, hleg, houtcome, (hagree.mpr (.inr hfull)).symm⟩

/-- A session whose battery is below zero. -/
def overdrawn : Session Rat := { parked with battery := -5 }

def nowhere : Dispatch Rat := ⟨7, ⟨0, 0⟩, none⟩

/-- **A report of less than nothing.**  The session is sent where it stands, and its movement, which ends
as it begins, shows an empty battery. -/
theorem report_overdrawn : ∃ log d, Runs (Device.attached overdrawn 0) log d ∧
    legs log = [⟨⟨⟨0, 0⟩, -5⟩, nowhere, 1⟩] ∧
    log.flatMap Deed.frames = [.tripEnded ⟨7, ⟨0, 0⟩, -5, .arrived, none⟩] ∧
    (Leg.movement overdrawn ⟨⟨⟨0, 0⟩, -5⟩, nowhere, 1⟩).battery = 0 := by
  have hplay : ((Device.attached overdrawn 0).play
      [(.bringing nowhere, .receive), (.unbounded, .tick), (.unbounded, .send)]).map (fun out =>
        (legs out.1, out.1.flatMap Deed.frames)) =
      some ([⟨⟨⟨0, 0⟩, -5⟩, nowhere, 1⟩], [.tripEnded ⟨7, ⟨0, 0⟩, -5, .arrived, none⟩]) := by
    decide +kernel
  obtain ⟨⟨log, d⟩, hplay, he⟩ := Option.map_eq_some_iff.mp hplay
  obtain ⟨hlegs, hframes⟩ := Prod.mk.inj he
  exact ⟨log, d, runs_of_play hplay .start, hlegs, hframes, by decide +kernel⟩

end Exact
end ScooterFleet
