import Mathlib.Algebra.Order.Ring.Rat
import Mathlib.Tactic.Linarith
import ScooterFleet.Proofs.Device.Itinerary

/-!
# The battery of a device on its way

Each movement computes its battery from its own start and its own ticks.  Over a whole way this makes no
difference: every sample costs one discharge, until nothing is left.

* `way` — the samples of all legs, the oldest first;
* `charges` — the battery after each number of samples;
* `tracks_told` — the telemetry of a way is its samples;
* `charged_of_itinerary` — **however the samples are spread over legs, each costs one discharge**;
* `counted_of_charge` — no movement is longer than its counter of ticks, unless its battery outlasts
  the counter.

Numbers are exact here.
-/

namespace ScooterFleet

section Way

variable {α : Type}

def DeviceFrame.track? : DeviceFrame α → Option (Telemetry α)
  | .telemetry m => some m
  | _ => none

/-- The positions that are told of. -/
def tracks (frames : List (DeviceFrame α)) : List (Telemetry α) := frames.filterMap DeviceFrame.track?

theorem tracks_append (frames frames' : List (DeviceFrame α)) :
    tracks (frames ++ frames') = tracks frames ++ tracks frames' :=
  List.filterMap_append

variable [Coordinate α]

/-- The samples of all legs, the oldest first. -/
def way (s₀ : Session α) (legs : List (Leg α)) : List (Sample α) :=
  legs.reverse.flatMap (Leg.samples s₀)

/-- The battery at the beginning, and after each of the samples. -/
def charges (s₀ : Session α) (legs : List (Leg α)) : List α :=
  s₀.battery :: (way s₀ legs).map Sample.battery

@[simp] theorem way_cons (s₀ : Session α) (leg : Leg α) (earlier : List (Leg α)) :
    way s₀ (leg :: earlier) = way s₀ earlier ++ leg.samples s₀ := by
  simp [way]

@[simp] theorem length_charges (s₀ : Session α) (legs : List (Leg α)) :
    (charges s₀ legs).length = (way s₀ legs).length + 1 := by
  simp [charges]

theorem tracks_frames (s₀ : Session α) (leg : Leg α) :
    tracks (leg.frames s₀) = (leg.samples s₀).map fun x => ⟨s₀.scooter, x.position⟩ := by
  have hreport : tracks ((leg.outcome s₀).toList.map (leg.report s₀)) = [] := by
    cases leg.outcome s₀ <;> rfl
  rw [Leg.frames, tracks_append, hreport, List.append_nil]
  show List.filterMap _ (List.map _ _) = _
  rw [List.filterMap_map, ← List.filterMap_eq_map]
  rfl

/-- The telemetry of a way is its samples. -/
theorem tracks_told (s₀ : Session α) (legs : List (Leg α)) :
    tracks (told s₀ legs) = (way s₀ legs).map fun x => ⟨s₀.scooter, x.position⟩ := by
  induction legs with
  | nil => rfl
  | cons leg earlier ih => rw [told_cons, tracks_append, ih, tracks_frames, way_cons, List.map_append]

/-- What a device tells of its samples it has told, or has still to send. -/
theorem length_tracks_of_tells {log : List (Deed α)} {d : Device α} {s₀ : Session α}
    (h : Tells s₀ log d) :
    (tracks (log.flatMap Deed.frames ++ d.unsent)).length = (way s₀ (legs log)).length := by
  rw [h.frames, tracks_told, List.length_map]

theorem Device.Travels.state {d : Device α} {s₀ s : Session α} {legs : List (Leg α)}
    (h : d.Travels s₀ legs) (hs : d.session? = some s) : s.state = standing s₀ legs := by
  cases d with
  | offering requested profile => exact h.elim
  | awaiting profile => exact h.elim
  | finished result => cases hs
  | running session due =>
    cases hs
    exact h.1.state
  | sending session frame more due outcome =>
    cases hs
    exact h.1.state

/-- No movement has more samples than its counter of ticks can tell. -/
def Counted (s₀ : Session α) (legs : List (Leg α)) : Prop :=
  ∀ leg ∈ legs, (leg.samples s₀).length ≤ Simulation.lastTick

end Way

section Exact

attribute [local instance] exactRat

theorem floored_eq_max (x : Rat) : Coordinate.floored x = max 0 x := by
  show (if (0 : Rat) < x then x else 0) = max 0 x
  split
  · next h => exact (max_eq_right h.le).symm
  · next h => exact (max_eq_left (not_lt.mp h)).symm

/-- What is taken from an empty battery is not owed. -/
theorem max_zero_sub {x y : Rat} (hy : 0 ≤ y) : max 0 (max 0 x - y) = max 0 (x - y) := by
  rcases le_total x 0 with hx | hx
  · rw [max_eq_left hx, max_eq_left (by linarith), max_eq_left (by linarith)]
  · rw [max_eq_right hx]

theorem Simulation.batteryAfter_eq {m : Simulation Rat} {n : Nat} (h : n ≤ lastTick) :
    m.batteryAfter n = max 0 (m.charge - n * m.profile.discharge) := by
  rw [batteryAfter, Nat.min_eq_left h, floored_eq_max, mul_comm]
  rfl

/-- A movement that is begun costs something. -/
theorem discharge_pos {position destination : Position Rat} {battery : Rat}
    {profile : MotionProfile Rat} {m : Simulation Rat}
    (h : Simulation.start? position destination battery profile = .ok m) : 0 < profile.discharge := by
  by_contra hneg
  have hdischarge : profile.discharge ≤ (0 : Rat) := not_lt.mp hneg
  have hcheck : ∃ fault, profile.check = .error fault := by
    unfold MotionProfile.check
    split
    · exact ⟨_, rfl⟩
    · refine ⟨.discharge profile.discharge, if_pos ?_⟩
      rw [Bool.or_eq_true, decide_eq_true_iff]
      exact .inr hdischarge
  obtain ⟨fault, hfault⟩ := hcheck
  rw [Simulation.start?, hfault] at h
  cases h

variable {s₀ : Session Rat} {legs : List (Leg Rat)}

/-- A sample of a leg that began with this battery. -/
theorem Leg.battery_of_sample {leg : Leg Rat} {b : Rat} {n : Nat}
    (origin : leg.origin.battery = max 0 (b - n * s₀.profile.discharge))
    (cost : 0 ≤ s₀.profile.discharge) {i : Nat} {x : Sample Rat}
    (hx : (leg.samples s₀)[i]? = some x) (hi : i + 1 ≤ Simulation.lastTick) :
    x.battery = max 0 (b - (n + (i + 1) : Nat) * s₀.profile.discharge) := by
  have hgauge : (leg.start s₀).gauge = (leg.origin.battery, s₀.profile, 0) :=
    Simulation.gauge_start ..
  obtain ⟨hcharge, hrest⟩ := Prod.mk.inj hgauge
  obtain ⟨hprofile, hfresh⟩ := Prod.mk.inj hrest
  have hbattery : x.battery = (leg.start s₀).batteryAfter (i + 1) :=
    (Simulation.drained_trace hfresh leg.turns).battery i x hx
  have hspent : 0 ≤ ((i + 1 : Nat) : Rat) * s₀.profile.discharge :=
    mul_nonneg (Nat.cast_nonneg _) cost
  calc x.battery
      = max 0 (leg.origin.battery - (i + 1 : Nat) * s₀.profile.discharge) := by
        rw [hbattery, Simulation.batteryAfter_eq hi, hcharge, hprofile]
    _ = max 0 (b - n * s₀.profile.discharge - (i + 1 : Nat) * s₀.profile.discharge) := by
        rw [origin, max_zero_sub hspent]
    _ = max 0 (b - (n + (i + 1) : Nat) * s₀.profile.discharge) := by
        rw [Nat.cast_add n (i + 1), add_mul, sub_sub]

/-- Each sample so far cost one discharge. -/
structure Charged (s₀ : Session Rat) (legs : List (Leg Rat)) : Prop where
  charges : ∀ (k : Nat) x, (charges s₀ legs)[k]? = some x →
    x = max 0 (s₀.battery - k * s₀.profile.discharge)
  standing : (standing s₀ legs).battery =
    max 0 (s₀.battery - (way s₀ legs).length * s₀.profile.discharge)

/-- A leg goes on where the legs before it led to. -/
theorem Charged.cons {leg : Leg Rat} {earlier : List (Leg Rat)} (h : Charged s₀ earlier)
    (origin : leg.origin = ScooterFleet.standing s₀ earlier) (cost : 0 ≤ s₀.profile.discharge)
    (counted : (leg.samples s₀).length ≤ Simulation.lastTick) : Charged s₀ (leg :: earlier) := by
  have hstanding : leg.origin.battery =
      max 0 (s₀.battery - (way s₀ earlier).length * s₀.profile.discharge) := by
    rw [origin]
    exact h.standing
  have sampled : ∀ i x, (leg.samples s₀)[i]? = some x →
      x.battery = max 0 (s₀.battery - ((way s₀ earlier).length + (i + 1) : Nat) *
        s₀.profile.discharge) := by
    intro i x hx
    have hi : i < (leg.samples s₀).length := (List.getElem?_eq_some_iff.mp hx).1
    exact Leg.battery_of_sample hstanding cost hx (by omega)
  refine ⟨?_, ?_⟩
  · intro k x hx
    have happend : ScooterFleet.charges s₀ (leg :: earlier) =
        ScooterFleet.charges s₀ earlier ++ (leg.samples s₀).map Sample.battery := by
      simp [ScooterFleet.charges]
    rw [happend] at hx
    rcases Nat.lt_or_ge k (ScooterFleet.charges s₀ earlier).length with hk | hk
    · rw [List.getElem?_append_left hk] at hx
      exact h.charges k x hx
    · rw [List.getElem?_append_right hk, List.getElem?_map] at hx
      obtain ⟨y, hy, rfl⟩ := Option.map_eq_some_iff.mp hx
      rw [sampled _ y hy]
      rw [length_charges] at hk ⊢
      congr 4
      omega
  · show (leg.state s₀).battery = _
    unfold Leg.state
    cases hlast : (leg.samples s₀).getLast? with
    | none =>
      rw [way_cons, List.getLast?_eq_none_iff.mp hlast, List.append_nil]
      exact hstanding
    | some x =>
      rw [List.getLast?_eq_getElem?] at hlast
      have hpos : (leg.samples s₀).length - 1 < (leg.samples s₀).length :=
        (List.getElem?_eq_some_iff.mp hlast).1
      show x.battery = _
      rw [sampled _ x hlast, way_cons, List.length_append]
      congr 4
      omega

/-- **However the samples are spread over legs, each costs one discharge.** -/
theorem charged_of_itinerary (charged : 0 ≤ s₀.battery) (h : Itinerary s₀ legs)
    (counted : Counted s₀ legs) : Charged s₀ legs := by
  induction h with
  | nil =>
    have hfull : s₀.battery = max 0 (s₀.battery - ((0 : Nat) : Rat) * s₀.profile.discharge) := by
      rw [Nat.cast_zero, zero_mul, sub_zero, max_eq_right charged]
    refine ⟨?_, hfull⟩
    intro k x hx
    cases k with
    | zero =>
      cases hx
      exact hfull
    | succ k => cases hx
  | @cons leg earlier before addressed origin sound charged ih =>
    refine (ih fun leg' hleg => counted leg' (List.mem_cons_of_mem _ hleg)).cons origin ?_ ?_
    · exact (discharge_pos sound).le
    · exact counted leg (List.mem_cons_self ..)

/-- A way with samples costs something. -/
theorem Itinerary.cost (h : Itinerary s₀ legs) (sampled : 0 < (way s₀ legs).length) :
    0 < s₀.profile.discharge := by
  cases h with
  | nil => exact absurd sampled (Nat.lt_irrefl 0)
  | cons before addressed origin sound charged => exact discharge_pos sound

/-- A movement ends with its battery, and most batteries are empty before the counter is full. -/
theorem counted_of_charge (charged : 0 ≤ s₀.battery)
    (bound : s₀.battery ≤ Simulation.lastTick * s₀.profile.discharge) (h : Itinerary s₀ legs) :
    Counted s₀ legs := by
  induction h with
  | nil => exact fun leg hleg => nomatch hleg
  | @cons leg earlier before addressed origin sound _ ih =>
    have cost : 0 ≤ s₀.profile.discharge := (discharge_pos sound).le
    have hstanding : leg.origin.battery =
        max 0 (s₀.battery - (way s₀ earlier).length * s₀.profile.discharge) := by
      rw [origin]
      exact (charged_of_itinerary charged before ih).standing
    intro leg' hleg
    rcases List.mem_cons.mp hleg with rfl | hleg
    · by_contra hlong
      have hpos : 0 < Simulation.lastTick := by decide
      obtain ⟨x, hx⟩ : ∃ x, (leg'.samples s₀)[Simulation.lastTick - 1]? = some x :=
        ⟨_, List.getElem?_eq_getElem (by omega)⟩
      have hlast : Simulation.lastTick - 1 + 1 = Simulation.lastTick := by omega
      have hempty : x.battery ≤ Coordinate.zero := by
        rw [Leg.battery_of_sample hstanding cost hx hlast.le, hlast]
        show max 0 _ ≤ (0 : Rat)
        refine max_le le_rfl ?_
        have hway : 0 ≤ ((way s₀ earlier).length : Rat) * s₀.profile.discharge :=
          mul_nonneg (Nat.cast_nonneg _) cost
        rw [Nat.cast_add, add_mul]
        linarith
      have hlength : (leg'.samples s₀).length = Simulation.lastTick - 1 + 1 :=
        (Simulation.trace_of_empty hx hempty).1
      omega
    · exact ih leg' hleg

end Exact
end ScooterFleet
