import Mathlib.Data.Rat.Floor
import Mathlib.Order.Bounds.Basic
import ScooterFleet.Proofs.Device.Charge

/-!
# Where a movement is after each tick

With exact numbers a movement can be told in advance.  Each axis goes straight to its target, one step
per tick, in a number of ticks that only its own difference decides; the phases and the headings that are
kept in them make no difference to that.

* `MotionProfile.ticksAcross`, `MotionProfile.ticksLasting` — how many ticks a difference takes, and how
  many a battery lasts;
* `MotionProfile.along` — a coordinate after so many ticks;
* `Simulation.Steers` — the headings that the current phase needs are those of the beginning;
* `Simulation.course` — **the samples, their number and the outcome of a movement**.
-/

namespace ScooterFleet

section Exact

attribute [local instance] exactRat

/-! ### One axis -/

namespace MotionProfile

/-- The ticks that a difference takes.  The last step may be longer by the slack. -/
def ticksAcross (p : MotionProfile Rat) (gap : Rat) : Nat := ⌈|gap| / p.step - p.slack⌉₊

/-- The ticks that a battery lasts. -/
def ticksLasting (p : MotionProfile Rat) (charge : Rat) : Nat := ⌈charge / p.discharge⌉₊

/-- A coordinate after so many ticks.  A difference within the slack is left as it is. -/
def along (p : MotionProfile Rat) (origin target : Rat) (k : Nat) : Rat :=
  if p.ticksAcross (target - origin) = 0 then origin
  else if k < p.ticksAcross (target - origin) then
    origin + Coordinate.sign (target - origin) * k * p.step
  else target

variable {p : MotionProfile Rat}

theorem ticksAcross_le (hstep : 0 < p.step) {gap : Rat} {k : Nat} :
    p.ticksAcross gap ≤ k ↔ |gap| ≤ (k + p.slack) * p.step := by
  rw [ticksAcross, Nat.ceil_le, sub_le_iff_le_add, div_le_iff₀ hstep]

theorem lt_ticksAcross (hstep : 0 < p.step) {gap : Rat} {k : Nat} :
    k < p.ticksAcross gap ↔ (k + p.slack) * p.step < |gap| := by
  rw [← not_le, ticksAcross_le hstep, not_le]

theorem ticksLasting_le (hcost : 0 < p.discharge) {charge : Rat} {k : Nat} :
    p.ticksLasting charge ≤ k ↔ charge ≤ k * p.discharge := by
  rw [ticksLasting, Nat.ceil_le, div_le_iff₀ hcost]

/-- `n` is zero for a difference within the slack, else the least positive number of steps that are
long enough, the slack included. -/
def Crosses (p : MotionProfile Rat) (gap : Rat) (n : Nat) : Prop :=
  (|gap| ≤ p.slack * p.step → n = 0) ∧
    (p.slack * p.step < |gap| → IsLeast {n : Nat | 1 ≤ n ∧ |gap| ≤ (n + p.slack) * p.step} n)

/-- `n` is zero for an empty battery, else the least number of discharges that take all of it. -/
def Exhausts (p : MotionProfile Rat) (charge : Rat) (n : Nat) : Prop :=
  (charge ≤ 0 → n = 0) ∧ (0 < charge → IsLeast {n : Nat | charge ≤ n * p.discharge} n)

theorem crosses_ticksAcross (hstep : 0 < p.step) (gap : Rat) :
    p.Crosses gap (p.ticksAcross gap) := by
  have hzero : p.ticksAcross gap ≤ 0 ↔ |gap| ≤ p.slack * p.step := by
    rw [ticksAcross_le hstep, Nat.cast_zero, zero_add]
  refine ⟨fun hnear => Nat.le_zero.mp (hzero.mpr hnear), fun hfar => ⟨⟨?_, ?_⟩, ?_⟩⟩
  · exact Nat.one_le_iff_ne_zero.mpr fun h => not_le.mpr hfar (hzero.mp h.le)
  · exact (ticksAcross_le hstep).mp le_rfl
  · exact fun n hn => (ticksAcross_le hstep).mpr hn.2

theorem exhausts_ticksLasting (hcost : 0 < p.discharge) (charge : Rat) :
    p.Exhausts charge (p.ticksLasting charge) := by
  refine ⟨fun hempty => ?_, fun _ => ⟨(ticksLasting_le hcost).mp le_rfl, ?_⟩⟩
  · refine Nat.le_zero.mp ((ticksLasting_le hcost).mpr ?_)
    rw [Nat.cast_zero, zero_mul]
    exact hempty
  · exact fun n hn => (ticksLasting_le hcost).mpr hn

end MotionProfile

namespace Coordinate

theorem magnitude_eq_abs (x : Rat) : magnitude x = |x| := by
  show (if x < 0 then -x else x) = |x|
  split
  · next h => exact (abs_of_neg h).symm
  · next h => exact (abs_of_nonneg (not_lt.mp h)).symm

theorem sign_mul_abs (x : Rat) : sign x * |x| = x := by
  show (if 0 < x then (1 : Rat) else if x < 0 then -1 else 0) * |x| = x
  split
  · next h => rw [one_mul, abs_of_pos h]
  · split
    · next h => rw [abs_of_neg h, neg_one_mul, neg_neg]
    · next hpos hneg => rw [zero_mul, le_antisymm (not_lt.mp hpos) (not_lt.mp hneg)]

/-- A difference keeps its sign while a part of it is left. -/
theorem sign_sub_part {x part : Rat} (h : part < |x|) (hpart : 0 ≤ part) :
    sign (x - sign x * part) = sign x ∧ |x - sign x * part| = |x| - part := by
  have hsplit : x - sign x * part = sign x * (|x| - part) := by
    rw [mul_sub, sign_mul_abs]
  have hleft : 0 < |x| - part := sub_pos.mpr h
  rw [hsplit]
  rcases lt_trichotomy x 0 with hx | hx | hx
  · have hsign : sign x = (-1 : Rat) := by
      show (if 0 < x then (1 : Rat) else if x < 0 then -1 else 0) = -1
      rw [if_neg hx.le.not_gt, if_pos hx]
    rw [hsign, neg_one_mul]
    refine ⟨?_, by rw [abs_neg, abs_of_pos hleft]⟩
    show (if 0 < -(|x| - part) then (1 : Rat) else if -(|x| - part) < 0 then -1 else 0) = -1
    rw [if_neg (by linarith), if_pos (by linarith)]
  · rw [hx, abs_zero] at h
    exact absurd h hpart.not_gt
  · have hsign : sign x = (1 : Rat) := if_pos hx
    rw [hsign, one_mul]
    exact ⟨if_pos hleft, abs_of_pos hleft⟩

end Coordinate

namespace MotionProfile

variable {p : MotionProfile Rat} {origin target : Rat} {k : Nat}

theorem along_of_lt (h : k < p.ticksAcross (target - origin)) :
    p.along origin target k = origin + Coordinate.sign (target - origin) * k * p.step := by
  rw [along, if_neg (Nat.ne_zero_of_lt h), if_pos h]

theorem along_zero : p.along origin target 0 = origin := by
  rcases Nat.eq_zero_or_pos (p.ticksAcross (target - origin)) with h | h
  · rw [along, if_pos h]
  · rw [along_of_lt h, Nat.cast_zero, mul_zero, zero_mul, add_zero]

/-- What is left of a difference before its last tick. -/
theorem rest_of_lt (hstep : 0 < p.step) (hslack : 0 ≤ p.slack)
    (h : k < p.ticksAcross (target - origin)) :
    Coordinate.sign (target - p.along origin target k) = Coordinate.sign (target - origin) ∧
      |target - p.along origin target k| = |target - origin| - k * p.step := by
  have hpart : 0 ≤ k * p.step := mul_nonneg (Nat.cast_nonneg k) hstep.le
  have hmore : k * p.step < |target - origin| := by
    have hfar : (k + p.slack) * p.step < |target - origin| := (lt_ticksAcross hstep).mp h
    have hlonger : 0 ≤ p.slack * p.step := mul_nonneg hslack hstep.le
    rw [add_mul] at hfar
    linarith
  have hrest : target - p.along origin target k =
      target - origin - Coordinate.sign (target - origin) * (k * p.step) := by
    rw [along_of_lt h, mul_assoc, sub_sub]
  rw [hrest]
  exact Coordinate.sign_sub_part hmore hpart

/-- An axis is reached once its ticks are over, and not before. -/
theorem reached_iff (hstep : 0 < p.step) (hslack : 0 ≤ p.slack) :
    |target - p.along origin target k| ≤ p.step * p.slack ↔
      p.ticksAcross (target - origin) ≤ k := by
  rcases Nat.lt_or_ge k (p.ticksAcross (target - origin)) with h | h
  · rw [(rest_of_lt hstep hslack h).2, ticksAcross_le hstep, add_mul, mul_comm p.step, sub_le_iff_le_add']
  · refine iff_of_true ?_ h
    unfold along
    split
    · next hzero =>
      have hnear : |target - origin| ≤ ((0 : Nat) + p.slack) * p.step :=
        (ticksAcross_le hstep).mp hzero.le
      rwa [Nat.cast_zero, zero_add, mul_comm] at hnear
    · rw [if_neg (Nat.not_lt.mpr h), sub_self, abs_zero]
      exact mul_nonneg hstep.le hslack

/-- A coordinate that is at its place stays there. -/
theorem along_add_one_of_le (h : p.ticksAcross (target - origin) ≤ k) :
    p.along origin target (k + 1) = p.along origin target k := by
  unfold along
  rw [if_neg (Nat.not_lt.mpr h), if_neg (Nat.not_lt.mpr (Nat.le_add_right_of_le h))]

/-- **One step leads from each tick to the next one**, if it is made in the direction of the beginning. -/
theorem advance_along (hstep : 0 < p.step) (hslack : 0 ≤ p.slack)
    (h : k < p.ticksAcross (target - origin)) :
    Simulation.advance p (p.along origin target k) target (Coordinate.sign (target - origin)) =
      p.along origin target (k + 1) := by
  have hlast : |target - p.along origin target k| ≤ p.step * (1 + p.slack) ↔
      p.ticksAcross (target - origin) ≤ k + 1 := by
    rw [(rest_of_lt hstep hslack h).2, ticksAcross_le hstep, sub_le_iff_le_add', Nat.cast_add_one,
      mul_comm p.step, ← add_mul, add_assoc]
  unfold Simulation.advance
  rw [Coordinate.magnitude_eq_abs]
  rcases Nat.lt_or_ge (k + 1) (p.ticksAcross (target - origin)) with hmore | hdone
  · have hfar : ¬|target - p.along origin target k| ≤ p.step * (1 + p.slack) :=
      fun hnear => absurd (hlast.mp hnear) (Nat.not_le.mpr hmore)
    refine (if_neg hfar).trans ?_
    rw [along_of_lt h, along_of_lt hmore, Nat.cast_add_one, mul_add, add_mul, mul_one, add_assoc]
  · refine (if_pos (hlast.mpr hdone)).trans ?_
    rw [along, if_neg (Nat.ne_zero_of_lt h), if_neg (Nat.not_lt.mpr hdone)]

end MotionProfile

/-! ### Both axes -/

namespace Simulation

/-- A movement as it was begun. -/
structure Plan where
  origin : Position Rat
  target : Position Rat
  charge : Rat
  profile : MotionProfile Rat

namespace Plan

variable (plan : Plan)

/-- The ticks that latitude takes. -/
def north : Nat := plan.profile.ticksAcross (plan.target.latitude - plan.origin.latitude)

/-- The ticks that longitude takes. -/
def east : Nat := plan.profile.ticksAcross (plan.target.longitude - plan.origin.longitude)

/-- The ticks until both axes are reached. -/
def crossing : Nat := max plan.north plan.east

/-- The ticks that the battery lasts. -/
def lasting : Nat := plan.profile.ticksLasting plan.charge

/-- The ticks of the movement. -/
def length : Nat := min plan.crossing plan.lasting

/-- The position after so many ticks. -/
def position (k : Nat) : Position Rat where
  latitude := plan.profile.along plan.origin.latitude plan.target.latitude k
  longitude := plan.profile.along plan.origin.longitude plan.target.longitude k

/-- The battery after so many ticks. -/
def battery (k : Nat) : Rat := max 0 (plan.charge - k * plan.profile.discharge)

/-- What is to be said of the movement after so many ticks. -/
def verdict (k : Nat) : Option Outcome :=
  if plan.crossing ≤ k then some .arrived
  else if plan.lasting ≤ k then some .discharged
  else none

/-- The headings of the beginning. -/
def bearing : Position Rat where
  latitude := Coordinate.sign (plan.target.latitude - plan.origin.latitude)
  longitude := Coordinate.sign (plan.target.longitude - plan.origin.longitude)

/-- What `MotionProfile.check` asks of a profile, and a slack that is not negative. -/
structure Sound : Prop where
  step : 0 < plan.profile.step
  discharge : 0 < plan.profile.discharge
  slack : 0 ≤ plan.profile.slack

end Plan

/-- What the headings of a phase are while the axes that it moves are not reached: those of the
beginning.  The axes that it does not move have been reached. -/
def Steers (plan : Plan) (k : Nat) (phase : Phase) (heading : Position Rat) : Prop :=
  match phase with
  | .diagonal => heading = plan.bearing
  | .latitude => k < plan.north → plan.east ≤ k ∧ heading.latitude = plan.bearing.latitude
  | .longitude => plan.north ≤ k ∧ (k < plan.east → heading.longitude = plan.bearing.longitude)

/-- The axes that the phase moves are not reached yet. -/
def Presses (plan : Plan) (k : Nat) (phase : Phase) : Prop :=
  match phase with
  | .diagonal => k < plan.north ∧ k < plan.east
  | .latitude => k < plan.north
  | .longitude => k < plan.east

/-- A movement `k` ticks after its beginning, its outcome apart. -/
structure Follows (plan : Plan) (k : Nat) (s : Simulation Rat) : Prop where
  position : s.position = plan.position k
  destination : s.destination = plan.target
  profile : s.profile = plan.profile
  charge : s.charge = plan.charge
  tick : s.tick = k
  battery : s.battery = plan.battery k
  steers : Steers plan k s.phase s.heading

variable {plan : Plan} {k : Nat} {s : Simulation Rat}

theorem latitudeReached_iff (sound : plan.Sound) (h : Follows plan k s) :
    s.latitudeReached = true ↔ plan.north ≤ k := by
  rw [latitudeReached, decide_eq_true_iff, Coordinate.magnitude_eq_abs, h.position, h.destination,
    h.profile]
  exact MotionProfile.reached_iff sound.step sound.slack

theorem longitudeReached_iff (sound : plan.Sound) (h : Follows plan k s) :
    s.longitudeReached = true ↔ plan.east ≤ k := by
  rw [longitudeReached, decide_eq_true_iff, Coordinate.magnitude_eq_abs, h.position, h.destination,
    h.profile]
  exact MotionProfile.reached_iff sound.step sound.slack

theorem battery_le_zero_iff (sound : plan.Sound) (h : Follows plan k s) :
    s.battery ≤ Coordinate.zero ↔ plan.lasting ≤ k := by
  rw [h.battery]
  show max 0 _ ≤ (0 : Rat) ↔ _
  rw [max_le_iff, sub_nonpos, Plan.lasting, MotionProfile.ticksLasting_le sound.discharge]
  exact and_iff_right le_rfl

/-- A heading that is taken on the way is the one of the beginning, on an axis that is not reached. -/
theorem headings_latitude (sound : plan.Sound) (h : Follows plan k s) (far : k < plan.north) :
    s.headings.latitude = plan.bearing.latitude := by
  show Coordinate.sign (s.destination.latitude - s.position.latitude) = _
  rw [h.position, h.destination]
  exact (MotionProfile.rest_of_lt sound.step sound.slack far).1

theorem headings_longitude (sound : plan.Sound) (h : Follows plan k s) (far : k < plan.east) :
    s.headings.longitude = plan.bearing.longitude := by
  show Coordinate.sign (s.destination.longitude - s.position.longitude) = _
  rw [h.position, h.destination]
  exact (MotionProfile.rest_of_lt sound.step sound.slack far).1

/-- Entering a phase changes neither the place nor the battery. -/
theorem Follows.enter (h : Follows plan k s) {phase : Phase}
    (steers : Steers plan k phase s.headings) : Follows plan k (s.enter phase) :=
  ⟨h.position, h.destination, h.profile, h.charge, h.tick, h.battery, steers⟩

/-- A turn first leaves the diagonal phase, if that is due, ... -/
def leaveDiagonal (s : Simulation Rat) : Simulation Rat :=
  if s.phase = .diagonal ∧ (s.latitudeReached || s.longitudeReached) then s.enter .latitude else s

/-- ... and then the latitude phase. -/
def leaveLatitude (s : Simulation Rat) : Simulation Rat :=
  if s.phase = .latitude ∧ s.latitudeReached then s.enter .longitude else s

theorem turn_eq (s : Simulation Rat) : s.turn = s.leaveDiagonal.leaveLatitude := rfl

theorem Follows.leaveDiagonal (sound : plan.Sound) (h : Follows plan k s) :
    Follows plan k s.leaveDiagonal ∧
      (s.leaveDiagonal.phase = .diagonal → k < plan.north ∧ k < plan.east) := by
  unfold Simulation.leaveDiagonal
  split
  · next hreached =>
    refine ⟨h.enter fun hnorth => ?_, fun hphase => nomatch hphase⟩
    have hlatitude : ¬s.latitudeReached = true :=
      fun hdone => Nat.not_le.mpr hnorth ((latitudeReached_iff sound h).mp hdone)
    have hlongitude : s.longitudeReached = true :=
      ((Bool.or_eq_true _ _).mp hreached.2).resolve_left hlatitude
    exact ⟨(longitudeReached_iff sound h).mp hlongitude, headings_latitude sound h hnorth⟩
  · next hleft =>
    refine ⟨h, fun hphase => ?_⟩
    rw [Bool.or_eq_true, not_and, not_or] at hleft
    obtain ⟨hlatitude, hlongitude⟩ := hleft hphase
    exact ⟨Nat.not_le.mp fun hdone => hlatitude ((latitudeReached_iff sound h).mpr hdone),
      Nat.not_le.mp fun hdone => hlongitude ((longitudeReached_iff sound h).mpr hdone)⟩

theorem Follows.leaveLatitude (sound : plan.Sound) (h : Follows plan k s)
    (far : k < plan.crossing) (diagonal : s.phase = .diagonal → k < plan.north ∧ k < plan.east) :
    Follows plan k s.leaveLatitude ∧ Presses plan k s.leaveLatitude.phase := by
  have hlongitude : plan.north ≤ k → k < plan.east :=
    fun hdone => (lt_max_iff.mp far).resolve_left (Nat.not_lt.mpr hdone)
  unfold Simulation.leaveLatitude
  split
  · next hreached =>
    have hdone : plan.north ≤ k := (latitudeReached_iff sound h).mp hreached.2
    exact ⟨h.enter ⟨hdone, headings_longitude sound h⟩, hlongitude hdone⟩
  · next hleft =>
    refine ⟨h, ?_⟩
    have hsteers := h.steers
    cases hphase : s.phase with
    | diagonal => exact diagonal hphase
    | latitude =>
      exact Nat.not_le.mp fun hdone => hleft ⟨hphase, (latitudeReached_iff sound h).mpr hdone⟩
    | longitude =>
      rw [hphase] at hsteers
      exact hlongitude hsteers.1

/-- **Before a step the phase is one whose axes are not reached**, while one of the axes is not. -/
theorem Follows.turn (sound : plan.Sound) (h : Follows plan k s) (far : k < plan.crossing) :
    Follows plan k s.turn ∧ Presses plan k s.turn.phase := by
  obtain ⟨hfollows, hdiagonal⟩ := h.leaveDiagonal sound
  rw [turn_eq]
  exact hfollows.leaveLatitude sound far hdiagonal

/-- A movement after its move and before its battery is drained. -/
structure Moved (plan : Plan) (k : Nat) (s : Simulation Rat) : Prop where
  position : s.position = plan.position (k + 1)
  destination : s.destination = plan.target
  profile : s.profile = plan.profile
  charge : s.charge = plan.charge
  tick : s.tick = k
  steers : Steers plan (k + 1) s.phase s.heading

/-- A step on an axis that is not reached leads to the next place on it. -/
theorem Follows.latitude (sound : plan.Sound) (h : Follows plan k s) (far : k < plan.north)
    (heading : s.heading.latitude = plan.bearing.latitude) :
    advance s.profile s.position.latitude s.destination.latitude s.heading.latitude =
      (plan.position (k + 1)).latitude := by
  rw [h.position, h.destination, h.profile, heading]
  exact MotionProfile.advance_along sound.step sound.slack far

theorem Follows.longitude (sound : plan.Sound) (h : Follows plan k s) (far : k < plan.east)
    (heading : s.heading.longitude = plan.bearing.longitude) :
    advance s.profile s.position.longitude s.destination.longitude s.heading.longitude =
      (plan.position (k + 1)).longitude := by
  rw [h.position, h.destination, h.profile, heading]
  exact MotionProfile.advance_along sound.step sound.slack far

/-- An axis that is reached is left where it is. -/
theorem Follows.latitude_rests (h : Follows plan k s) (reached : plan.north ≤ k) :
    s.position.latitude = (plan.position (k + 1)).latitude := by
  rw [h.position]
  exact (MotionProfile.along_add_one_of_le reached).symm

theorem Follows.longitude_rests (h : Follows plan k s) (reached : plan.east ≤ k) :
    s.position.longitude = (plan.position (k + 1)).longitude := by
  rw [h.position]
  exact (MotionProfile.along_add_one_of_le reached).symm

theorem Follows.move (sound : plan.Sound) (h : Follows plan k s) (far : k < plan.crossing) :
    Moved plan k s.move := by
  obtain ⟨hturn, hpresses⟩ := h.turn sound far
  have hsteers := hturn.steers
  unfold Simulation.move
  dsimp only
  cases hphase : s.turn.phase with
  | diagonal =>
    rw [hphase] at hsteers hpresses
    have hheading : s.turn.heading = plan.bearing := hsteers
    have hnorth := hturn.latitude sound hpresses.1 (congrArg Position.latitude hheading)
    have heast := hturn.longitude sound hpresses.2 (congrArg Position.longitude hheading)
    refine ⟨congrArg₂ Position.mk hnorth heast, hturn.destination, hturn.profile, hturn.charge,
      hturn.tick, ?_⟩
    show Steers plan (k + 1) s.turn.phase s.turn.heading
    rw [hphase]
    exact hheading
  | latitude =>
    rw [hphase] at hsteers hpresses
    obtain ⟨hreached, hheading⟩ := hsteers hpresses
    have hnorth := hturn.latitude sound hpresses hheading
    have heast := hturn.longitude_rests hreached
    refine ⟨congrArg₂ Position.mk hnorth heast, hturn.destination, hturn.profile, hturn.charge,
      hturn.tick, ?_⟩
    show Steers plan (k + 1) s.turn.phase s.turn.heading
    rw [hphase]
    exact fun _ => ⟨Nat.le_add_right_of_le hreached, hheading⟩
  | longitude =>
    rw [hphase] at hsteers hpresses
    obtain ⟨hreached, hheading⟩ := hsteers
    have hnorth := hturn.latitude_rests hreached
    have heast := hturn.longitude sound hpresses (hheading hpresses)
    refine ⟨congrArg₂ Position.mk hnorth heast, hturn.destination, hturn.profile, hturn.charge,
      hturn.tick, ?_⟩
    show Steers plan (k + 1) s.turn.phase s.turn.heading
    rw [hphase]
    exact ⟨Nat.le_add_right_of_le hreached, fun _ => hheading hpresses⟩

theorem Moved.drain (h : Moved plan k s) (counted : k < lastTick) :
    Follows plan (k + 1) s.drain := by
  have htick : min (s.tick + 1) lastTick = k + 1 := by
    rw [h.tick]
    omega
  refine ⟨h.position, h.destination, h.profile, h.charge, htick, ?_, h.steers⟩
  show Coordinate.floored (s.charge - s.profile.discharge * ((min (s.tick + 1) lastTick : Nat) : Rat)) = _
  rw [htick, h.charge, h.profile, floored_eq_max, mul_comm]
  rfl

/-- The outcome of a movement that had none. -/
theorem Follows.settle (sound : plan.Sound) (h : Follows plan k s) (none : s.outcome = none) :
    Follows plan k s.settle ∧ s.settle.outcome = plan.verdict k := by
  have hcrossed : (s.latitudeReached && s.longitudeReached) = true ↔ plan.crossing ≤ k := by
    rw [Bool.and_eq_true, latitudeReached_iff sound h, longitudeReached_iff sound h]
    exact max_le_iff.symm
  have hempty := battery_le_zero_iff sound h
  have hkept : ∀ o, Follows plan k { s with outcome := o } := fun o =>
    ⟨h.position, h.destination, h.profile, h.charge, h.tick, h.battery, h.steers⟩
  unfold Simulation.settle Plan.verdict
  by_cases hdone : plan.crossing ≤ k
  · rw [if_pos (hcrossed.mpr hdone), if_pos hdone]
    exact ⟨hkept _, rfl⟩
  · rw [if_neg fun hreached => hdone (hcrossed.mp hreached), if_neg hdone]
    by_cases hlast : plan.lasting ≤ k
    · rw [if_pos (hempty.mpr hlast), if_pos hlast]
      exact ⟨hkept _, rfl⟩
    · rw [if_neg fun hbattery => hlast (hempty.mp hbattery), if_neg hlast]
      exact ⟨h, none⟩

theorem outcome_turn (s : Simulation Rat) : s.turn.outcome = s.outcome := by
  unfold Simulation.turn
  dsimp only
  split <;> split <;> rfl

theorem outcome_move (s : Simulation Rat) : s.move.outcome = s.outcome := by
  rw [← outcome_turn s]
  unfold Simulation.move
  dsimp only
  split <;> rfl

/-- A movement after `k` ticks. -/
structure OnCourse (plan : Plan) (k : Nat) (s : Simulation Rat) : Prop where
  follows : Follows plan k s
  outcome : s.outcome = plan.verdict k

theorem Plan.verdict_of_lt (h : k < plan.length) : plan.verdict k = none := by
  obtain ⟨hcrossing, hlasting⟩ := lt_min_iff.mp h
  rw [Plan.verdict, if_neg (Nat.not_le.mpr hcrossing), if_neg (Nat.not_le.mpr hlasting)]

theorem Plan.verdict_length :
    plan.verdict plan.length = some (if plan.crossing ≤ plan.lasting then .arrived else .discharged) := by
  unfold Plan.verdict Plan.length
  by_cases h : plan.crossing ≤ plan.lasting
  · rw [Nat.min_eq_left h, if_pos le_rfl, if_pos h]
  · rw [Nat.min_eq_right (Nat.le_of_not_le h), if_neg h, if_pos le_rfl, if_neg h]

/-- **One tick on course.** -/
theorem OnCourse.step (sound : plan.Sound) (h : OnCourse plan k s) (before : k < plan.length)
    (counted : k < lastTick) :
    ∃ s', s.step? = some s' ∧ OnCourse plan (k + 1) s' := by
  have hnone : s.outcome = none := h.outcome.trans (Plan.verdict_of_lt before)
  have hmoved : Moved plan k s.move := h.follows.move sound (lt_min_iff.mp before).1
  have hfollows : Follows plan (k + 1) s.move.drain := hmoved.drain counted
  obtain ⟨hsettled, houtcome⟩ := hfollows.settle sound ((outcome_move s).trans hnone)
  refine ⟨s.move.drain.settle, ?_, hsettled, houtcome⟩
  rw [Simulation.step?, hnone]

theorem onCourse_start (sound : plan.Sound) :
    OnCourse plan 0 (start plan.origin plan.target plan.charge plan.profile) := by
  have horigin : plan.position 0 = plan.origin :=
    congrArg₂ Position.mk MotionProfile.along_zero MotionProfile.along_zero
  have hcharge : plan.battery 0 = Coordinate.floored plan.charge := by
    rw [Plan.battery, floored_eq_max, Nat.cast_zero, zero_mul, sub_zero]
  have hfollows : Follows plan 0
      ({ position := plan.origin, destination := plan.target, charge := plan.charge,
         battery := Coordinate.floored plan.charge, profile := plan.profile, phase := .diagonal,
         heading := plan.bearing, tick := 0, outcome := none } : Simulation Rat) :=
    ⟨horigin.symm, rfl, rfl, rfl, rfl, hcharge.symm, rfl⟩
  obtain ⟨hsettled, houtcome⟩ := hfollows.settle sound rfl
  exact ⟨hsettled, houtcome⟩

/-- A movement that is begun gets on. -/
theorem step_pos {position destination : Position Rat} {battery : Rat} {profile : MotionProfile Rat}
    {m : Simulation Rat} (h : start? position destination battery profile = .ok m) :
    0 < profile.step := by
  by_contra hneg
  have hstep : profile.step ≤ (0 : Rat) := not_lt.mp hneg
  have hcheck : profile.check = .error (.step profile.step) := by
    refine if_pos ?_
    rw [Bool.or_eq_true, decide_eq_true_iff]
    exact .inr hstep
  rw [start?, hcheck] at h
  cases h

theorem sound_of_start? {m : Simulation Rat}
    (h : start? plan.origin plan.target plan.charge plan.profile = .ok m)
    (slack : 0 ≤ plan.profile.slack) : plan.Sound :=
  ⟨step_pos h, discharge_pos h, slack⟩

/-- The state after so many calls of `next`. -/
def after (s : Simulation Rat) : Nat → Simulation Rat
  | 0 => s
  | calls + 1 => (s.after calls).next.2

theorem onCourse_after (sound : plan.Sound) (bound : plan.length ≤ lastTick) (h : k ≤ plan.length) :
    OnCourse plan k ((start plan.origin plan.target plan.charge plan.profile).after k) := by
  induction k with
  | zero => exact onCourse_start sound
  | succ k ih =>
    obtain ⟨s', hstep, hcourse⟩ :=
      (ih (Nat.le_of_succ_le h)).step sound h (Nat.lt_of_lt_of_le h bound)
    show OnCourse plan (k + 1) (Simulation.next _).2
    rw [next_snd, hstep]
    exact hcourse

/-- What a plan tells of a movement. -/
structure Foretells (plan : Plan) (m : Simulation Rat) : Prop where
  north : plan.profile.Crosses (plan.target.latitude - plan.origin.latitude) plan.north
  east : plan.profile.Crosses (plan.target.longitude - plan.origin.longitude) plan.east
  lasting : plan.profile.Exhausts plan.charge plan.lasting
  /-- A sample a tick, and no outcome, as long as the plan is. -/
  underWay : ∀ k < plan.length, (m.after k).outcome = none ∧
    (m.after k).next.1 = some ⟨k + 1, plan.position (k + 1), plan.battery (k + 1)⟩
  /-- The outcome comes with the last sample, and nothing changes any more. -/
  rests : ∀ k ≥ plan.length,
    (m.after k).outcome =
      some (if plan.crossing ≤ plan.lasting then .arrived else .discharged) ∧
    (m.after k).next = (none, m.after k)

/-- **A movement goes as its plan tells**: it has as many samples as the shorter one of its crossing and
its battery takes, each of them where the plan has it, and has arrived if the crossing is not the longer
one. -/
theorem course {plan : Plan} {m : Simulation Rat}
    (h : start? plan.origin plan.target plan.charge plan.profile = .ok m)
    (slack : 0 ≤ plan.profile.slack) (bound : plan.length < 2 ^ 64) : Foretells plan m := by
  have sound : plan.Sound := sound_of_start? h slack
  have hbound : plan.length ≤ lastTick := by
    show plan.length ≤ 2 ^ 64 - 1
    omega
  obtain rfl := eq_start_of_start? h
  refine ⟨MotionProfile.crosses_ticksAcross sound.step _, MotionProfile.crosses_ticksAcross sound.step _,
    MotionProfile.exhausts_ticksLasting sound.discharge _, ?_, ?_⟩
  · intro k hk
    have hcourse := onCourse_after sound hbound hk.le
    obtain ⟨s', hstep, hcourse'⟩ := hcourse.step sound hk (Nat.lt_of_lt_of_le hk hbound)
    refine ⟨hcourse.outcome.trans (Plan.verdict_of_lt hk), ?_⟩
    rw [Simulation.next, hstep]
    show some s'.sample = _
    rw [sample, hcourse'.follows.tick, hcourse'.follows.position, hcourse'.follows.battery]
  · intro k hk
    induction hk with
    | refl =>
      have houtcome := (onCourse_after sound hbound le_rfl).outcome.trans Plan.verdict_length
      refine ⟨houtcome, ?_⟩
      rw [Simulation.next, step?_eq_none_iff.mpr ⟨_, houtcome⟩]
    | @step k hk ih =>
      have hstays : (start plan.origin plan.target plan.charge plan.profile).after (k + 1) =
          (start plan.origin plan.target plan.charge plan.profile).after k :=
        congrArg Prod.snd ih.2
      rw [hstays]
      exact ih

/-- Two steps north and four west, on a battery for three of them. -/
def westward : Plan where
  origin := ⟨0, 0⟩
  target := ⟨1 / 2, -1⟩
  charge := 3
  profile := ⟨1 / 4, 1, 450, 1 / 1000000000⟩

theorem course_westward :
    ∃ m, start? westward.origin westward.target westward.charge westward.profile = .ok m ∧
      0 ≤ westward.profile.slack ∧ westward.length = 3 ∧ Foretells westward m ∧
      (m.after 2).next.1 = some ⟨3, ⟨1 / 2, -3 / 4⟩, 0⟩ ∧
      (m.after 3).outcome = some .discharged := by
  have hstart : start? westward.origin westward.target westward.charge westward.profile =
      .ok (start westward.origin westward.target westward.charge westward.profile) := by
    rw [start?, MotionProfile.check, if_neg (by decide +kernel), if_neg (by decide +kernel)]
    rfl
  have hslack : 0 ≤ westward.profile.slack := by decide +kernel
  have hlength : westward.length = 3 := by decide +kernel
  have hcourse := course hstart hslack (by rw [hlength]; decide)
  refine ⟨_, hstart, hslack, hlength, hcourse, ?_, ?_⟩
  · exact (hcourse.underWay 2 (by rw [hlength]; decide)).2.trans (by decide +kernel)
  · exact (hcourse.rests 3 hlength.le).1.trans (by decide +kernel)

end Simulation

end Exact
end ScooterFleet
