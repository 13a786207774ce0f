import ScooterFleet.Proofs.Motion.Course

/-!
# Where an arrived scooter is

A scooter has arrived once both coordinates are within the slack of the destination.  That need not be
the destination: a coordinate within the slack is not moved any more, and only a step that is short enough
sets it on its target.

* `MotionProfile.Footstep` — what one tick does to a coordinate: it rests, is set on its target, or goes
  one whole step;
* `MotionProfile.FallsShort` — a whole step that ends within the slack;
* `Simulation.Poised` — what holds of a movement between two ticks;
* `Simulation.arrived_where` — **where an arrived scooter is, on each axis**;
* `Simulation.not_fallsShort`, `Simulation.arrived_exactly` — with exact numbers no step falls short, so
  that the scooter is on its destination unless it began within the slack.

Except for these last ones no law of arithmetic is used, and doubles obey few.
-/

namespace ScooterFleet

open Coordinate

/-! ### One coordinate -/

/-- One of the two coordinates of a position. -/
inductive Axis where
  | latitude
  | longitude
  deriving DecidableEq, Repr

namespace Position

variable {α : Type}

/-- The coordinate on an axis. -/
def on (p : Position α) : Axis → α
  | .latitude => p.latitude
  | .longitude => p.longitude

theorem eq_iff_on {p q : Position α} : p = q ↔ ∀ a, p.on a = q.on a :=
  ⟨fun h _ => h ▸ rfl, fun h => congrArg₂ Position.mk (h .latitude) (h .longitude)⟩

end Position

namespace MotionProfile

variable {α : Type} [Coordinate α]

/-- The coordinate counts as equal to its target. -/
def Near (p : MotionProfile α) (target x : α) : Prop := magnitude (target - x) ≤ p.step * p.slack

/-- A step from here is set on the target. -/
def InReach (p : MotionProfile α) (target x : α) : Prop :=
  magnitude (target - x) ≤ p.step * (ofNat 1 + p.slack)

/-- A whole step from `x` to `y` that ends within the slack, though the target was out of reach. -/
structure FallsShort (p : MotionProfile α) (target x y : α) : Prop where
  beyond : ¬p.InReach target x
  stride : ∃ d, y = x + sign d * p.step
  near : p.Near target y

/-- What one tick does to a coordinate. -/
inductive Footstep (p : MotionProfile α) (target x : α) : α → Prop where
  | rests : Footstep p target x x
  | lands (far : ¬p.Near target x) (reach : p.InReach target x) : Footstep p target x target
  | strides (far : ¬p.Near target x) (beyond : ¬p.InReach target x) (d : α) :
      Footstep p target x (x + sign d * p.step)

variable {p : MotionProfile α} {target : α}

theorem footstep_advance {x : α} (far : ¬p.Near target x) (d : α) :
    p.Footstep target x (Simulation.advance p x target (sign d)) := by
  unfold Simulation.advance
  split
  · next h => exact .lands far h
  · next h => exact .strides far h d

theorem Footstep.eq_of_near {x y : α} (h : p.Footstep target x y) (near : p.Near target x) : y = x := by
  cases h with
  | rests => rfl
  | lands far => exact absurd near far
  | strides far => exact absurd near far

variable {x : Nat → α} {n : Nat}

/-- **A coordinate that begins within the slack is never moved.** -/
theorem kept_of_near (steps : ∀ i < n, p.Footstep target (x i) (x (i + 1)))
    (near : p.Near target (x 0)) : x n = x 0 := by
  induction n with
  | zero => rfl
  | succ n ih =>
    have hkept : x n = x 0 := ih fun i hi => steps i (Nat.lt_succ_of_lt hi)
    have hnear : p.Near target (x n) := hkept.symm ▸ near
    exact ((steps n (Nat.lt_succ_self n)).eq_of_near hnear).trans hkept

/-- **A coordinate that has come within the slack was set on its target**, or a step fell short of it. -/
theorem set_of_far (steps : ∀ i < n, p.Footstep target (x i) (x (i + 1)))
    (far : ¬p.Near target (x 0)) (near : p.Near target (x n)) :
    x n = target ∨ ∃ j < n, p.FallsShort target (x j) (x n) := by
  induction n with
  | zero => exact absurd near far
  | succ n ih =>
    have hstep := steps n (Nat.lt_succ_self n)
    generalize hy : x (n + 1) = y at hstep near
    cases hstep with
    | rests =>
      obtain htarget | ⟨j, hj, hshort⟩ := ih (fun i hi => steps i (Nat.lt_succ_of_lt hi)) near
      · exact .inl htarget
      · exact .inr ⟨j, Nat.lt_succ_of_lt hj, hshort⟩
    | lands => exact .inl rfl
    | strides _ beyond d => exact .inr ⟨n, Nat.lt_succ_self n, beyond, ⟨d, rfl⟩, near⟩

end MotionProfile

/-! ### A movement between two ticks -/

namespace Simulation

variable {α : Type} [Coordinate α]

/-- The coordinate counts as equal to its target. -/
def Reached (s : Simulation α) (a : Axis) : Prop := s.profile.Near (s.destination.on a) (s.position.on a)

theorem latitudeReached_eq_true (s : Simulation α) :
    s.latitudeReached = true ↔ s.Reached .latitude := decide_eq_true_iff

theorem longitudeReached_eq_true (s : Simulation α) :
    s.longitudeReached = true ↔ s.Reached .longitude := decide_eq_true_iff

theorem forall_reached {s : Simulation α} :
    (s.latitudeReached && s.longitudeReached) = true ↔ ∀ a, s.Reached a := by
  rw [Bool.and_eq_true, latitudeReached_eq_true, longitudeReached_eq_true]
  refine ⟨fun h a => ?_, fun h => ⟨h .latitude, h .longitude⟩⟩
  cases a with
  | latitude => exact h.1
  | longitude => exact h.2

/-- The headings are signs, and the last phase is not entered before latitude is reached. -/
structure Steered (s : Simulation α) : Prop where
  signs : ∀ a, ∃ d, s.heading.on a = sign d
  passed : s.phase = .longitude → s.Reached .latitude

/-- What holds of a movement between two ticks: it has arrived if and only if both axes are reached. -/
structure Poised (s : Simulation α) : Prop extends Steered s where
  underWay : s.outcome = none → ¬∀ a, s.Reached a
  arrived : s.outcome = some .arrived → ∀ a, s.Reached a

theorem poised_settle {s : Simulation α} (steered : s.Steered) (unsettled : s.outcome = none) :
    s.settle.Poised := by
  have hkept : ∀ o, Steered { s with outcome := o } := fun _ => ⟨steered.signs, steered.passed⟩
  unfold settle
  split
  · next hboth => exact ⟨hkept _, nofun, fun _ => forall_reached.mp hboth⟩
  · next hboth =>
    split
    · exact ⟨hkept _, nofun, nofun⟩
    · refine ⟨steered, fun _ hall => hboth (forall_reached.mpr hall), fun h => ?_⟩
      rw [unsettled] at h
      cases h

theorem signs_headings (s : Simulation α) (a : Axis) : ∃ d, s.headings.on a = sign d := by
  cases a with
  | latitude => exact ⟨_, rfl⟩
  | longitude => exact ⟨_, rfl⟩

theorem poised_start (position destination : Position α) (battery : α) (profile : MotionProfile α) :
    (start position destination battery profile).Poised :=
  poised_settle ⟨signs_headings _, nofun⟩ rfl

/-- What no step changes before its end. -/
def aim {α : Type} (s : Simulation α) : Position α × MotionProfile α × Option Outcome :=
  (s.destination, s.profile, s.outcome)

/-- A movement that is about to step.  The phase is one whose axes are not reached, the last one apart:
that it steps at all shows as much of longitude. -/
structure Turned (s t : Simulation α) : Prop extends Steered t where
  position : t.position = s.position
  aim : t.aim = s.aim
  diagonal : t.phase = .diagonal → ∀ a, ¬t.Reached a
  latitude : t.phase = .latitude → ¬t.Reached .latitude

theorem turned_turn {s : Simulation α} (steered : s.Steered) : s.Turned s.turn := by
  unfold turn
  -- the first half leaves the diagonal phase, the second one the latitude phase
  generalize hfirst : (if s.phase = .diagonal ∧ (s.latitudeReached || s.longitudeReached) = true then
    s.enter .latitude else s) = t
  have hhalf : t.Steered ∧ t.position = s.position ∧ t.aim = s.aim ∧
      (t.phase = .diagonal → ∀ a, ¬t.Reached a) := by
    subst hfirst
    split
    · exact ⟨⟨signs_headings s, nofun⟩, rfl, rfl, nofun⟩
    · next hstays =>
      refine ⟨steered, rfl, rfl, fun hphase a hreached => hstays ⟨hphase, ?_⟩⟩
      rw [Bool.or_eq_true, latitudeReached_eq_true, longitudeReached_eq_true]
      cases a with
      | latitude => exact .inl hreached
      | longitude => exact .inr hreached
  obtain ⟨hsteered, hposition, haim, hdiagonal⟩ := hhalf
  dsimp only
  split
  · next hreached =>
    have hlatitude : t.Reached .latitude := (latitudeReached_eq_true t).mp hreached.2
    exact ⟨⟨signs_headings t, fun _ => hlatitude⟩, hposition, haim, nofun, nofun⟩
  · next hstays =>
    refine ⟨hsteered, hposition, haim, hdiagonal, fun hphase hreached => hstays ⟨hphase, ?_⟩⟩
    exact (latitudeReached_eq_true t).mpr hreached

/-- A movement after its step and before its battery is drained. -/
structure Stepped (s t : Simulation α) : Prop extends Steered t where
  aim : t.aim = s.aim
  footstep : ∀ a, s.profile.Footstep (s.destination.on a) (s.position.on a) (t.position.on a)

theorem stepped_move {s : Simulation α} (poised : s.Poised) (underWay : s.outcome = none) :
    s.Stepped s.move := by
  obtain ⟨⟨hsigns, hpassed⟩, hposition, haim, hdiagonal, hlatitude⟩ := turned_turn poised.toSteered
  unfold move
  generalize s.turn = t at hsigns hpassed hposition haim hdiagonal hlatitude
  obtain ⟨hdestination, hrest⟩ := Prod.mk.inj haim
  obtain ⟨hprofile, -⟩ := Prod.mk.inj hrest
  -- a step on an axis that is not reached
  have hsteps : ∀ a, ¬t.Reached a → s.profile.Footstep (s.destination.on a) (s.position.on a)
      (advance t.profile (t.position.on a) (t.destination.on a) (t.heading.on a)) := by
    intro a hfar
    obtain ⟨d, hd⟩ := hsigns a
    unfold Reached at hfar
    rw [hprofile, hdestination, hposition] at hfar
    rw [hprofile, hdestination, hposition, hd]
    exact MotionProfile.footstep_advance hfar d
  have hrests : ∀ a, s.profile.Footstep (s.destination.on a) (s.position.on a) (t.position.on a) := by
    intro a
    rw [hposition]
    exact .rests
  dsimp only
  cases hphase : t.phase with
  | diagonal =>
    refine ⟨⟨hsigns, fun h => nomatch hphase.symm.trans h⟩, haim, fun a => ?_⟩
    cases a with
    | latitude => exact hsteps .latitude (hdiagonal hphase .latitude)
    | longitude => exact hsteps .longitude (hdiagonal hphase .longitude)
  | latitude =>
    refine ⟨⟨hsigns, fun h => nomatch hphase.symm.trans h⟩, haim, fun a => ?_⟩
    cases a with
    | latitude => exact hsteps .latitude (hlatitude hphase)
    | longitude => exact hrests .longitude
  | longitude =>
    have hfar : ¬t.Reached .longitude := by
      intro hreached
      refine poised.underWay underWay fun a => ?_
      unfold Reached
      rw [← hprofile, ← hdestination, ← hposition]
      cases a with
      | latitude => exact hpassed hphase
      | longitude => exact hreached
    refine ⟨⟨hsigns, fun _ => hpassed hphase⟩, haim, fun a => ?_⟩
    cases a with
    | latitude => exact hrests .latitude
    | longitude => exact hsteps .longitude hfar

/-- **One tick**: each coordinate makes one footstep, and the movement is between two ticks again. -/
theorem footstep_of_step? {s s' : Simulation α} (poised : s.Poised) (h : s.step? = some s') :
    s'.Poised ∧ s'.destination = s.destination ∧ s'.profile = s.profile ∧
      ∀ a, s.profile.Footstep (s.destination.on a) (s.position.on a) (s'.position.on a) := by
  unfold step? at h
  split at h
  · cases h
  · next hnone =>
    cases h
    obtain ⟨⟨hsigns, hpassed⟩, haim, hfootstep⟩ := stepped_move poised hnone
    obtain ⟨hdestination, hrest⟩ := Prod.mk.inj haim
    obtain ⟨hprofile, houtcome⟩ := Prod.mk.inj hrest
    have hsettled : s.move.drain.settle.Poised :=
      poised_settle ⟨hsigns, hpassed⟩ (houtcome.trans hnone)
    obtain ⟨-, hkept⟩ := Prod.mk.inj (gauge_settle s.move.drain)
    refine ⟨hsettled, (destination_settle _).trans hdestination,
      (congrArg Prod.fst hkept).trans hprofile, fun a => ?_⟩
    rw [position_settle]
    exact hfootstep a

/-! ### From the start to the arrival -/

section Whole

variable {s : Simulation α}

theorem poised_trace (poised : s.Poised) (n : Nat) :
    (s.trace n).2.Poised ∧ (s.trace n).2.destination = s.destination ∧
      (s.trace n).2.profile = s.profile := by
  induction n with
  | zero => exact ⟨poised, rfl, rfl⟩
  | succ n ih =>
    obtain ⟨hpoised, hdestination, hprofile⟩ := ih
    rw [trace_succ]
    cases hstep : (s.trace n).2.step? with
    | none => exact ⟨hpoised, hdestination, hprofile⟩
    | some s' =>
      obtain ⟨hpoised', hdestination', hprofile', -⟩ := footstep_of_step? hpoised hstep
      exact ⟨hpoised', hdestination'.trans hdestination, hprofile'.trans hprofile⟩

theorem footstep_trace (poised : s.Poised) (a : Axis) (n : Nat) :
    s.profile.Footstep (s.destination.on a) ((s.trace n).2.position.on a)
      ((s.trace (n + 1)).2.position.on a) := by
  obtain ⟨hpoised, hdestination, hprofile⟩ := poised_trace poised n
  rw [trace_succ]
  cases hstep : (s.trace n).2.step? with
  | none => exact .rests
  | some s' =>
    obtain ⟨-, -, -, hfootstep⟩ := footstep_of_step? hpoised hstep
    rw [hprofile, hdestination] at hfootstep
    exact hfootstep a

/-- Where a movement from `origin` to `target` is on one axis, `k` ticks after its start. -/
structure Arrives (origin target : Position α) (p : MotionProfile α) (m : Simulation α) (k : Nat)
    (a : Axis) : Prop where
  /-- Within the slack. -/
  near : p.Near (target.on a) ((m.trace k).2.position.on a)
  /-- Where it began, if it began within the slack. -/
  kept : p.Near (target.on a) (origin.on a) → (m.trace k).2.position.on a = origin.on a
  /-- Else on the destination, if no step fell short of it. -/
  set : ¬p.Near (target.on a) (origin.on a) → (m.trace k).2.position.on a = target.on a ∨
    ∃ j < k, p.FallsShort (target.on a) ((m.trace j).2.position.on a) ((m.trace k).2.position.on a)

variable {origin target : Position α} {battery : α} {profile : MotionProfile α} {m : Simulation α}
  {k : Nat}

theorem arrives (h : start? origin target battery profile = .ok m)
    (arrived : (m.trace k).2.outcome = some .arrived) :
    (m.trace k).2.destination = target ∧ ∀ a, Arrives origin target profile m k a := by
  have hposition : m.position = origin := position_of_start? h
  obtain rfl := eq_start_of_start? h
  have hpoised := poised_start origin target battery profile
  have hdestination : (start origin target battery profile).destination = target :=
    destination_settle _
  have hprofile : (start origin target battery profile).profile = profile :=
    congrArg (fun gauge => gauge.2.1) (gauge_start origin target battery profile)
  generalize start origin target battery profile = m at *
  obtain ⟨hpoised', hdestination', hprofile'⟩ := poised_trace hpoised k
  refine ⟨hdestination'.trans hdestination, fun a => ?_⟩
  have hnear := hpoised'.arrived arrived a
  have hsteps := footstep_trace hpoised a
  unfold Reached at hnear
  rw [hprofile', hdestination', hprofile, hdestination] at hnear
  rw [hprofile, hdestination] at hsteps
  refine ⟨hnear, fun hbegan => ?_, fun hfar => ?_⟩
  · rw [← hposition] at hbegan ⊢
    exact MotionProfile.kept_of_near (x := fun i => (m.trace i).2.position.on a)
      (fun i _ => hsteps i) hbegan
  · rw [← hposition] at hfar
    exact MotionProfile.set_of_far (x := fun i => (m.trace i).2.position.on a)
      (fun i _ => hsteps i) hfar hnear

/-- An axis is on its target if it was set there, or began there. -/
theorem Arrives.on_target_iff {a : Axis} (h : Arrives origin target profile m k a)
    (sure : ∀ j < k, ¬profile.FallsShort (target.on a) ((m.trace j).2.position.on a)
      ((m.trace k).2.position.on a)) :
    (m.trace k).2.position.on a = target.on a ↔
      (profile.Near (target.on a) (origin.on a) → origin.on a = target.on a) := by
  by_cases hbegan : profile.Near (target.on a) (origin.on a)
  · rw [h.kept hbegan]
    exact ⟨fun heq _ => heq, fun heq => heq hbegan⟩
  · refine iff_of_true ?_ fun hnear => absurd hnear hbegan
    obtain hset | ⟨j, hj, hshort⟩ := h.set hbegan
    · exact hset
    · exact absurd hshort (sure j hj)

/-- A scooter is on its destination if both axes were set there, or began there. -/
theorem on_destination_iff (h : start? origin target battery profile = .ok m)
    (arrived : (m.trace k).2.outcome = some .arrived)
    (sure : ∀ a, ∀ j < k, ¬profile.FallsShort (target.on a) ((m.trace j).2.position.on a)
      ((m.trace k).2.position.on a)) :
    (m.trace k).2.position = (m.trace k).2.destination ↔
      ∀ a, profile.Near (target.on a) (origin.on a) → origin.on a = target.on a := by
  obtain ⟨hdestination, harrives⟩ := arrives h arrived
  rw [hdestination, Position.eq_iff_on]
  exact forall_congr' fun a => (harrives a).on_target_iff (sure a)

/-- **Where an arrived scooter is.**  Both axes are within the slack of the destination; one that began
there has not moved, any other is exactly on it unless a step fell short.  So the scooter is exactly on
its destination if and only if the axes that began within the slack began on their targets, steps that
fall short apart. -/
theorem arrived_where (h : start? origin target battery profile = .ok m)
    (arrived : (m.trace k).2.outcome = some .arrived) :
    (∀ a, Arrives origin target profile m k a) ∧
      ((∀ a, ∀ j < k, ¬profile.FallsShort (target.on a) ((m.trace j).2.position.on a)
          ((m.trace k).2.position.on a)) →
        ((m.trace k).2.position = (m.trace k).2.destination ↔
          ∀ a, profile.Near (target.on a) (origin.on a) → origin.on a = target.on a)) :=
  ⟨(arrives h arrived).2, on_destination_iff h arrived⟩

end Whole

/-- Three steps east and a hundred-trillionth of a degree north, by the usual profile: the third step sets
longitude on its target, while latitude is within the slack from the start and never gets there. -/
theorem arrived_where_beside :
    ∃ m : Simulation Float, start? ⟨0, 0⟩ ⟨1e-14, 0.0003⟩ 80 .usual = .ok m ∧
      (m.trace 3).2.outcome = some .arrived ∧
      (∀ a, Arrives ⟨0, 0⟩ ⟨1e-14, 0.0003⟩ .usual m 3 a) ∧
      (m.trace 3).2.position = ⟨0, 0.0003⟩ ∧
      (m.trace 3).2.position ≠ (m.trace 3).2.destination := by
  have hstart : start? (⟨0, 0⟩ : Position Float) ⟨1e-14, 0.0003⟩ 80 .usual =
      .ok (start ⟨0, 0⟩ ⟨1e-14, 0.0003⟩ 80 .usual) :=
    start?_of_finite (by rw [MotionProfile.check, if_neg (by decide +kernel), if_neg (by decide +kernel)])
      (by decide +kernel) (by decide +kernel) (by decide +kernel)
  have harrived : ((start (⟨0, 0⟩ : Position Float) ⟨1e-14, 0.0003⟩ 80 .usual).trace 3).2.outcome =
      some .arrived := by decide +kernel
  exact ⟨_, hstart, harrived, (arrived_where hstart harrived).1, by decide +kernel, by decide +kernel⟩

/-! ### Exact numbers -/

section Exact

attribute [local instance] exactRat

theorem abs_sign_mul_le {step : Rat} (hstep : 0 ≤ step) (d : Rat) : |sign d * step| ≤ step := by
  have hsign : |(sign d : Rat)| ≤ 1 := by
    show |if 0 < d then (1 : Rat) else if d < 0 then -1 else 0| ≤ 1
    split
    · exact abs_one.le
    · split
      · rw [abs_neg, abs_one]
      · rw [abs_zero]
        exact zero_le_one
  rw [abs_mul, abs_of_nonneg hstep]
  exact mul_le_of_le_one_left hstep hsign

/-- **Without rounding no step falls short**: a whole step leaves more than the slack, where the target
was out of reach. -/
theorem not_fallsShort {p : MotionProfile Rat} (hstep : 0 ≤ p.step) (target x y : Rat) :
    ¬p.FallsShort target x y := by
  intro ⟨hbeyond, ⟨d, hstride⟩, hnear⟩
  unfold MotionProfile.InReach at hbeyond
  unfold MotionProfile.Near at hnear
  rw [magnitude_eq_abs] at hbeyond hnear
  have hpath : |target - x| ≤ |target - y| + |y - x| := abs_sub_le target y x
  have hlength : |y - x| ≤ p.step := by
    rw [hstride, add_sub_cancel_left]
    exact abs_sign_mul_le hstep d
  have hreach : p.step * (1 + p.slack) < |target - x| := not_le.mp hbeyond
  rw [mul_add, mul_one] at hreach
  linarith

/-- **Exactly on the destination**, by exact numbers, unless an axis began within the slack of its target
and not on it. -/
theorem arrived_exactly {origin target : Position Rat} {battery : Rat} {profile : MotionProfile Rat}
    {m : Simulation Rat} {k : Nat} (h : start? origin target battery profile = .ok m)
    (arrived : (m.trace k).2.outcome = some .arrived) :
    (m.trace k).2.position = (m.trace k).2.destination ↔
      ∀ a, profile.Near (target.on a) (origin.on a) → origin.on a = target.on a :=
  on_destination_iff h arrived fun _ _ _ => not_fallsShort (step_pos h).le _ _ _

end Exact

/-- With doubles a step can fall short: here the target is just out of the reach of a step, and the step
ends within the slack. -/
theorem arrived_short :
    let p : MotionProfile Float := ⟨1e-5, 0.1, 450, 1e-9⟩
    let m := start ⟨0, 1⟩ ⟨0, 1.00001000000001⟩ 80 p
    (m.trace 1).2.outcome = some .arrived ∧ (m.trace 1).2.position = ⟨0, 1.00001⟩ ∧
      p.FallsShort 1.00001000000001 1 1.00001 := by
  refine ⟨by decide +kernel, by decide +kernel, ?_, ⟨1, by decide +kernel⟩, ?_⟩
  · unfold MotionProfile.InReach
    decide +kernel
  · unfold MotionProfile.Near
    decide +kernel

end Simulation
end ScooterFleet
