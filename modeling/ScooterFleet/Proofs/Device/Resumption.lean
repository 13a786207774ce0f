import ScooterFleet.Proofs.Motion.Course

/-!
# Movements that are begun anew

A movement that is broken off and begun anew where it stands goes on as if nothing had happened: what it
still has to do is decided by its place, its destination and its battery, although the new one begins in
the diagonal phase, takes its headings anew and counts its ticks from one.

* `Plan.rest` — the plan of what is left after so many ticks;
* `MotionProfile.ticksAcross_rest`, `along_rest` — what is left of one axis;
* `trace_start` — the samples of a movement, and where it stands, by its plan;
* `Resumes` — the new movement has the same places, the same batteries and the same outcome;
* `resumed` — **a movement that is begun anew resumes the old one**, and a device that is sent once more
  where it is going tells the same as one that is not.

Numbers are exact here.  The counter of ticks stays at its last value, and so does the battery then: what
is said ends there, unless the movement ends before.
-/

namespace ScooterFleet

/-- The sample with its tick counted on from `k`. -/
def Sample.later {α : Type} (k : Nat) (x : Sample α) : Sample α := { x with tick := k + x.tick }

namespace Leg

variable {α : Type} [Coordinate α] {s₀ : Session α}

/-- A leg in two parts: the second one begins where the first one led, and its samples are those that
the whole leg still has. -/
structure Splits (s₀ : Session α) (whole first second : Leg α) (k : Nat) : Prop where
  origin : first.origin = whole.origin
  next : second.origin = first.state s₀
  samples : whole.samples s₀ = first.samples s₀ ++ (second.samples s₀).map (Sample.later k)

variable {whole first second : Leg α} {k : Nat}

theorem Splits.state (h : Splits s₀ whole first second k) : whole.state s₀ = second.state s₀ := by
  have hfirst : first.state s₀ = second.origin := h.next.symm
  unfold Leg.state at hfirst ⊢
  rw [h.samples, List.getLast?_append, List.getLast?_map]
  cases (second.samples s₀).getLast? with
  | none =>
    rw [h.origin] at hfirst
    exact hfirst
  | some x => rfl

/-- **A leg in two parts is told as a whole**, if its first part does not end by itself. -/
theorem Splits.frames (h : Splits s₀ whole first second k)
    (trip : whole.command.trip = second.command.trip) (underWay : first.outcome s₀ = none)
    (outcome : whole.outcome s₀ = second.outcome s₀) :
    whole.frames s₀ = first.frames s₀ ++ second.frames s₀ := by
  have hreport : whole.report s₀ = second.report s₀ := by
    funext o
    rw [report, report, h.state, trip]
  have htelemetry : ((second.samples s₀).map (Sample.later k)).map
      (fun x => DeviceFrame.telemetry ⟨s₀.scooter, x.position⟩) =
        (second.samples s₀).map fun x => .telemetry ⟨s₀.scooter, x.position⟩ := by
    rw [List.map_map]
    rfl
  rw [Leg.frames, Leg.frames, Leg.frames, h.samples, List.map_append, htelemetry, underWay, outcome,
    hreport, Option.toList_none, List.map_nil, List.append_nil, List.append_assoc]

end Leg

section Exact

attribute [local instance] exactRat

namespace MotionProfile

variable {p : MotionProfile Rat} {origin target : Rat}

/-- The ticks that are left of an axis. -/
theorem ticksAcross_rest (hstep : 0 < p.step) (hslack : 0 ≤ p.slack) (k : Nat) :
    p.ticksAcross (target - p.along origin target k) = p.ticksAcross (target - origin) - k := by
  rcases Nat.lt_or_ge k (p.ticksAcross (target - origin)) with h | h
  · refine eq_of_forall_ge_iff fun j => ?_
    rw [ticksAcross_le hstep, (rest_of_lt hstep hslack h).2, sub_le_iff_le_add', ← add_mul, ← add_assoc,
      ← Nat.cast_add, ← ticksAcross_le hstep, Nat.sub_le_iff_le_add']
  · have hnear : |target - p.along origin target k| ≤ p.step * p.slack :=
      (reached_iff hstep hslack).mpr h
    have hzero : p.ticksAcross (target - p.along origin target k) ≤ 0 := by
      rw [ticksAcross_le hstep, Nat.cast_zero, zero_add, mul_comm]
      exact hnear
    rw [Nat.sub_eq_zero_of_le h]
    exact Nat.le_zero.mp hzero

/-- **Where the rest of an axis leads, the whole of it leads too.** -/
theorem along_rest (hstep : 0 < p.step) (hslack : 0 ≤ p.slack) (k j : Nat) :
    p.along (p.along origin target k) target j = p.along origin target (k + j) := by
  have hticks : p.ticksAcross (target - p.along origin target k) =
      p.ticksAcross (target - origin) - k := ticksAcross_rest hstep hslack k
  rcases Nat.lt_or_ge k (p.ticksAcross (target - origin)) with h | h
  · have hleft : p.ticksAcross (target - p.along origin target k) ≠ 0 := by omega
    rcases Nat.lt_or_ge (k + j) (p.ticksAcross (target - origin)) with hj | hj
    · rw [along_of_lt (by omega), along_of_lt hj, (rest_of_lt hstep hslack h).1, along_of_lt h,
        Nat.cast_add]
      ring
    · rw [along, if_neg hleft, if_neg (by omega), along, if_neg (Nat.ne_zero_of_lt h),
        if_neg (Nat.not_lt.mpr hj)]
  · rw [along, if_pos (by omega)]
    clear hticks
    induction j with
    | zero => rfl
    | succ j ih => rw [ih, ← Nat.add_assoc, along_add_one_of_le (Nat.le_add_right_of_le h)]

/-- The ticks that what is left of a battery lasts. -/
theorem ticksLasting_rest (hcost : 0 < p.discharge) (charge : Rat) (k : Nat) :
    p.ticksLasting (max 0 (charge - k * p.discharge)) = p.ticksLasting charge - k := by
  refine eq_of_forall_ge_iff fun j => ?_
  have hspent : 0 ≤ (j : Rat) * p.discharge := mul_nonneg (Nat.cast_nonneg j) hcost.le
  rw [ticksLasting_le hcost, max_le_iff, and_iff_right hspent, sub_le_iff_le_add', ← add_mul,
    ← Nat.cast_add, ← ticksLasting_le hcost, Nat.sub_le_iff_le_add']

end MotionProfile

namespace Simulation

/-! ### The plan of what is left -/

namespace Plan

variable {plan : Plan}

/-- The plan of what is left after so many ticks. -/
def rest (plan : Plan) (k : Nat) : Plan :=
  { plan with origin := plan.position k, charge := plan.battery k }

theorem Sound.rest (sound : plan.Sound) (k : Nat) : (plan.rest k).Sound :=
  ⟨sound.step, sound.discharge, sound.slack⟩

theorem north_rest (sound : plan.Sound) (k : Nat) : (plan.rest k).north = plan.north - k :=
  MotionProfile.ticksAcross_rest sound.step sound.slack k

theorem east_rest (sound : plan.Sound) (k : Nat) : (plan.rest k).east = plan.east - k :=
  MotionProfile.ticksAcross_rest sound.step sound.slack k

theorem crossing_rest (sound : plan.Sound) (k : Nat) : (plan.rest k).crossing = plan.crossing - k := by
  rw [crossing, north_rest sound, east_rest sound, crossing]
  omega

theorem lasting_rest (sound : plan.Sound) (k : Nat) : (plan.rest k).lasting = plan.lasting - k :=
  MotionProfile.ticksLasting_rest sound.discharge plan.charge k

theorem length_rest (sound : plan.Sound) (k : Nat) : (plan.rest k).length = plan.length - k := by
  rw [length, crossing_rest sound, lasting_rest sound, length]
  omega

theorem position_rest (sound : plan.Sound) (k j : Nat) :
    (plan.rest k).position j = plan.position (k + j) :=
  congrArg₂ Position.mk (MotionProfile.along_rest sound.step sound.slack k j)
    (MotionProfile.along_rest sound.step sound.slack k j)

theorem battery_rest (sound : plan.Sound) (k j : Nat) :
    (plan.rest k).battery j = plan.battery (k + j) := by
  have hspent : 0 ≤ (j : Rat) * plan.profile.discharge :=
    mul_nonneg (Nat.cast_nonneg j) sound.discharge.le
  show max 0 (max 0 (plan.charge - k * plan.profile.discharge) - j * plan.profile.discharge) = _
  rw [max_zero_sub hspent, sub_sub, ← add_mul, ← Nat.cast_add]
  rfl

theorem verdict_rest (sound : plan.Sound) (k j : Nat) :
    (plan.rest k).verdict j = plan.verdict (k + j) := by
  unfold verdict
  rw [crossing_rest sound, lasting_rest sound]
  simp only [Nat.sub_le_iff_le_add']

/-- The sample of a tick. -/
def sample (plan : Plan) (k : Nat) : Sample Rat := ⟨k, plan.position k, plan.battery k⟩

end Plan

variable {plan : Plan} {m : Simulation Rat} {k j n : Nat}

/-! ### The samples of a movement by its plan -/

/-- A movement after at most `n` ticks, as its plan tells it. -/
theorem trace_start (sound : plan.Sound) (counted : min n plan.length ≤ lastTick) :
    ((start plan.origin plan.target plan.charge plan.profile).trace n).1 =
        (List.range (min n plan.length)).map (fun i => plan.sample (i + 1)) ∧
      OnCourse plan (min n plan.length)
        ((start plan.origin plan.target plan.charge plan.profile).trace n).2 := by
  induction n with
  | zero =>
    rw [Nat.zero_min]
    exact ⟨rfl, onCourse_start sound⟩
  | succ n ih =>
    obtain ⟨hsamples, hcourse⟩ := ih (by omega)
    rcases Nat.lt_or_ge n plan.length with h | h
    · have hn : min n plan.length = n := by omega
      have hsucc : min (n + 1) plan.length = n + 1 := by omega
      rw [hn] at hsamples hcourse
      obtain ⟨s', hstep, hcourse'⟩ := hcourse.step sound h (by omega)
      rw [trace_of_step? hstep, hsucc, hsamples, List.range_succ, List.map_append]
      have hsample : s'.sample = plan.sample (n + 1) := by
        rw [Simulation.sample, hcourse'.follows.tick, hcourse'.follows.position,
          hcourse'.follows.battery]
        rfl
      exact ⟨congrArg (_ ++ [·]) hsample, hcourse'⟩
    · have hn : min n plan.length = plan.length := by omega
      have hsucc : min (n + 1) plan.length = plan.length := by omega
      rw [hn] at hsamples hcourse
      rw [hsucc, trace_of_outcome (hcourse.outcome.trans Plan.verdict_length) (Nat.le_succ n)]
      exact ⟨hsamples, hcourse⟩

theorem trace_of_le (sound : plan.Sound) (within : k ≤ plan.length) (counted : k ≤ lastTick) :
    ((start plan.origin plan.target plan.charge plan.profile).trace k).1 =
        (List.range k).map (fun i => plan.sample (i + 1)) ∧
      OnCourse plan k ((start plan.origin plan.target plan.charge plan.profile).trace k).2 := by
  have hk : min k plan.length = k := Nat.min_eq_left within
  have htrace := trace_start (n := k) sound (by rwa [hk])
  rwa [hk] at htrace

/-- The counter tells the ticks of so many calls: there are not more of them than it can count, or the
movement ends before it is full. -/
def Tallied (m : Simulation Rat) (calls : Nat) : Prop :=
  calls ≤ lastTick ∨ (m.trace lastTick).2.outcome ≠ none

theorem counted_of_tallied (sound : plan.Sound)
    (h : Tallied (start plan.origin plan.target plan.charge plan.profile) n) :
    min n plan.length ≤ lastTick := by
  by_contra hlong
  obtain hcalls | hended := h
  · omega
  · have hcourse := (trace_of_le (k := lastTick) sound (by omega) le_rfl).2
    exact hended (hcourse.outcome.trans (Plan.verdict_of_lt (by omega)))

/-! ### Begun anew -/

/-- After `j` calls the movement `m'` is where `m` is after `k` calls more. -/
structure Resumes (m : Simulation Rat) (k : Nat) (m' : Simulation Rat) (j : Nat) : Prop where
  samples : (m.trace (k + j)).1 = (m.trace k).1 ++ (m'.trace j).1.map (Sample.later k)
  position : (m.trace (k + j)).2.position = (m'.trace j).2.position
  destination : (m.trace (k + j)).2.destination = (m'.trace j).2.destination
  battery : (m.trace (k + j)).2.battery = (m'.trace j).2.battery
  tick : (m.trace (k + j)).2.tick = k + (m'.trace j).2.tick
  outcome : (m.trace (k + j)).2.outcome = (m'.trace j).2.outcome

theorem sample_rest (sound : plan.Sound) (k j : Nat) :
    ((plan.rest k).sample j).later k = plan.sample (k + j) := by
  rw [Plan.sample, Plan.position_rest sound, Plan.battery_rest sound]
  rfl

/-- The samples of a plan, split after `k` ticks. -/
theorem samples_rest (sound : plan.Sound) (k i : Nat) :
    (List.range (k + i)).map (fun x => plan.sample (x + 1)) =
      (List.range k).map (fun x => plan.sample (x + 1)) ++
        ((List.range i).map fun x => (plan.rest k).sample (x + 1)).map (Sample.later k) := by
  rw [List.range_add, List.map_append, List.map_map, List.map_map]
  refine congrArg (_ ++ ·) (List.map_congr_left fun x _ => ?_)
  exact (sample_rest sound k (x + 1)).symm

/-- **The plan of what is left tells the rest of the movement.** -/
theorem resumes_rest (sound : plan.Sound) (before : k ≤ plan.length)
    (counted : min (k + j) plan.length ≤ lastTick) :
    Resumes (start plan.origin plan.target plan.charge plan.profile) k
      (start (plan.position k) plan.target (plan.battery k) plan.profile) j := by
  have hrest : min j (plan.rest k).length = min (k + j) plan.length - k := by
    rw [Plan.length_rest sound]
    omega
  obtain ⟨hfront, -⟩ := trace_of_le sound before (by omega)
  obtain ⟨hsamples, hcourse⟩ := trace_start (n := k + j) sound counted
  obtain ⟨hsamples', hcourse'⟩ := trace_start (n := j) (sound.rest k) (by omega)
  have hwhole : min (k + j) plan.length = k + min j (plan.rest k).length := by omega
  rw [hwhole] at hsamples hcourse
  generalize min j (plan.rest k).length = i at hsamples hcourse hsamples' hcourse'
  refine ⟨?_, ?_, ?_, ?_, ?_, ?_⟩
  · rw [hsamples, hfront, samples_rest sound]
    exact congrArg (fun l => _ ++ List.map (Sample.later k) l) hsamples'.symm
  · rw [hcourse.follows.position, ← Plan.position_rest sound]
    exact hcourse'.follows.position.symm
  · exact hcourse.follows.destination.trans hcourse'.follows.destination.symm
  · rw [hcourse.follows.battery, ← Plan.battery_rest sound]
    exact hcourse'.follows.battery.symm
  · rw [hcourse.follows.tick]
    exact congrArg (k + ·) hcourse'.follows.tick.symm
  · rw [hcourse.outcome, ← Plan.verdict_rest sound]
    exact hcourse'.outcome.symm

/-- A movement without an outcome is within its plan. -/
theorem lt_length_of_underWay (sound : plan.Sound) (counted : k ≤ lastTick)
    (underWay : ((start plan.origin plan.target plan.charge plan.profile).trace k).2.outcome = none) :
    k < plan.length := by
  by_contra hover
  have hmin : min k plan.length = plan.length := Nat.min_eq_right (not_lt.mp hover)
  obtain ⟨-, hcourse⟩ := trace_start (n := k) sound (by omega)
  rw [hmin] at hcourse
  have hended := hcourse.outcome.trans Plan.verdict_length
  rw [underWay] at hended
  cases hended

/-! ### Sent once more -/

/-- The leg of a plan by a command. -/
def Plan.leg (plan : Plan) (command : Dispatch Rat) (turns : Nat) : Leg Rat :=
  ⟨⟨plan.origin, plan.charge⟩, command, turns⟩

section Legs

variable {s₀ : Session Rat} {c c' : Dispatch Rat}

theorem Plan.start_leg (profile : s₀.profile = plan.profile) (target : c.destination = plan.target) :
    (plan.leg c k).start s₀ = start plan.origin plan.target plan.charge plan.profile := by
  rw [Leg.start, profile, Plan.leg, target]

theorem Plan.samples_leg (profile : s₀.profile = plan.profile) (target : c.destination = plan.target) :
    (plan.leg c k).samples s₀ =
      ((start plan.origin plan.target plan.charge plan.profile).trace k).1 := by
  rw [Leg.samples, start_leg profile target]
  rfl

theorem Plan.outcome_leg (profile : s₀.profile = plan.profile) (target : c.destination = plan.target) :
    (plan.leg c k).outcome s₀ = if k = 0 then none else
      ((start plan.origin plan.target plan.charge plan.profile).trace k).2.outcome := by
  rw [Leg.outcome, Leg.movement, start_leg profile target]
  rfl

/-- Where a leg led that has not ended. -/
theorem Plan.state_leg (sound : plan.Sound) (profile : s₀.profile = plan.profile)
    (target : c.destination = plan.target) (before : k < plan.length) (counted : k ≤ lastTick) :
    (plan.leg c k).state s₀ = ⟨plan.position k, plan.battery k⟩ := by
  obtain ⟨hsamples, -⟩ := trace_of_le sound before.le counted
  rw [← samples_leg (c := c) profile target] at hsamples
  rw [Leg.state, hsamples]
  cases k with
  | zero =>
    have hcharge : ¬plan.charge ≤ 0 := by
      intro hempty
      have hlasting : plan.lasting ≤ 0 := by
        rw [Plan.lasting, MotionProfile.ticksLasting_le sound.discharge, Nat.cast_zero, zero_mul]
        exact hempty
      have := (lt_min_iff.mp before).2
      omega
    have hposition : plan.position 0 = plan.origin :=
      congrArg₂ Position.mk MotionProfile.along_zero MotionProfile.along_zero
    rw [hposition, Plan.battery, Nat.cast_zero, zero_mul, sub_zero, max_eq_right (not_le.mp hcharge).le]
    rfl
  | succ k =>
    rw [List.range_succ, List.map_append, List.map_singleton, List.getLast?_concat]
    rfl

/-- A device that has been under way for `k` ticks by the command `c` is sent by `c'` where it is going,
and begins the movement `m'`. -/
structure Redirects (s₀ : Session Rat) (plan : Plan) (c c' : Dispatch Rat) (k : Nat)
    (m m' : Simulation Rat) : Prop where
  /-- The command is taken by any session that stands there. -/
  taken : ∀ s : Session Rat, s.profile = s₀.profile → s.state = (plan.leg c k).state s₀ →
    s.dispatch c'.destination c'.trip = .ok { s with movement := some m', trip := c'.trip }
  /-- The device goes on to tell what it would have told, had `c'` been the only command. -/
  frames : ∀ j, Tallied m (k + j) →
    (plan.leg c' (k + j)).frames s₀ =
      (plan.leg c k).frames s₀ ++ (Leg.mk ((plan.leg c k).state s₀) c' j).frames s₀
  /-- It stands where it would stand. -/
  state : ∀ j, Tallied m (k + j) →
    (plan.leg c' (k + j)).state s₀ = (Leg.mk ((plan.leg c k).state s₀) c' j).state s₀

/-- What is said of the legs follows from what is said of their movements. -/
theorem redirects (sound : plan.Sound) (profile : s₀.profile = plan.profile)
    (target : c.destination = plan.target) (target' : c'.destination = plan.target)
    (before : k < plan.length) (counted : k ≤ lastTick)
    (begun : start? (plan.position k) plan.target (plan.battery k) plan.profile =
      .ok (start (plan.position k) plan.target (plan.battery k) plan.profile)) :
    Redirects s₀ plan c c' k (start plan.origin plan.target plan.charge plan.profile)
      (start (plan.position k) plan.target (plan.battery k) plan.profile) := by
  have hstate := Plan.state_leg sound profile target before counted
  have hanew : ∀ j, Leg.mk ((plan.leg c k).state s₀) c' j = (plan.rest k).leg c' j :=
    fun j => congrArg (Leg.mk · c' j) hstate
  have hresumes := fun j htally => resumes_rest (j := j) sound before.le (counted_of_tallied sound htally)
  have hunderWay : ((start plan.origin plan.target plan.charge plan.profile).trace k).2.outcome = none :=
    (trace_of_le sound before.le counted).2.outcome.trans (Plan.verdict_of_lt before)
  have hprofile : s₀.profile = (plan.rest k).profile := profile
  have htarget : c'.destination = (plan.rest k).target := target'
  have hsplits : ∀ j, Tallied (start plan.origin plan.target plan.charge plan.profile) (k + j) →
      Leg.Splits s₀ (plan.leg c' (k + j)) (plan.leg c k) ((plan.rest k).leg c' j) k := by
    intro j htally
    refine ⟨rfl, hstate.symm, ?_⟩
    rw [Plan.samples_leg profile target', Plan.samples_leg profile target,
      Plan.samples_leg hprofile htarget]
    exact (hresumes j htally).samples
  have houtcome : ∀ j, Tallied (start plan.origin plan.target plan.charge plan.profile) (k + j) →
      (plan.leg c' (k + j)).outcome s₀ = ((plan.rest k).leg c' j).outcome s₀ := by
    intro j htally
    rw [Plan.outcome_leg profile target', Plan.outcome_leg hprofile htarget]
    cases j with
    | zero =>
      rw [if_pos rfl, Nat.add_zero, hunderWay, ite_self]
    | succ j =>
      have hlater : k + (j + 1) ≠ 0 := Nat.succ_ne_zero (k + j)
      rw [if_neg (Nat.succ_ne_zero j), if_neg hlater]
      exact (hresumes (j + 1) htally).outcome
  have hopen : (plan.leg c k).outcome s₀ = none := by
    rw [Plan.outcome_leg profile target, hunderWay, ite_self]
  refine ⟨?_, fun j htally => ?_, fun j htally => ?_⟩
  · intro s hprofile hs
    rw [hstate] at hs
    obtain ⟨hposition, hbattery⟩ := DeviceState.mk.inj hs
    rw [Session.dispatch_eq_map, hposition, hbattery, hprofile, profile, target', begun]
    rfl
  · rw [hanew j]
    exact (hsplits j htally).frames rfl hopen (houtcome j htally)
  · rw [hanew j]
    exact (hsplits j htally).state

end Legs

/-- **A movement that is begun anew resumes the old one.**  Under way after `k` calls, it may be begun
anew where it stands.  The new movement has the diagonal phase, headings of its own and no ticks yet, and
its samples, its places, its batteries and its outcome are those that the old one has left.  So a device
that is sent where it is going tells the same, and comes to stand at the same places, as by one command. -/
theorem resumed {plan : Plan} {m : Simulation Rat} {k : Nat}
    (h : start? plan.origin plan.target plan.charge plan.profile = .ok m) (slack : 0 ≤ plan.profile.slack)
    (underWay : (m.trace k).2.outcome = none) (counted : k ≤ lastTick) :
    ∃ m', start? (m.trace k).2.position (m.trace k).2.destination (m.trace k).2.battery
        (m.trace k).2.profile = .ok m' ∧
      m'.phase = .diagonal ∧ m'.heading = m'.headings ∧ m'.tick = 0 ∧
      (∀ j, Tallied m (k + j) → Resumes m k m' j) ∧
      ∀ (s₀ : Session Rat) (c c' : Dispatch Rat), s₀.profile = plan.profile →
        c.destination = plan.target → c'.destination = plan.target → Redirects s₀ plan c c' k m m' := by
  have sound : plan.Sound := sound_of_start? h slack
  have hcheck := check_of_start? h
  obtain rfl := eq_start_of_start? h
  have before : k < plan.length := lt_length_of_underWay sound counted underWay
  obtain ⟨-, hcourse⟩ := trace_of_le sound before.le counted
  have hbegun : start? (plan.position k) plan.target (plan.battery k) plan.profile =
      .ok (start (plan.position k) plan.target (plan.battery k) plan.profile) :=
    start?_of_finite hcheck rfl rfl rfl
  obtain ⟨hphase, hheading, htick⟩ :=
    fresh_start (plan.position k) plan.target (plan.battery k) plan.profile
  refine ⟨_, ?_, hphase, hheading, htick, ?_, ?_⟩
  · rw [hcourse.follows.position, hcourse.follows.destination, hcourse.follows.battery,
      hcourse.follows.profile]
    exact hbegun
  · exact fun j htally => resumes_rest sound before.le (counted_of_tallied sound htally)
  · exact fun s₀ c c' profile target target' =>
      redirects sound profile target target' before counted hbegun

/-- Two steps north and four west, on a battery for ten of them. -/
def northwest : Plan := { westward with charge := 10 }

/-- Begun anew before its last step, when only longitude is left. -/
theorem resumed_northwest :
    ∃ m m', start? northwest.origin northwest.target northwest.charge northwest.profile = .ok m ∧
      0 ≤ northwest.profile.slack ∧ (m.trace 3).2.outcome = none ∧ 3 ≤ lastTick ∧
      (m.trace 3).2.phase = .longitude ∧ m'.phase = .diagonal ∧
      start? (m.trace 3).2.position (m.trace 3).2.destination (m.trace 3).2.battery
        (m.trace 3).2.profile = .ok m' ∧
      Resumes m 3 m' 1 ∧ (m.trace 4).2.outcome = some .arrived ∧
      ∀ trip, Redirects ⟨7, ⟨0, 0⟩, 10, northwest.profile, none, none⟩ northwest
        ⟨7, northwest.target, trip⟩ ⟨7, northwest.target, none⟩ 3 m m' := by
  have hstart : start? northwest.origin northwest.target northwest.charge northwest.profile =
      .ok (start northwest.origin northwest.target northwest.charge northwest.profile) := by
    refine start?_of_finite ?_ rfl rfl rfl
    rw [MotionProfile.check, if_neg (by decide +kernel), if_neg (by decide +kernel)]
  have hslack : 0 ≤ northwest.profile.slack := by decide +kernel
  have hcounted : 3 ≤ lastTick := by decide
  have hunderWay : ((start northwest.origin northwest.target northwest.charge
      northwest.profile).trace 3).2.outcome = none := by decide +kernel
  obtain ⟨m', hm', hphase, -, -, hresumes, hredirects⟩ := resumed hstart hslack hunderWay hcounted
  exact ⟨_, m', hstart, hslack, hunderWay, hcounted, by decide +kernel, hphase, hm',
    hresumes 1 (.inl (by decide)), by decide +kernel, fun trip => hredirects _ _ _ rfl rfl rfl⟩

end Simulation

end Exact
end ScooterFleet
