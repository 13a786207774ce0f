import ScooterFleet.Motion.Simulation

/-!
# Movements tick by tick

The trace of a movement is built from its front; here it is read from its end.

* `Simulation.trace_add_one` — one tick more adds one sample, or changes nothing after the outcome;
* `Simulation.trace_of_outcome` — with an outcome the trace is whole;
* `Simulation.samples_prefix` — the samples of fewer ticks are in front of those of more;
* `Simulation.length_trace` — up to the outcome there are as many samples as ticks;
* `Simulation.drained_trace` — the battery of each sample, by the number of its tick.
-/

namespace ScooterFleet
namespace Simulation

variable {α : Type} [Coordinate α]

theorem trace_add_one (s : Simulation α) (n : Nat) :
    s.trace (n + 1) = match (s.trace n).2.step? with
      | none => s.trace n
      | some s' => ((s.trace n).1 ++ [s'.sample], s') := by
  induction n generalizing s with
  | zero =>
    cases h : s.step? with
    | none => simp [trace, h]
    | some s' => simp [trace, h]
  | succ n ih =>
    cases h : s.step? with
    | none => simp [trace, h]
    | some s' =>
      have hs : ∀ k, s.trace (k + 1) = (s'.sample :: (s'.trace k).1, (s'.trace k).2) :=
        fun k => by simp [trace, h]
      rw [hs, hs, ih]
      cases (s'.trace n).2.step? <;> rfl

theorem trace_of_step? {s s' : Simulation α} {n : Nat} (h : (s.trace n).2.step? = some s') :
    s.trace (n + 1) = ((s.trace n).1 ++ [s'.sample], s') := by
  rw [trace_add_one, h]

theorem trace_succ (s : Simulation α) (n : Nat) :
    (s.trace (n + 1)).2 = (s.trace n).2.step?.getD (s.trace n).2 := by
  rw [trace_add_one]
  cases (s.trace n).2.step? <;> rfl

theorem next_snd (s : Simulation α) : s.next.2 = s.step?.getD s := by
  unfold next
  cases s.step? <;> rfl

theorem step?_eq_none_iff {s : Simulation α} : s.step? = none ↔ ∃ o, s.outcome = some o := by
  unfold step?
  cases s.outcome <;> simp

theorem samples_prefix (s : Simulation α) {m n : Nat} (h : m ≤ n) :
    (s.trace m).1 <+: (s.trace n).1 := by
  induction h with
  | refl => exact List.prefix_refl _
  | step _ ih =>
    rw [trace_add_one]
    split
    · exact ih
    · exact ih.trans (List.prefix_append _ _)

theorem trace_of_outcome {s : Simulation α} {m : Nat} {o : Outcome}
    (ho : (s.trace m).2.outcome = some o) {n : Nat} (h : m ≤ n) : s.trace n = s.trace m := by
  induction h with
  | refl => rfl
  | step _ ih =>
    have hnone : (s.trace m).2.step? = none := step?_eq_none_iff.mpr ⟨o, ho⟩
    rw [trace_add_one, ih, hnone]

/-- **Once there is an outcome, all samples have been made.** -/
theorem samples_whole {s : Simulation α} {m : Nat} {o : Outcome}
    (ho : (s.trace m).2.outcome = some o) (n : Nat) : (s.trace n).1 <+: (s.trace m).1 := by
  rcases Nat.le_total n m with h | h
  · exact s.samples_prefix h
  · exact trace_of_outcome ho h ▸ List.prefix_refl _

theorem length_trace_le (s : Simulation α) (n : Nat) : (s.trace n).1.length ≤ n := by
  induction n with
  | zero => exact Nat.le_refl 0
  | succ n ih =>
    rw [trace_add_one]
    split
    · exact Nat.le_succ_of_le ih
    · rw [List.length_append]
      exact Nat.succ_le_succ ih

/-- Up to the outcome each tick makes a sample. -/
theorem length_trace {s : Simulation α} {n : Nat} (h : (s.trace n).2.outcome = none) :
    (s.trace n).1.length = n := by
  induction n with
  | zero => rfl
  | succ n ih =>
    cases ho : (s.trace n).2.outcome with
    | some o =>
      rw [trace_of_outcome ho (Nat.le_succ n), ho] at h
      cases h
    | none =>
      obtain ⟨s', hs'⟩ : ∃ s', (s.trace n).2.step? = some s' := by simp [step?, ho]
      rw [trace_of_step? hs', List.length_append, ih ho]
      rfl

/-- A movement is over with its last sample. -/
theorem trace_of_length {s : Simulation α} {m n : Nat} {o : Outcome}
    (ho : (s.trace n).2.outcome = some o) (h : (s.trace n).1.length ≤ m) : s.trace m = s.trace n := by
  rcases Nat.lt_or_ge m n with hmn | hnm
  · cases hm : (s.trace m).2.outcome with
    | some o' => exact (trace_of_outcome hm (Nat.le_of_lt hmn)).symm
    | none =>
      obtain ⟨s', hs'⟩ : ∃ s', (s.trace m).2.step? = some s' := by simp [step?, hm]
      have hmore := (s.samples_prefix (Nat.succ_le_of_lt hmn)).length_le
      rw [trace_of_step? hs', List.length_append, length_trace hm] at hmore
      exact absurd (Nat.le_trans hmore h) (Nat.not_succ_le_self m)
  · exact trace_of_outcome ho hnm

/-- Settling decides on the outcome and on nothing else. -/
theorem settle_eq (s : Simulation α) : ∃ o, s.settle = { s with outcome := o } := by
  unfold settle
  split
  · exact ⟨_, rfl⟩
  · split
    · exact ⟨_, rfl⟩
    · exact ⟨_, rfl⟩

theorem position_settle (s : Simulation α) : s.settle.position = s.position := by
  obtain ⟨o, ho⟩ := s.settle_eq
  rw [ho]

theorem destination_settle (s : Simulation α) : s.settle.destination = s.destination := by
  obtain ⟨o, ho⟩ := s.settle_eq
  rw [ho]

theorem check_of_start? {position destination : Position α} {battery : α} {profile : MotionProfile α}
    {s : Simulation α} (h : start? position destination battery profile = .ok s) :
    profile.check = .ok () := by
  unfold start? at h
  cases hp : profile.check with
  | error fault =>
    rw [hp] at h
    cases h
  | ok _ => rfl

theorem eq_start_of_start? {position destination : Position α} {battery : α}
    {profile : MotionProfile α} {s : Simulation α}
    (h : start? position destination battery profile = .ok s) :
    s = start position destination battery profile := by
  unfold start? at h
  rw [check_of_start? h] at h
  simp only [bind, Except.bind, pure, Except.pure, throw, throwThe, MonadExceptOf.throw] at h
  grind

/-- A movement begins, where the profile is sound and all is finite. -/
theorem start?_of_finite {position destination : Position α} {battery : α} {profile : MotionProfile α}
    (check : profile.check = .ok ()) (here : position.isFinite = true)
    (there : destination.isFinite = true) (charge : Coordinate.isFinite battery = true) :
    start? position destination battery profile = .ok (start position destination battery profile) := by
  rw [start?, check, here, there, charge]
  rfl

/-- A movement begins where the scooter is. -/
theorem position_of_start? {position destination : Position α} {battery : α}
    {profile : MotionProfile α} {s : Simulation α}
    (h : start? position destination battery profile = .ok s) : s.position = position := by
  rw [eq_start_of_start? h, start, position_settle]
  rfl

/-- A movement that begins has the diagonal phase, the headings of its differences and no ticks. -/
theorem fresh_start (position destination : Position α) (battery : α) (profile : MotionProfile α) :
    let s := start position destination battery profile
    s.phase = .diagonal ∧ s.heading = s.headings ∧ s.tick = 0 := by
  have hsettle : ∀ s : Simulation α, s.phase = .diagonal → s.heading = s.headings → s.tick = 0 →
      s.settle.phase = .diagonal ∧ s.settle.heading = s.settle.headings ∧ s.settle.tick = 0 := by
    intro s hphase hheading htick
    obtain ⟨o, ho⟩ := s.settle_eq
    rw [ho]
    exact ⟨hphase, hheading, htick⟩
  exact hsettle _ rfl rfl rfl

/-! ### The battery -/

/-- What the battery is computed from: the charge, the profile and the ticks so far. -/
def gauge {α : Type} (s : Simulation α) : α × MotionProfile α × Nat := (s.charge, s.profile, s.tick)

theorem gauge_turn (s : Simulation α) : s.turn.gauge = s.gauge := by
  unfold turn
  dsimp only
  split <;> split <;> rfl

theorem gauge_move (s : Simulation α) : s.move.gauge = s.gauge := by
  rw [← gauge_turn s]
  unfold move
  dsimp only
  split <;> rfl

theorem gauge_settle (s : Simulation α) : s.settle.gauge = s.gauge := by
  obtain ⟨o, ho⟩ := s.settle_eq
  rw [ho]
  rfl

theorem battery_settle (s : Simulation α) : s.settle.battery = s.battery := by
  obtain ⟨o, ho⟩ := s.settle_eq
  rw [ho]

/-- The battery after so many ticks, which are counted up to the last one. -/
def batteryAfter (s : Simulation α) (ticks : Nat) : α :=
  Coordinate.floored (s.charge - s.profile.discharge * Coordinate.ofNat (min ticks lastTick))

theorem gauge_of_step? {s s' : Simulation α} (h : s.step? = some s') :
    s'.gauge = (s.charge, s.profile, min (s.tick + 1) lastTick) ∧
      s'.battery = s.batteryAfter (s.tick + 1) := by
  unfold step? at h
  split at h
  · cases h
  · cases h
    have hmove : s.move.gauge = s.gauge := gauge_move s
    obtain ⟨hcharge, hrest⟩ := Prod.mk.inj hmove
    obtain ⟨hprofile, htick⟩ := Prod.mk.inj hrest
    refine ⟨?_, ?_⟩
    · rw [gauge_settle, gauge, drain, hcharge, hprofile, htick]
    · rw [battery_settle, drain, hcharge, hprofile, htick]
      rfl

/-- Each sample shows the battery after its tick, and the ticks are as many as the samples. -/
structure Drained (s : Simulation α) (samples : List (Sample α)) (last : Simulation α) : Prop where
  gauge : last.gauge = (s.charge, s.profile, min samples.length lastTick)
  battery : ∀ i x, samples[i]? = some x → x.battery = s.batteryAfter (i + 1)

/-- **The battery of a sample is computed from the start of the movement.** -/
theorem drained_trace {s : Simulation α} (fresh : s.tick = 0) (n : Nat) :
    s.Drained (s.trace n).1 (s.trace n).2 := by
  induction n with
  | zero =>
    refine ⟨?_, fun i x h => nomatch h⟩
    show (s.charge, s.profile, s.tick) = _
    rw [fresh]
    rfl
  | succ n ih =>
    rw [trace_add_one]
    cases hstep : (s.trace n).2.step? with
    | none => exact ih
    | some s' =>
      obtain ⟨hcharge, hrest⟩ := Prod.mk.inj ih.gauge
      obtain ⟨hprofile, htick⟩ := Prod.mk.inj hrest
      obtain ⟨hgauge, hbattery⟩ := gauge_of_step? hstep
      -- a counter that stays at its last value stays there
      have hmin : min (min (s.trace n).1.length lastTick + 1) lastTick =
          min ((s.trace n).1.length + 1) lastTick := by omega
      rw [hcharge, hprofile, htick, hmin] at hgauge
      rw [batteryAfter, hcharge, hprofile, htick, hmin] at hbattery
      refine ⟨?_, ?_⟩
      · rw [hgauge, List.length_append, List.length_singleton]
      · intro i x hx
        rcases Nat.lt_or_ge i (s.trace n).1.length with hi | hi
        · rw [List.getElem?_append_left hi] at hx
          exact ih.battery i x hx
        · rw [List.getElem?_append_right hi] at hx
          obtain ⟨hlast, rfl⟩ := List.getElem?_eq_some_iff.mp hx
          rw [List.length_singleton] at hlast
          rw [List.getElem_singleton]
          have hlength : i = (s.trace n).1.length := by omega
          subst hlength
          exact hbattery

theorem outcome_of_empty {s s' : Simulation α} (h : s.step? = some s')
    (empty : s'.battery ≤ Coordinate.zero) : ∃ o, s'.outcome = some o := by
  unfold step? at h
  split at h
  · cases h
  · cases h
    rw [battery_settle] at empty
    unfold settle
    split
    · exact ⟨.arrived, rfl⟩
    · exact ⟨.discharged, rfl⟩

/-- **With an empty battery there are no more samples.** -/
theorem trace_of_empty {s : Simulation α} {n i : Nat} {x : Sample α}
    (hx : (s.trace n).1[i]? = some x) (empty : x.battery ≤ Coordinate.zero) :
    (s.trace n).1.length = i + 1 ∧ ∃ o, (s.trace n).2.outcome = some o := by
  induction n with
  | zero => cases hx
  | succ n ih =>
    rw [trace_add_one] at hx ⊢
    cases hstep : (s.trace n).2.step? with
    | none =>
      rw [hstep] at hx
      exact ih hx
    | some s' =>
      rw [hstep] at hx
      rcases Nat.lt_or_ge i (s.trace n).1.length with hi | hi
      · rw [List.getElem?_append_left hi] at hx
        obtain ⟨o, ho⟩ := (ih hx).2
        rw [step?_eq_none_iff.mpr ⟨o, ho⟩] at hstep
        cases hstep
      · rw [List.getElem?_append_right hi] at hx
        obtain ⟨hlast, rfl⟩ := List.getElem?_eq_some_iff.mp hx
        rw [List.length_singleton] at hlast
        rw [List.getElem_singleton] at empty
        refine ⟨?_, outcome_of_empty hstep empty⟩
        rw [List.length_append, List.length_singleton]
        omega

theorem gauge_start (position destination : Position α) (battery : α) (profile : MotionProfile α) :
    (start position destination battery profile).gauge = (battery, profile, 0) :=
  gauge_settle _

end Simulation

/-- Rational numbers, with exact arithmetic. -/
@[reducible] def exactRat : Coordinate Rat := .exact id

end ScooterFleet
