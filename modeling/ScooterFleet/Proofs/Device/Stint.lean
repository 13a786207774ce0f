import ScooterFleet.Proofs.Device.Itinerary

/-!
# Legs in time

A stint is a leg that began at a certain instant.  Its ticks come one interval after the other, the first
one an interval behind its command, and each tells what it has to tell at once.

* `Stint` / `stints` — the stints of what a device did and when;
* `Stint.timetable` — the frames of a stint with their instants; `posted` — the frames that were sent, with
  theirs;
* `Stint.timetable_turn` — **one tick adds its frames, at its instant**;
* `Stint.Punctual` / `Timely` — no stint misses a tick before the next one begins;
* `Stint.Punctual.paced` — **a stint that misses no tick misses no sample and not the end**.
-/

namespace ScooterFleet

variable {α : Type} [Coordinate α]

/-- A leg, and the instant at which its command was taken. -/
structure Stint (α : Type) where
  since : Millis
  leg : Leg α
  deriving DecidableEq, Repr

namespace Stint

def turn {α : Type} (x : Stint α) : Stint α := { x with leg := x.leg.turn }

/-- The stints with one more deed, the newest first. -/
def follow {α : Type} (stints : List (Stint α)) : Millis × Deed α → List (Stint α)
  | (now, .took origin command) => ⟨now, ⟨origin, command, 0⟩⟩ :: stints
  | (_, .ticked) =>
    match stints with
    | x :: earlier => x.turn :: earlier
    | [] => []
  | _ => stints

/-- The instant of the command behind a stint, or the last instant of the run. -/
def stop {α : Type} (now : Millis) (later : List (Stint α)) : Millis := (later.getLast?.map since).getD now

variable (s₀ : Session α) (x : Stint α)

/-- The instant of the stint's tick with this number. -/
def tickAt (k : Nat) : Millis := x.since + k * s₀.profile.interval

/-- What is told of a stint, and when: a sample at its tick, and the end with the last sample.  An end
without a sample takes a tick. -/
def timetable : List (Millis × DeviceFrame α) :=
  (x.leg.samples s₀).mapIdx (fun i sample =>
    (x.tickAt s₀ (i + 1), .telemetry ⟨s₀.scooter, sample.position⟩)) ++
  (x.leg.outcome s₀).toList.map fun outcome =>
    (x.tickAt s₀ (max 1 (x.leg.samples s₀).length), x.leg.report s₀ outcome)

/-- A stint that kept its time up to an instant: the samples and the end of its movement that were due
before then have come, and none comes later. -/
structure Paced (stop : Millis) : Prop where
  past : ∀ i < (x.leg.samples s₀).length, x.tickAt s₀ (i + 1) ≤ stop
  samples : ∀ n i sample, ((x.leg.start s₀).trace n).1[i]? = some sample →
    x.tickAt s₀ (i + 1) < stop → (x.leg.samples s₀)[i]? = some sample
  outcome : ∀ n o, ((x.leg.start s₀).trace n).2.outcome = some o →
    x.tickAt s₀ (max 1 ((x.leg.start s₀).trace n).1.length) < stop → x.leg.outcome s₀ = some o

end Stint

/-- The stints of a run, the newest first. -/
def stints {α : Type} (log : List (Millis × Deed α)) : List (Stint α) := log.foldl Stint.follow []

/-- What was sent, each frame with its instant. -/
def posted {α : Type} (log : List (Millis × Deed α)) : List (Millis × DeviceFrame α) :=
  log.flatMap fun
    | (now, .sent frame) => [(now, frame)]
    | _ => []

section Logs

omit [Coordinate α]

@[simp] theorem stints_append_singleton (log : List (Millis × Deed α)) (x : Millis × Deed α) :
    stints (log ++ [x]) = Stint.follow (stints log) x := by
  rw [stints, List.foldl_append]
  rfl

@[simp] theorem posted_append (log log' : List (Millis × Deed α)) :
    posted (log ++ log') = posted log ++ posted log' :=
  List.flatMap_append

theorem map_leg_follow (stints : List (Stint α)) (x : Millis × Deed α) :
    (Stint.follow stints x).map Stint.leg = follow (stints.map Stint.leg) x.2 := by
  obtain ⟨now, deed⟩ := x
  cases deed with
  | ticked => cases stints <;> rfl
  | took origin command => rfl
  | sent frame => rfl
  | lost frames => rfl

/-- The stints are the legs, with their instants. -/
theorem map_leg_stints (log : List (Millis × Deed α)) :
    (stints log).map Stint.leg = legs (log.map Prod.snd) := by
  have hfold : ∀ earlier : List (Stint α), (log.foldl Stint.follow earlier).map Stint.leg =
      (log.map Prod.snd).foldl follow (earlier.map Stint.leg) := by
    induction log with
    | nil => exact fun earlier => rfl
    | cons x log ih =>
      intro earlier
      rw [List.foldl_cons, ih, map_leg_follow]
      rfl
  exact hfold []

end Logs

/-! ### The timetable of a leg -/

section Timetable

variable {s₀ : Session α} {x : Stint α}

omit [Coordinate α] in
theorem Stint.tickAt_add_one (k : Nat) : x.tickAt s₀ (k + 1) = x.tickAt s₀ k + s₀.profile.interval := by
  rw [tickAt, tickAt, Nat.add_one_mul, Nat.add_assoc]

omit [Coordinate α] in
theorem Stint.tickAt_mono {j k : Nat} (h : j ≤ k) : x.tickAt s₀ j ≤ x.tickAt s₀ k :=
  Nat.add_le_add_left (Nat.mul_le_mul_right _ h) _

omit [Coordinate α] in
/-- Only ticks of a smaller number come earlier. -/
theorem Stint.lt_of_tickAt_lt {j k : Nat} (h : x.tickAt s₀ j < x.tickAt s₀ k) : j < k :=
  Nat.lt_of_not_le fun hle => Nat.not_lt.mpr (tickAt_mono hle) h

/-- A leg that goes on has a sample for each of its ticks. -/
theorem Leg.length_samples {leg : Leg α} (h : leg.outcome s₀ = none) :
    (leg.samples s₀).length = leg.turns := by
  unfold outcome at h
  split at h
  · next hturns =>
    rw [samples, hturns]
    rfl
  · exact Simulation.length_trace h

/-- Only the first tick finds that the movement had ended when it began. -/
theorem Leg.turns_of_outcome {leg : Leg α} (hopen : leg.outcome s₀ = none) {o : Outcome}
    (h : (leg.movement s₀).outcome = some o) : leg.turns = 0 := by
  unfold outcome at hopen
  split at hopen
  · assumption
  · rw [h] at hopen
    cases hopen

/-- **A tick tells all of its frames at its instant.** -/
theorem Stint.timetable_turn (hopen : x.leg.outcome s₀ = none) {frames : List (DeviceFrame α)}
    (hframes : x.leg.turn.frames s₀ = x.leg.frames s₀ ++ frames) :
    x.turn.timetable s₀ = x.timetable s₀ ++ frames.map (x.tickAt s₀ (x.leg.turns + 1), ·) := by
  have hlength := Leg.length_samples hopen
  cases ho : (x.leg.movement s₀).outcome with
  | some o =>
    -- the movement had ended when it began: its report comes with the first tick
    have hfirst : x.leg.turns = 0 := Leg.turns_of_outcome hopen ho
    obtain ⟨hsamples, hmovement⟩ := Leg.turn_of_outcome ho
    rw [Leg.frames_turn_of_outcome hopen ho, List.append_cancel_left_eq] at hframes
    have hout : x.turn.leg.outcome s₀ = some o := by
      rw [turn, Leg.outcome_turn, hmovement, ho]
    have hnone : x.leg.samples s₀ = [] := List.length_eq_zero_iff.mp (hlength.trans hfirst)
    rw [timetable, timetable, hout, hopen, show x.turn.leg.samples s₀ = [] from hsamples.trans hnone,
      hnone, hfirst, ← hframes]
    rfl
  | none =>
    -- the tick makes the sample that has its number, and a report with it has the same instant
    obtain ⟨m', hm'⟩ : ∃ m', (x.leg.movement s₀).step? = some m' := by
      simp [Simulation.step?, ho]
    obtain ⟨hsamples, hmovement⟩ := Leg.turn_of_step? hm'
    rw [Leg.frames_turn_of_step? hopen hm', List.append_cancel_left_eq] at hframes
    have hout : x.turn.leg.outcome s₀ = m'.outcome := by
      rw [turn, Leg.outcome_turn, hmovement]
    have hcount : max 1 (x.turn.leg.samples s₀).length = x.leg.turns + 1 := by
      rw [show x.turn.leg.samples s₀ = _ from hsamples, List.length_append, hlength]
      exact Nat.max_eq_right (Nat.le_add_left _ _)
    rw [timetable, timetable, hcount, hout, hopen, show x.turn.leg.samples s₀ = _ from hsamples,
      List.mapIdx_append, hlength, ← hframes]
    cases m'.outcome <;> simp [tickAt, turn, Simulation.sample]

end Timetable

/-! ### Stints in time -/

/-- The ticks of a stint up to an instant.  None is missing, unless the leg had ended. -/
structure Stint.Punctual (s₀ : Session α) (stop : Millis) (x : Stint α) : Prop where
  past : x.tickAt s₀ x.leg.turns ≤ stop
  next : x.leg.outcome s₀ = none → stop ≤ x.tickAt s₀ (x.leg.turns + 1)

/-- Each stint kept its time up to the next one, and the newest up to an instant. -/
inductive Timely (s₀ : Session α) : Millis → List (Stint α) → Prop where
  | nil {stop : Millis} : Timely s₀ stop []
  | cons {stop : Millis} {x : Stint α} {earlier : List (Stint α)} (head : x.Punctual s₀ stop)
      (before : Timely s₀ x.since earlier) : Timely s₀ stop (x :: earlier)

section Timely

variable {s₀ : Session α} {x : Stint α} {stop now : Millis} {earlier : List (Stint α)}

theorem Timely.stint {later : List (Stint α)} (h : Timely s₀ now (later ++ x :: earlier)) :
    x.Punctual s₀ (Stint.stop now later) := by
  induction later generalizing now with
  | nil =>
    cases h with
    | cons head before => exact head
  | cons y later ih =>
    cases h with
    | cons head before =>
      have hstop : Stint.stop now (y :: later) = Stint.stop y.since later := by
        rw [Stint.stop, Stint.stop, List.getLast?_cons]
        cases later.getLast? <;> rfl
      rw [hstop]
      exact ih before

/-- Time may pass up to the next tick. -/
theorem Timely.later {stints : List (Stint α)} (h : Timely s₀ now stints) {now' : Millis}
    (forward : now ≤ now')
    (next : ∀ x ∈ stints.head?, x.leg.outcome s₀ = none → now' ≤ x.tickAt s₀ (x.leg.turns + 1)) :
    Timely s₀ now' stints := by
  cases h with
  | nil => exact .nil
  | cons head before => exact .cons ⟨Nat.le_trans head.past forward, next _ rfl⟩ before

theorem Timely.took (h : Timely s₀ now earlier) (origin : DeviceState α) (command : Dispatch α) :
    Timely s₀ now (⟨now, ⟨origin, command, 0⟩⟩ :: earlier) := by
  refine .cons ⟨?_, fun _ => Nat.le_add_right _ _⟩ h
  rw [Stint.tickAt, Nat.zero_mul]
  exact Nat.le_refl now

/-- A tick at its instant. -/
theorem Timely.ticked (h : Timely s₀ now (x :: earlier)) (due : now = x.tickAt s₀ (x.leg.turns + 1)) :
    Timely s₀ now (x.turn :: earlier) := by
  cases h with
  | cons head before =>
    refine .cons ⟨Nat.le_of_eq due.symm, fun _ => ?_⟩ before
    rw [due]
    exact Stint.tickAt_mono (Nat.le_succ _)

/-- The samples of a leg are among those of its movement. -/
theorem Leg.getElem?_samples {leg : Leg α} {n i : Nat} {sample : Sample α} (hi : i < (leg.samples s₀).length)
    (h : ((leg.start s₀).trace n).1[i]? = some sample) : (leg.samples s₀)[i]? = some sample := by
  have hmine := List.getElem?_eq_getElem hi
  rcases Nat.le_total leg.turns n with hle | hle
  · have hprefix := Simulation.samples_prefix (leg.start s₀) hle
    rw [List.prefix_iff_getElem?.mp hprefix i hi] at h
    exact hmine.trans h
  · obtain ⟨hn, rfl⟩ := List.getElem?_eq_some_iff.mp h
    exact List.prefix_iff_getElem?.mp (Simulation.samples_prefix (leg.start s₀) hle) i hn

/-- **A stint that misses no tick misses no sample and not the end.** -/
theorem Stint.Punctual.paced (h : x.Punctual s₀ stop) : x.Paced s₀ stop := by
  have hcount : (x.leg.samples s₀).length ≤ x.leg.turns := Simulation.length_trace_le _ _
  -- a leg that goes on has made every tick that was due
  have hticked : ∀ {k}, x.leg.outcome s₀ = none → x.tickAt s₀ k < stop → k ≤ x.leg.turns := by
    intro k hopen hk
    exact Nat.le_of_lt_succ (lt_of_tickAt_lt (Nat.lt_of_lt_of_le hk (h.next hopen)))
  refine ⟨fun i hi => ?_, fun n i sample hsample hi => ?_, fun n o ho hn => ?_⟩
  · exact Nat.le_trans (tickAt_mono (Nat.le_trans hi hcount)) h.past
  · cases hout : x.leg.outcome s₀ with
    | none =>
      refine Leg.getElem?_samples ?_ hsample
      rw [Leg.length_samples hout]
      exact hticked hout hi
    | some o =>
      have hlength := (Leg.samples_of_outcome hout n).length_le
      exact Leg.getElem?_samples
        (Nat.lt_of_lt_of_le (List.getElem?_eq_some_iff.mp hsample).1 hlength) hsample
  · -- the leg has ticked, and as often as its movement has samples
    obtain ⟨hturns, hle⟩ : x.leg.turns ≠ 0 ∧ ((x.leg.start s₀).trace n).1.length ≤ x.leg.turns := by
      cases hout : x.leg.outcome s₀ with
      | none =>
        have := hticked hout hn
        omega
      | some o' =>
        refine ⟨fun hzero => ?_, Nat.le_trans (Leg.samples_of_outcome hout n).length_le hcount⟩
        rw [Leg.outcome_of_unturned hzero] at hout
        cases hout
    rw [Leg.outcome, if_neg hturns, Leg.movement, Simulation.trace_of_length ho hle, ho]

end Timely

end ScooterFleet
