import ScooterFleet.Proofs.Device.Stint

/-!
# When a device tells of its way

A device that moves tells of each sample at its instant: so many tick intervals behind the command that it
took.  What comes down the link in between makes no difference to this, unless it is the next command.

* `Paces` — **all runs in time**: frames go up at once, and the clock moves while the device has nothing to
  do, and not past its alarm;
* `Keeps` — what was sent is what the timetables of the stints say, and no stint is behind its time;
  `Keeps.step` and `Keeps.wait` — **a step keeps this, and so does the clock**;
* `Device.Ahead` / `Device.Ahead.acts` — **no instant lasts**: but for taking what comes, each step takes
  from the few that are left at an instant;
* `pacing` — the run.

A command that comes at the very instant of a tick may be taken before it or after it: samples that are due
at the instant of the next command are left open.
-/

namespace ScooterFleet

variable {α : Type} [Coordinate α]

/-! ### Runs in time -/

/-- The device has nothing to do. -/
def Device.isIdle (now : Millis) (l : Link α) (d : Device α) : Bool :=
  [Device.Choice.send, .receive, .tick].all fun c => (d.step now l c).isNone

theorem Device.step_of_isIdle {now : Millis} {l : Link α} {d : Device α} (h : d.isIdle now l = true)
    (c : Choice) : d.step now l c = none := by
  rw [isIdle, List.all_eq_true] at h
  exact Option.isNone_iff_eq_none.mp (h c (by cases c <;> decide))

/-- A device with nothing to do has sent all it had. -/
theorem Device.eq_running_of_isIdle {now : Millis} {l : Link α} {d : Device α}
    (attached : d.session?.isSome = true) (ready : l.up.isReady = true) (idle : d.isIdle now l = true) :
    ∃ s due, d = .running s due := by
  cases d with
  | offering requested profile => cases attached
  | awaiting profile => cases attached
  | finished result => cases attached
  | running s due => exact ⟨s, due, rfl⟩
  | sending s frame more due outcome =>
    have hsend := step_of_isIdle idle .send
    obtain ⟨up, hup⟩ := Channel.send_of_isReady ready (.ok frame)
    simp only [Device.step, hup] at hsend
    cases more <;> cases hsend

/-- The runs of a device from an instant on, with what it did and when.  It starts at rest, or was sent
somewhere just before.  The other side of the link is left open, but for this: what the device sends goes
through at once.  The clock moves only while the device has nothing to do, and not past its alarm. -/
inductive Paces (s₀ : Session α) (t₀ : Millis) : List (Millis × Deed α) → Millis → Device α → Prop where
  | start (rest : s₀.movement = none) : Paces s₀ t₀ [] t₀ (Device.attached s₀ t₀)
  | sentOff (rest : s₀.movement = none) {s : Session α} {destination : Position α} {trip : Option TripId}
      (taken : s₀.dispatch destination trip = .ok s) :
      Paces s₀ t₀ [(t₀, .took s₀.state ⟨s₀.scooter, destination, trip⟩)] t₀ (Device.attached s t₀)
  | step {log : List (Millis × Deed α)} {now : Millis} {d d' : Device α} {l l' : Link α}
      {c : Device.Choice} (run : Paces s₀ t₀ log now d) (ready : l.up.isReady = true)
      (next : d.step now l c = some (d', l')) :
      Paces s₀ t₀ (log ++ (d.deeds l c).map (now, ·)) now d'
  | wait {log : List (Millis × Deed α)} {now now' : Millis} {d : Device α} {l : Link α}
      (run : Paces s₀ t₀ log now d) (ready : l.up.isReady = true) (idle : d.isIdle now l = true)
      (serves : d.result? = none) (forward : now ≤ now') (alarm : ∀ due ∈ d.alarm?, now' ≤ due) :
      Paces s₀ t₀ log now' d

/-! ### What a run keeps -/

/-- The alarm of a device is that of its newest stint. -/
def Device.OnTime (s₀ : Session α) (now : Millis) (x : Stint α) : Device α → Prop
  | .running s due => s.isMoving = true → due = x.tickAt s₀ (x.leg.turns + 1) ∧ now ≤ due
  | .sending _ _ _ due _ => now = x.tickAt s₀ x.leg.turns ∧ due = x.tickAt s₀ (x.leg.turns + 1)
  | _ => True

/-- A run so far: what was sent and is to be sent now is what the timetables of its stints say, and no
stint is behind its time. -/
structure Keeps (s₀ : Session α) (log : List (Millis × Deed α)) (now : Millis) (d : Device α) : Prop where
  tells : Tells s₀ (log.map Prod.snd) d
  timely : Timely s₀ now (stints log)
  onTime : ∀ x ∈ (stints log).head?, d.OnTime s₀ now x
  posted : posted log ++ d.unsent.map (now, ·) = (stints log).reverse.flatMap (Stint.timetable s₀)

section Keeping

variable {s₀ s : Session α} {log : List (Millis × Deed α)} {now due : Millis} {d d' : Device α}

theorem keeps_start (rest : s₀.movement = none) : Keeps s₀ [] now (Device.attached s₀ now) :=
  ⟨tells_attached rest now, .nil, nofun, rfl⟩

/-- A step by which nothing is sent, no leg begins and no tick is made. -/
theorem Keeps.quiet (h : Keeps s₀ log now d) (tells : Tells s₀ ((log ++ []).map Prod.snd) d')
    (unsent : d'.unsent = d.unsent) (onTime : ∀ x ∈ (stints log).head?, d'.OnTime s₀ now x) :
    Keeps s₀ (log ++ []) now d' := by
  rw [List.append_nil] at tells ⊢
  exact ⟨tells, h.timely, onTime, unsent ▸ h.posted⟩

/-- A command that the session takes begins a stint. -/
theorem Keeps.takes {s' : Session α} {command : Dispatch α} (h : Keeps s₀ log now (.running s due))
    (tells : Tells s₀ ((log ++ [(now, Deed.took s.state command)]).map Prod.snd)
      (Device.attached s' now)) :
    Keeps s₀ (log ++ [(now, .took s.state command)]) now (Device.attached s' now) := by
  have hprofile : s'.profile = s₀.profile := tells.travels.1.profile
  have hstints : stints (log ++ [(now, .took s.state command)]) =
      ⟨now, ⟨s.state, command, 0⟩⟩ :: stints log := stints_append_singleton log _
  have hfresh : Stint.timetable s₀ ⟨now, ⟨s.state, command, 0⟩⟩ = [] := rfl
  refine ⟨tells, ?_, ?_, ?_⟩
  · rw [hstints]
    exact h.timely.took _ _
  · rw [hstints]
    rintro x ⟨⟩ -
    refine ⟨?_, Nat.le_add_right _ _⟩
    rw [hprofile, Stint.tickAt, Nat.zero_add, Nat.one_mul]
  · rw [hstints, List.reverse_cons, List.flatMap_append, List.flatMap_singleton, hfresh, ← h.posted,
      posted_append, List.append_nil]
    exact congrArg (· ++ []) (List.append_nil _)

theorem Keeps.exists_stint (h : Keeps s₀ log now (.running s due)) (moving : s.isMoving = true) :
    ∃ x earlier, stints log = x :: earlier := by
  obtain ⟨leg, earlier, hlegs⟩ := h.tells.travels.1.exists_leg moving
  rw [← map_leg_stints] at hlegs
  obtain ⟨x, later, hstints, -, -⟩ := List.map_eq_cons_iff.mp hlegs
  exact ⟨x, later, hstints⟩

/-- A tick comes at its instant, and so do its frames. -/
theorem Keeps.ticks {frame : DeviceFrame α} {more : List (DeviceFrame α)}
    (h : Keeps s₀ log now (.running s due)) (moving : s.isMoving = true) (late : due ≤ now)
    (frames : s.tick.frames = frame :: more)
    (tells : Tells s₀ ((log ++ [(now, Deed.ticked)]).map Prod.snd)
      (.sending s.tick.session frame more (due + s.profile.interval) s.tick.outcome)) :
    Keeps s₀ (log ++ [(now, .ticked)]) now
      (.sending s.tick.session frame more (due + s.profile.interval) s.tick.outcome) := by
  obtain ⟨x, earlier, hstints⟩ := h.exists_stint moving
  have htravels := h.tells.travels.1
  rw [← map_leg_stints, hstints] at htravels
  obtain ⟨hdue, hnow⟩ := h.onTime x (by rw [hstints]; rfl) moving
  -- the clock has not passed the alarm, and the alarm has gone off
  have hinstant : now = x.tickAt s₀ (x.leg.turns + 1) := Nat.le_antisymm (hdue ▸ hnow) (hdue ▸ late)
  obtain ⟨m, hm⟩ := Option.isSome_iff_exists.mp moving
  have hopen : x.leg.outcome s₀ = none := (htravels.onItsWay hm).1
  have hturn := Stint.timetable_turn hopen (Session.travels_tick htravels moving).2.2
  have hstints' : stints (log ++ [(now, .ticked)]) = x.turn :: earlier := by
    rw [stints_append_singleton, hstints]
    rfl
  refine ⟨tells, ?_, ?_, ?_⟩
  · rw [hstints']
    exact (hstints ▸ h.timely).ticked hinstant
  · rw [hstints']
    rintro y ⟨⟩
    refine ⟨hinstant, ?_⟩
    rw [hdue, htravels.profile]
    exact (Stint.tickAt_add_one _).symm
  · have hposted := h.posted
    rw [hstints, List.reverse_cons, List.flatMap_append, List.flatMap_singleton] at hposted
    rw [hstints', List.reverse_cons, List.flatMap_append, List.flatMap_singleton, hturn, ← hinstant,
      frames, ← List.append_assoc, ← hposted, posted_append, List.append_assoc, List.append_assoc]
    rfl

/-- A frame is sent at the instant of its tick. -/
theorem Keeps.sends {frame : DeviceFrame α} {more : List (DeviceFrame α)} {outcome : Option Outcome}
    (h : Keeps s₀ log now (.sending s frame more due outcome))
    (tells : Tells s₀ ((log ++ [(now, Deed.sent frame)]).map Prod.snd) d') (unsent : d'.unsent = more)
    (onTime : ∀ x, Device.OnTime s₀ now x (.sending s frame more due outcome) → d'.OnTime s₀ now x) :
    Keeps s₀ (log ++ [(now, .sent frame)]) now d' := by
  have hstints : stints (log ++ [(now, .sent frame)]) = stints log := stints_append_singleton log _
  refine ⟨tells, hstints ▸ h.timely, fun x hx => onTime x (h.onTime x (hstints ▸ hx)), ?_⟩
  rw [hstints, ← h.posted, unsent, posted_append, List.append_assoc]
  rfl

/-- **A step keeps the time.** -/
theorem Keeps.step {l l' : Link α} {c : Device.Choice} (h : Keeps s₀ log now d)
    (ready : l.up.isReady = true) (next : d.step now l c = some (d', l')) :
    Keeps s₀ (log ++ (d.deeds l c).map (now, ·)) now d' := by
  have attached := h.tells.travels.attached (Device.result?_of_step next)
  have tells : Tells s₀ ((log ++ (d.deeds l c).map (now, ·)).map Prod.snd) d' := by
    have hdeeds : ((d.deeds l c).map (now, ·)).map Prod.snd = d.deeds l c :=
      List.map_map.trans (List.map_id _)
    rw [List.map_append, hdeeds]
    exact tells_step h.tells next
  have acts : d.Acts now l c (d.deeds l c) d' := Device.acts_of_step attached next
  generalize d.deeds l c = deeds at tells acts
  cases acts with
  | passes => exact h.quiet tells rfl h.onTime
  | takes own taken => exact h.takes tells
  | quits => exact h.quiet tells rfl fun _ _ => trivial
  | ticks moving late frames => exact h.ticks moving late frames tells
  | sends => exact h.sends tells rfl fun _ => id
  | goesOn charged =>
    refine h.sends tells rfl fun x hx _ => ⟨hx.2, ?_⟩
    rw [hx.1, hx.2]
    exact Stint.tickAt_mono (Nat.le_succ _)
  | stops => exact h.sends tells rfl fun _ _ => trivial
  | fails broken =>
    -- nothing is lost on a link that takes frames at once
    rw [ready] at broken
    cases broken

/-- **The clock keeps the time**: it does not pass the alarm. -/
theorem Keeps.wait {l : Link α} {now' : Millis} (h : Keeps s₀ log now d) (ready : l.up.isReady = true)
    (idle : d.isIdle now l = true) (serves : d.result? = none) (forward : now ≤ now')
    (alarm : ∀ due ∈ d.alarm?, now' ≤ due) : Keeps s₀ log now' d := by
  obtain ⟨s, due, rfl⟩ := Device.eq_running_of_isIdle (h.tells.travels.attached serves) ready idle
  have hsleeps : s.isMoving = true → now' ≤ due := fun moving =>
    alarm due (by simp [Device.alarm?, moving])
  refine ⟨h.tells, h.timely.later forward fun x hx hopen => ?_, fun x hx moving => ?_, h.posted⟩
  · -- a leg goes on as long as the session moves, and then the alarm is the leg's next tick
    have hmovement := h.tells.travels.1.movement
    obtain ⟨earlier, hstints⟩ := List.head?_eq_some_iff.mp hx
    rw [← map_leg_stints, hstints, List.map_cons, underWay, if_pos hopen] at hmovement
    have moving : s.isMoving = true := by rw [Session.isMoving, hmovement]; rfl
    rw [← (h.onTime x hx moving).1]
    exact hsleeps moving
  · exact ⟨(h.onTime x hx moving).1, hsleeps moving⟩

/-- **The run keeps its time.** -/
theorem keeps_run {t₀ : Millis} (run : Paces s₀ t₀ log now d) : Keeps s₀ log now d := by
  induction run with
  | start rest => exact keeps_start rest
  | sentOff rest taken =>
    have hstart : Keeps s₀ [] t₀ (Device.attached s₀ t₀) := keeps_start rest
    exact hstart.takes (tells_command hstart.tells rfl taken)
  | step run ready next ih => exact ih.step ready next
  | wait run ready idle serves forward alarm ih => exact ih.wait ready idle serves forward alarm

end Keeping

/-! ### No instant lasts -/

namespace Device

/-- Steps at one instant, each on its own link; none if one of them is not enabled. -/
def spell (now : Millis) (d : Device α) : List (Link α × Choice) → Option (Device α)
  | [] => some d
  | (l, c) :: more => (d.step now l c).bind fun x => x.1.spell now more

/-- The alarm is not behind the clock, and with frames in hand it is ahead of it. -/
def Ahead (now : Millis) : Device α → Prop
  | .running s due => 0 < s.profile.interval ∧ (s.isMoving = true → now ≤ due)
  | .sending s _ more due _ => 0 < s.profile.interval ∧ now < due ∧ more.length ≤ 1
  | .finished _ => True
  | _ => False

/-- The steps that are left at an instant, but for taking what comes. -/
def labor (now : Millis) : Device α → Nat
  | .running s due => if s.isMoving && decide (due ≤ now) then 3 else 0
  | .sending _ _ more _ _ => more.length + 1
  | _ => 0

omit [Coordinate α] in
theorem labor_running {s : Session α} {now due : Millis} (ahead : now < due) :
    (running s due).labor now = 0 := by
  have hdue : decide (due ≤ now) = false := decide_eq_false (Nat.not_le.mpr ahead)
  rw [labor, hdue, Bool.and_false]
  rfl

variable {now : Millis} {l : Link α} {d d' : Device α} {c : Choice}

omit [Coordinate α] in
theorem Ahead.attached (h : d.Ahead now) (serves : d.result? = none) : d.session?.isSome = true := by
  cases d with
  | offering requested profile => exact h.elim
  | awaiting profile => exact h.elim
  | finished result => cases serves
  | running s due => rfl
  | sending s frame more due outcome => rfl

omit [Coordinate α] in
theorem Ahead.labor_le (h : d.Ahead now) : d.labor now ≤ 3 := by
  cases d with
  | running s due =>
    rw [labor]
    split <;> decide
  | sending s frame more due outcome => exact Nat.le_succ_of_le (Nat.add_le_add_right h.2.2 1)
  | _ => exact Nat.zero_le 3

/-- **A step does some of the labor, or takes what has come.** -/
theorem Ahead.acts {deeds : List (Deed α)} (ahead : d.Ahead now) (acts : d.Acts now l c deeds d') :
    d'.Ahead now ∧ d'.labor now + (if c != .receive then 1 else 0) ≤ d.labor now := by
  cases acts with
  | passes => exact ⟨ahead, Nat.le_refl _⟩
  | quits => exact ⟨trivial, Nat.zero_le _⟩
  | @takes s s' due command own taken =>
    obtain ⟨start, -, rfl⟩ := Session.dispatch_eq_ok taken
    have hlater : now < now + s.profile.interval := Nat.lt_add_of_pos_right ahead.1
    refine ⟨⟨ahead.1, fun _ => Nat.le_of_lt hlater⟩, ?_⟩
    rw [Device.attached, labor_running hlater]
    exact Nat.zero_le _
  | @ticks s due frame more moving late frames =>
    obtain ⟨frame', more', hframes, hfew⟩ := Session.frames_tick moving
    rw [frames] at hframes
    cases hframes
    have hlabor : (running s due).labor now = 3 := by
      rw [labor, moving, decide_eq_true late]
      rfl
    -- an alarm that goes off at its instant is an interval away from the next one
    have hlater : now < due + s.profile.interval :=
      Nat.lt_of_le_of_lt (ahead.2 moving) (Nat.lt_add_of_pos_right ahead.1)
    refine ⟨⟨s.keeps_tick.2 ▸ ahead.1, hlater, hfew⟩, ?_⟩
    rw [hlabor]
    exact Nat.add_le_add_right (Nat.add_le_add_right hfew 1) 1
  | sends => exact ⟨⟨ahead.1, ahead.2.1, Nat.le_of_succ_le ahead.2.2⟩, Nat.le_refl _⟩
  | goesOn charged =>
    refine ⟨⟨ahead.1, fun _ => Nat.le_of_lt ahead.2.1⟩, ?_⟩
    rw [labor_running ahead.2.1]
    exact Nat.le_refl 1
  | stops => exact ⟨trivial, Nat.le_refl 1⟩
  | fails broken => exact ⟨trivial, Nat.le_add_left 1 _⟩

theorem Ahead.step {x : Device α × Link α} (ahead : d.Ahead now) (next : d.step now l c = some x) :
    x.1.Ahead now ∧ x.1.labor now + (if c != .receive then 1 else 0) ≤ d.labor now :=
  ahead.acts (acts_of_step (ahead.attached (result?_of_step next)) next)

/-- Besides taking what comes, a device makes three steps at one instant at most. -/
theorem Ahead.spell_le {steps : List (Link α × Choice)} (ahead : d.Ahead now)
    (h : d.spell now steps = some d') : steps.countP (·.2 != .receive) ≤ 3 := by
  have hlabor : steps.countP (·.2 != .receive) ≤ d.labor now := by
    induction steps generalizing d with
    | nil => exact Nat.zero_le _
    | cons x steps ih =>
      obtain ⟨l, c⟩ := x
      obtain ⟨⟨d₁, l₁⟩, next, hrest⟩ := Option.bind_eq_some_iff.mp h
      obtain ⟨ahead', hlabor⟩ := ahead.step next
      rw [List.countP_cons]
      exact Nat.le_trans (Nat.add_le_add_right (ih ahead' hrest) _) hlabor
  exact Nat.le_trans hlabor ahead.labor_le

/-- The alarm of a device with nothing to do is ahead. -/
theorem lt_alarm_of_isIdle (idle : d.isIdle now l = true) : ∀ due ∈ d.alarm?, now < due := by
  intro due hdue
  cases d with
  | running s due' =>
    have htick := step_of_isIdle idle .tick
    simp only [alarm?] at hdue
    split at hdue
    · next moving =>
      cases hdue
      rw [step, moving, Bool.true_and] at htick
      split at htick
      · cases htick
      · next hlate => exact Nat.lt_of_not_le fun hle => hlate (decide_eq_true hle)
    · cases hdue
  | _ => cases hdue

end Device

section Pacing

variable {s₀ : Session α} {log : List (Millis × Deed α)} {t₀ now : Millis} {d : Device α}

theorem ahead_run (spaced : 0 < s₀.profile.interval) (run : Paces s₀ t₀ log now d) : d.Ahead now := by
  induction run with
  | start rest => exact ⟨spaced, fun _ => Nat.le_add_right _ _⟩
  | sentOff rest taken =>
    obtain ⟨start, -, rfl⟩ := Session.dispatch_eq_ok taken
    exact ⟨spaced, fun _ => Nat.le_add_right _ _⟩
  | step run ready next ih => exact (ih.step next).1
  | wait run ready idle serves forward alarm ih =>
    obtain ⟨s, due, rfl⟩ := Device.eq_running_of_isIdle (ih.attached serves) ready idle
    exact ⟨ih.1, fun moving => alarm due (by simp [Device.alarm?, moving])⟩

/-- **A device tells of its way in time.**  A device starts at rest, or just sent somewhere.  Frames go up
at once, and whatever else is on its link comes at any time and in any number.  What it sent, and what it is
to send at this very instant, is what the timetables of its stints say: the sample with a number so many
tick intervals behind the command, the report with the last sample, or behind the first interval if there is
no sample, and nothing else.  The stints follow each other as the commands do, and none is behind its time:
the samples and the end of its movement that were due before the next command, or before now, are all in
its timetable.  And time goes on: at one instant the device makes three steps at most besides taking what
comes, and when it has nothing to do, its alarm is ahead. -/
theorem pacing (run : Paces s₀ t₀ log now d) :
    posted log ++ d.unsent.map (now, ·) = (stints log).reverse.flatMap (Stint.timetable s₀) ∧
      Itinerary s₀ ((stints log).map Stint.leg) ∧
      (∀ later x earlier, stints log = later ++ x :: earlier → x.Paced s₀ (Stint.stop now later)) ∧
      (0 < s₀.profile.interval → ∀ steps d', d.spell now steps = some d' →
        steps.countP (·.2 != .receive) ≤ 3) ∧
      ∀ l, d.isIdle now l = true → ∀ due ∈ d.alarm?, now < due := by
  have keeps : Keeps s₀ log now d := keeps_run run
  refine ⟨keeps.posted, ?_, fun later x earlier hstints => ?_, fun spaced steps d' hsteps => ?_, ?_⟩
  · rw [map_leg_stints]
    exact keeps.tells.itinerary
  · exact (Timely.stint (hstints ▸ keeps.timely)).paced
  · exact (ahead_run spaced run).spell_le hsteps
  · exact fun l idle => Device.lt_alarm_of_isIdle idle

end Pacing

/-! ### A device that is sent elsewhere at its own time -/

/-- The clock may move from one instant to another, if it has to. -/
def Device.lets (now now' : Millis) (l : Link α) (d : Device α) : Bool :=
  now = now' || d.isIdle now l && d.result?.isNone && now ≤ now' && d.alarm?.all fun due => now' ≤ due

/-- Makes the steps in their order, each at its instant; none if the clock may not move there, or the step
is not enabled.  Nothing comes in between. -/
def Device.keepTo (now : Millis) (d : Device α) :
    List (Millis × Link α × Device.Choice) → Option (List (Millis × Deed α) × Millis × Device α)
  | [] => some ([], now, d)
  | (now', l, c) :: more =>
    if d.lets now now' .unbounded && l.up.isReady then
      match d.step now' l c with
      | none => none
      | some (d', _) => (d'.keepTo now' more).map fun out => ((d.deeds l c).map (now', ·) ++ out.1, out.2)
    else none

theorem Paces.lets {s₀ : Session α} {log : List (Millis × Deed α)} {t₀ now now' : Millis} {d : Device α}
    (run : Paces s₀ t₀ log now d) (h : d.lets now now' .unbounded = true) : Paces s₀ t₀ log now' d := by
  simp only [Device.lets, Bool.or_eq_true, Bool.and_eq_true, decide_eq_true_eq] at h
  rcases h with rfl | ⟨⟨⟨idle, serves⟩, forward⟩, alarm⟩
  · exact run
  · refine run.wait rfl idle (Option.isNone_iff_eq_none.mp serves) forward fun due hdue => ?_
    rw [Option.mem_def.mp hdue] at alarm
    exact of_decide_eq_true alarm

theorem paces_of_keepTo {s₀ : Session α} {t₀ : Millis} {steps : List (Millis × Link α × Device.Choice)}
    {log log' : List (Millis × Deed α)} {now now' : Millis} {d d' : Device α}
    (h : d.keepTo now steps = some (log', now', d')) (run : Paces s₀ t₀ log now d) :
    Paces s₀ t₀ (log ++ log') now' d' := by
  induction steps generalizing log log' now d with
  | nil =>
    cases h
    rw [List.append_nil]
    exact run
  | cons x more ih =>
    obtain ⟨now₁, l, c⟩ := x
    simp only [Device.keepTo] at h
    split at h
    · next hgoes =>
      obtain ⟨hlets, ready⟩ := Bool.and_eq_true_iff.mp hgoes
      split at h
      · cases h
      · next d₁ l₁ next =>
        obtain ⟨⟨log₁, now₂, d₂⟩, hout, he⟩ := Option.map_eq_some_iff.mp h
        cases he
        rw [← List.append_assoc]
        exact ih hout ((run.lets hlets).step ready next)
    · cases h

section Redirected

attribute [local instance] exactRat

/-- A tick takes 450. -/
def unhurried : Session Rat := { parked with profile := ⟨1, 1, 450, 0⟩ }

/-- A link that brings a frame of no concern. -/
def Link.gossiping (m : Except LinkFault (ServerFrame Rat)) : Link Rat :=
  ⟨.unbounded, ⟨[m], none, false, false, none⟩⟩

/-- Two steps on the way out, and then aside to the end, with much talk in between. -/
def leisurely : List (Millis × Link Rat × Device.Choice) :=
  [(700, .gossiping (.ok (.welcome 7 ⟨⟨5, 5⟩, 3⟩)), .receive), (1000, .bringing outward, .receive),
    (1449, .gossiping (.error (.encoding "no frame")), .receive), (1450, .unbounded, .tick),
    (1450, .unbounded, .send), (1500, .bringing { aside with scooter := 8 }, .receive),
    (1900, .gossiping (.ok (.rejected "busy")), .receive), (1900, .unbounded, .tick),
    (1900, .unbounded, .send), (2000, .bringing aside, .receive), (2450, .unbounded, .tick),
    (2450, .unbounded, .send), (2450, .unbounded, .send),
    (9000, .gossiping (.ok (.rejected "late")), .receive)]

/-- The commands come at 1000 and at 2000. -/
theorem pacing_leisurely : ∃ log d, Paces unhurried 0 log 9000 d ∧
    stints log = [⟨2000, ⟨⟨⟨2, 0⟩, 78⟩, aside, 1⟩⟩, ⟨1000, ⟨⟨⟨0, 0⟩, 80⟩, outward, 2⟩⟩] ∧
    posted log =
      [(1450, .telemetry ⟨7, ⟨1, 0⟩⟩), (1900, .telemetry ⟨7, ⟨2, 0⟩⟩), (2450, .telemetry ⟨7, ⟨2, 1⟩⟩),
        (2450, .tripEnded ⟨7, ⟨2, 1⟩, 77, .arrived, some (Uuid.ofNat 2)⟩)] ∧
    posted log ++ d.unsent.map (9000, ·) =
      (stints log).reverse.flatMap (Stint.timetable unhurried) := by
  have hplay : ((Device.attached unhurried 0).keepTo 0 leisurely).map (fun out =>
      (stints out.1, posted out.1, out.2.1)) =
      some ([⟨2000, ⟨⟨⟨2, 0⟩, 78⟩, aside, 1⟩⟩, ⟨1000, ⟨⟨⟨0, 0⟩, 80⟩, outward, 2⟩⟩],
        [(1450, .telemetry ⟨7, ⟨1, 0⟩⟩), (1900, .telemetry ⟨7, ⟨2, 0⟩⟩),
          (2450, .telemetry ⟨7, ⟨2, 1⟩⟩),
          (2450, .tripEnded ⟨7, ⟨2, 1⟩, 77, .arrived, some (Uuid.ofNat 2)⟩)], 9000) := by
    decide +kernel
  obtain ⟨⟨log, now, d⟩, hplay, he⟩ := Option.map_eq_some_iff.mp hplay
  obtain ⟨hstints, hrest⟩ := Prod.mk.inj he
  obtain ⟨hposted, hnow⟩ := Prod.mk.inj hrest
  have run : Paces unhurried 0 log now d := paces_of_keepTo hplay (.start rfl)
  rw [show now = 9000 from hnow] at run
  exact ⟨log, d, run, hstints, hposted, (pacing run).1⟩

end Redirected
end ScooterFleet
