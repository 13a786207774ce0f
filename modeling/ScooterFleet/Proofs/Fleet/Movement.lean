import ScooterFleet.Proofs.Device.Session
import ScooterFleet.Proofs.Fleet.Carriage
import ScooterFleet.Proofs.Fleet.Run

/-!
# The movements of devices

A device moves because it took a command, and reports where that movement ended.

* `UnderWay` — a movement, told back to the command that the device took last;
* `Told` — a report, told back in the same way to the movement that it ends;
* `Device.Recounts` — what a device moves by and what it is about to send can be told back so;
* `recounts_device_step` — **one step of a device keeps this**, and puts nothing else on its link.

What a command comes from is `Sourced`: one for a trip was dispatched by the trip's rental.
-/

namespace ScooterFleet

variable {α : Type} [Coordinate α]

/-! ### Commands and reports -/

omit [Coordinate α] in
/-- The command by which a rental's scooter leaves. -/
def Departure.command (d : Departure α) : Dispatch α :=
  ⟨d.ticket.scooter, d.station.position, some d.ticket.trip⟩

omit [Coordinate α] in
/-- A command for a trip was dispatched by the rental that claimed the trip. -/
def Sourced (journal : List (Note α)) (m : Dispatch α) : Prop :=
  ∀ trip, m.trip = some trip → ∃ id d, .dispatched id d ∈ journal ∧ m = d.command

/-- The first state of a movement that a device in the state `before` began by a command. -/
structure Begins (early : List (Note α)) (before : Session α) (command : Dispatch α)
    (start : Simulation α) : Prop where
  sourced : Sourced early command
  scooter : command.scooter = before.scooter
  starts : Simulation.start? before.position command.destination before.battery before.profile =
    .ok start

/-- The device took a command, no other one since, and this is what became of the movement. -/
def UnderWay (journal : List (Note α)) (dev : TaskId) (s : Session α) (movement : Simulation α) :
    Prop :=
  ∃ early before command later start n,
    journal = early ++ .accepted dev before command :: later ∧
    (∀ s c, .accepted dev s c ∉ later) ∧
    Begins early before command start ∧
    (start.trace n).2 = movement ∧
    s.scooter = before.scooter ∧ s.trip = command.trip ∧ s.position = movement.position

/-- A device took a command, no other one until the movement ended, and reported this end. -/
def Told (journal : List (Note α)) (report : TripReport α) : Prop :=
  ∃ dev early before command middle late start n,
    journal = early ++ .accepted dev before command :: (middle ++ .ended dev report :: late) ∧
    (∀ s c, .accepted dev s c ∉ middle) ∧
    Begins early before command start ∧
    (start.trace n).2.outcome = some report.outcome ∧
    (start.trace n).2.position = report.position ∧
    report.scooter = before.scooter ∧ report.trip = command.trip

omit [Coordinate α] in
theorem Sourced.append {journal : List (Note α)} {m : Dispatch α} (h : Sourced journal m)
    (es : List (Note α)) : Sourced (journal ++ es) m := by
  intro trip ht
  obtain ⟨id, d, hd, hm⟩ := h trip ht
  exact ⟨id, d, List.mem_append_left es hd, hm⟩

theorem Told.append {journal : List (Note α)} {report : TripReport α} (h : Told journal report)
    (es : List (Note α)) : Told (journal ++ es) report := by
  obtain ⟨dev, early, before, command, middle, late, start, n, rfl, hrest⟩ := h
  exact ⟨dev, early, before, command, middle, late ++ es, start, n, by simp, hrest⟩

theorem UnderWay.append {journal es : List (Note α)} {dev : TaskId} {s : Session α}
    {movement : Simulation α} (h : UnderWay journal dev s movement)
    (hes : ∀ s c, .accepted dev s c ∉ es) : UnderWay (journal ++ es) dev s movement := by
  obtain ⟨early, before, command, later, start, n, rfl, hlater, hrest⟩ := h
  refine ⟨early, before, command, later ++ es, start, n, by simp, ?_, hrest⟩
  intro s c hm
  rcases List.mem_append.mp hm with hm | hm
  · exact hlater s c hm
  · exact hes s c hm

/-! ### Sessions -/

namespace Session

/-- The movement under way can be told back. -/
def Recounts (journal : List (Note α)) (dev : TaskId) (s : Session α) : Prop :=
  ∀ movement, s.movement = some movement → UnderWay journal dev s movement

/-- A command that is taken is the last one that was taken. -/
theorem recounts_dispatch {journal : List (Note α)} {dev : TaskId} {s s' : Session α}
    {command : Dispatch α} (h : s.dispatch command.destination command.trip = .ok s')
    (hscooter : command.scooter = s.scooter) (hcommand : Sourced journal command) :
    s'.Recounts (journal ++ [.accepted dev s command]) dev := by
  obtain ⟨start, hstart, rfl⟩ := dispatch_eq_ok h
  intro movement he
  cases he
  exact ⟨journal, s, command, [], start, 0, rfl, nofun, ⟨hcommand, hscooter, hstart⟩, rfl, rfl, rfl,
    (Simulation.position_of_start? hstart).symm⟩

/-- A tick takes the session to where its movement is next, and then tells of the end if there is
one. -/
theorem tick_cases {s : Session α} {movement : Simulation α} (hm : s.movement = some movement)
    (hp : s.position = movement.position) :
    ∃ (passed : List (DeviceFrame α)) (s₁ : Session α),
      passed.filterMap Note.report? = [] ∧ s₁.movement = some movement.next.2 ∧
      s₁.position = movement.next.2.position ∧ s₁.scooter = s.scooter ∧ s₁.trip = s.trip ∧
      s.tick = match movement.next.2.outcome with
        | none => ⟨s₁, passed, none⟩
        | some outcome => ⟨s₁.rest, passed ++ [s₁.report outcome], some outcome⟩ := by
  cases hs : movement.step? with
  | none =>
    obtain ⟨o, ho⟩ := Simulation.step?_eq_none_iff.mp hs
    have hnext : movement.next.2 = movement := by rw [Simulation.next_snd, hs]; rfl
    rw [hnext]
    refine ⟨[], s, rfl, hm, hp, rfl, rfl, ?_⟩
    rw [ho]
    exact tick_of_outcome hm ho
  | some movement' =>
    have hnext : movement.next.2 = movement' := by rw [Simulation.next_snd, hs]; rfl
    rw [hnext]
    refine ⟨[.telemetry ⟨s.scooter, movement'.position⟩],
      { s with movement := some movement' }.take movement'.sample, rfl, rfl, rfl, rfl, rfl, ?_⟩
    rw [tick_of_step? hm hs]
    cases movement'.outcome <;> rfl

/-- The notes of a tick. -/
def tickNotes (dev : TaskId) (s : Session α) : List (Note α) :=
  (s.tick.frames.filterMap Note.report?).map (.ended dev)

theorem accepted_notMem_tickNotes {dev dev' : TaskId} {s s' : Session α} {c : Dispatch α} :
    .accepted dev' s' c ∉ s.tickNotes dev := by
  simp [tickNotes]

/-- **After a tick the movement goes on, or has been reported.** -/
theorem recounts_tick {journal : List (Note α)} {dev : TaskId} {s : Session α}
    (h : s.Recounts journal dev) (hmoving : s.isMoving = true) :
    s.tick.session.Recounts (journal ++ s.tickNotes dev) dev ∧
      ∀ report, .tripEnded report ∈ s.tick.frames → Told (journal ++ s.tickNotes dev) report := by
  obtain ⟨movement, hm⟩ := Option.isSome_iff_exists.mp hmoving
  obtain ⟨early, before, command, later, start, n, rfl, hlater, hbegins, hrun, hscooter, htrip, hp⟩ :=
    h movement hm
  obtain ⟨passed, s₁, hpassed, hm₁, hp₁, hscooter₁, htrip₁, htick⟩ := tick_cases hm hp
  -- the movement has made one more step
  have hrun' : (start.trace (n + 1)).2 = movement.next.2 := by
    rw [Simulation.trace_succ, hrun, Simulation.next_snd]
  cases ho : movement.next.2.outcome with
  | none =>
    simp only [ho] at htick
    refine ⟨?_, ?_⟩
    · intro movement' hm'
      rw [htick] at hm'
      rw [hm₁] at hm'
      cases hm'
      rw [htick]
      exact UnderWay.append ⟨early, before, command, later, start, n + 1, rfl, hlater, hbegins, hrun',
        hscooter₁.trans hscooter, htrip₁.trans htrip, hp₁⟩ fun _ _ => accepted_notMem_tickNotes
    · intro report hr
      rw [htick] at hr
      have hnone : report ∈ passed.filterMap Note.report? :=
        List.mem_filterMap.mpr ⟨_, hr, rfl⟩
      rw [hpassed] at hnone
      cases hnone
  | some outcome =>
    simp only [ho] at htick
    have hnotes : s.tickNotes dev =
        [.ended dev ⟨s₁.scooter, s₁.position, s₁.battery, outcome, s₁.trip⟩] := by
      unfold tickNotes
      rw [htick, List.filterMap_append, hpassed]
      rfl
    refine ⟨?_, ?_⟩
    · rw [htick]
      intro movement' hm'
      cases hm'
    · intro report hr
      rw [htick] at hr
      have hmine : report = ⟨s₁.scooter, s₁.position, s₁.battery, outcome, s₁.trip⟩ := by
        have hone : report ∈ (passed ++ [s₁.report outcome]).filterMap Note.report? :=
          List.mem_filterMap.mpr ⟨_, hr, rfl⟩
        rw [List.filterMap_append, hpassed] at hone
        exact List.mem_singleton.mp hone
      subst hmine
      rw [hnotes]
      exact ⟨dev, early, before, command, later, [], start, n + 1, by simp, hlater, hbegins,
        by rw [hrun', ho], by rw [hrun', hp₁], hscooter₁.trans hscooter, htrip₁.trans htrip⟩

end Session

/-! ### Devices -/

namespace Device

/-- A device can tell back what moves it and what it is about to send. -/
def Recounts (journal : List (Note α)) (dev : TaskId) : Device α → Prop
  | .running s _ => s.Recounts journal dev
  | .sending s frame more _ _ =>
    s.Recounts journal dev ∧ ∀ report, .tripEnded report ∈ frame :: more → Told journal report
  | _ => True

theorem Recounts.append {journal es : List (Note α)} {dev : TaskId} {d : Device α}
    (h : d.Recounts journal dev) (hes : ∀ s c, .accepted dev s c ∉ es) :
    d.Recounts (journal ++ es) dev := by
  cases d with
  | running s due => exact fun movement hm => (h movement hm).append hes
  | sending s frame more due outcome =>
    exact ⟨fun movement hm => (h.1 movement hm).append hes,
      fun report hr => (h.2 report hr).append es⟩
  | _ => trivial

/-- What a step of a device leaves. -/
structure Leaves (journal : List (Note α)) (dev : TaskId) (x : Device α × Link α) : Prop where
  device : x.1.Recounts journal dev
  link : x.2.Carries (Sourced journal) (Told journal)

variable {journal : List (Note α)} {dev : TaskId} {l : Link α}

theorem leaves_finish (hl : l.Carries (Sourced journal) (Told journal))
    (result : Except (SessionFault α) SessionEnd) : Leaves journal dev (finish l result) :=
  ⟨trivial, hl.leaveBelow⟩

theorem leaves_settle (hl : l.Carries (Sourced journal) (Told journal)) {s : Session α}
    (hs : s.Recounts journal dev) (due : Millis) (outcome : Option Outcome) :
    Leaves journal dev (settle l s due outcome) := by
  unfold settle
  split
  · exact leaves_finish hl _
  · exact ⟨hs, hl⟩

theorem recounts_attach (scooter : ScooterId) (state : DeviceState α) (profile : MotionProfile α) :
    (Session.attach scooter state profile).Recounts journal dev := nofun

theorem leaves_welcome (hl : l.Carries (Sourced journal) (Told journal)) (now : Millis)
    (profile : MotionProfile α) (m : Except LinkFault (ServerFrame α)) :
    Leaves journal dev (welcome now l profile m) := by
  unfold welcome
  split
  · exact leaves_finish hl _
  · exact ⟨recounts_attach _ _ _, hl⟩
  · exact leaves_finish hl _
  · exact ⟨trivial, hl⟩

theorem leaves_move {s : Session α} {due : Millis} (hl : l.Carries (Sourced journal) (Told journal))
    (hs : s.Recounts journal dev) (hmoving : s.isMoving = true) :
    Leaves (journal ++ s.tickNotes dev) dev (move l s due) := by
  obtain ⟨hsession, hframes⟩ := Session.recounts_tick hs hmoving
  have hlink := hl.imp (fun _ h => h.append (s.tickNotes dev)) fun _ h => h.append (s.tickNotes dev)
  unfold move
  simp only
  split
  · next frame more hf =>
    rw [hf] at hframes
    exact ⟨⟨hsession, hframes⟩, hlink⟩
  · exact leaves_settle hlink hsession _ _

/-- The link behind a frame that was received from it. -/
theorem carries_received {m : Except LinkFault (ServerFrame α)}
    {down : Channel (Except LinkFault (ServerFrame α))}
    (hl : l.Carries (Sourced journal) (Told journal)) (h : l.down.receive = .item m down) :
    Link.Carries (Sourced journal) (Told journal) { l with down } ∧
      ∀ command, m = .ok (.dispatch command) → Sourced journal command := by
  refine ⟨⟨fun command hm => ?_, hl.up⟩, ?_⟩
  · exact hl.down command (Channel.mem_of_receive h hm)
  · intro command he
    subst he
    exact hl.down command (Channel.head_mem_of_receive h)

/-- The link with one more frame of the device. -/
theorem carries_sent {frame : DeviceFrame α} {up : Channel (Except LinkFault (DeviceFrame α))}
    (hl : l.Carries (Sourced journal) (Told journal)) (h : l.up.send (.ok frame) = .sent up)
    (hf : ∀ report, frame = .tripEnded report → Told journal report) :
    Link.Carries (Sourced journal) (Told journal) { l with up } := by
  refine ⟨hl.down, fun report hm => ?_⟩
  rcases Channel.mem_of_sent h hm with hm | hm
  · exact hl.up report hm
  · cases hm
    exact hf report rfl

/-- What a device hears comes off the link; a command that it takes is noted. -/
theorem leaves_hear {now : Millis} {s : Session α} {due : Millis}
    {m : Except LinkFault (ServerFrame α)} {down : Channel (Except LinkFault (ServerFrame α))}
    (hl : l.Carries (Sourced journal) (Told journal)) (hs : s.Recounts journal dev)
    (h : l.down.receive = .item m down) :
    Leaves (journal ++ notes dev l (.running s due) .receive) dev
      (hear now { l with down } s due m) := by
  obtain ⟨hlink, hm⟩ := carries_received hl h
  simp only [notes, h]
  cases m with
  | error fault =>
    rw [List.append_nil]
    cases fault with
    | encoding detail => exact ⟨hs, hlink⟩
    | closed => exact leaves_finish hlink _
    | transport detail => exact leaves_finish hlink _
  | ok frame =>
    cases frame with
    | welcome scooter state =>
      rw [List.append_nil]
      exact ⟨hs, hlink⟩
    | rejected reason =>
      rw [List.append_nil]
      exact ⟨hs, hlink⟩
    | dispatch command =>
      by_cases hscooter : command.scooter = s.scooter
      · simp only [hear, hscooter, if_true]
        cases hdispatch : s.dispatch command.destination command.trip with
        | ok s' =>
          have hmoves : s'.Recounts (journal ++ [.accepted dev s command]) dev :=
            Session.recounts_dispatch hdispatch hscooter (hm command rfl)
          exact ⟨hmoves, hlink.imp (fun _ h => h.append _) fun _ h => h.append _⟩
        | error fault =>
          simp only [List.append_nil]
          exact leaves_finish hlink _
      · simp only [hear, hscooter, if_false, List.append_nil]
        exact ⟨hs, hlink⟩

/-- **A device moves by what it was told and reports what it did.** -/
theorem recounts_device_step {now : Millis} {d : Device α} {c : Choice} {x : Device α × Link α}
    (h : d.step now l c = some x) (hd : d.Recounts journal dev)
    (hl : l.Carries (Sourced journal) (Told journal)) :
    Leaves (journal ++ d.notes dev l c) dev x := by
  cases d with
  | offering requested profile =>
    cases c with
    | send =>
      simp only [step] at h
      rw [show notes dev l (.offering requested profile) .send = [] from rfl, List.append_nil]
      split at h
      · next up hsend =>
        cases h
        exact ⟨trivial, carries_sent hl hsend nofun⟩
      · cases h
        exact leaves_finish hl _
      · cases h
    | receive => cases h
    | tick => cases h
  | awaiting profile =>
    cases c with
    | receive =>
      simp only [step] at h
      rw [show notes dev l (.awaiting profile) .receive = [] from rfl, List.append_nil]
      split at h
      · next m down hreceive =>
        cases h
        exact leaves_welcome (carries_received hl hreceive).1 _ _ _
      · cases h
        exact leaves_finish hl _
      · cases h
    | send => cases h
    | tick => cases h
  | running s due =>
    cases c with
    | receive =>
      simp only [step] at h
      split at h
      · next m down hreceive =>
        cases h
        exact leaves_hear hl hd hreceive
      · next hreceive =>
        cases h
        rw [show notes dev l (.running s due) .receive = [] by simp only [notes, hreceive],
          List.append_nil]
        exact leaves_finish hl _
      · cases h
    | tick =>
      simp only [step] at h
      split at h
      · next hcond =>
        cases h
        simp only [Bool.and_eq_true] at hcond
        exact leaves_move hl hd hcond.1
      · cases h
    | send => cases h
  | sending s frame more due outcome =>
    cases c with
    | send =>
      simp only [step] at h
      rw [show notes dev l (.sending s frame more due outcome) .send = [] from rfl, List.append_nil]
      obtain ⟨hs, hframes⟩ := hd
      split at h
      · next up hsend =>
        have hlink := carries_sent hl hsend fun report hr => hframes report (hr ▸ List.mem_cons_self ..)
        cases more with
        | cons frame' more =>
          cases h
          exact ⟨⟨hs, fun report hr => hframes report (List.mem_cons_of_mem _ hr)⟩, hlink⟩
        | nil =>
          cases h
          exact leaves_settle hlink hs _ _
      · cases h
        exact leaves_finish hl _
      · cases h
    | receive => cases h
    | tick => cases h
  | finished result => cases c <;> cases h

end Device
end ScooterFleet
