import ScooterFleet.Device.Run
import ScooterFleet.Proofs.Device.Session

/-!
# What a device does

A device that is attached takes commands, makes ticks and sends what they gave.

* `Deed` / `Device.deeds` — what a step of a device does, read off the state before it;
* `Session.accepts` — the commands that a session takes;
* `Channel.isReady` — a channel that takes a message at once;
* `Device.Acts` / `Device.acts_of_step` — **every step of a device that is attached**, and what it makes of
  the device.
-/

namespace ScooterFleet

/-! ### Channels that take a message at once -/

namespace Channel

variable {μ : Type}

/-- What is sent goes through at once. -/
def isReady (c : Channel μ) : Bool :=
  match c.fuse with
  | some (0, _) => false
  | _ => !c.closed && !c.isFull

theorem send_of_isReady {c : Channel μ} (h : c.isReady = true) (m : μ) : ∃ c', c.send m = .sent c' := by
  unfold isReady at h
  unfold send
  split at h
  · cases h
  · next hfuse =>
    obtain ⟨hclosed, hfull⟩ := Bool.and_eq_true_iff.mp h
    rw [Bool.not_eq_true'] at hclosed hfull
    simp only [hclosed, hfull, Bool.false_eq_true, if_false]
    exact ⟨_, rfl⟩

end Channel

/-! ### Deeds -/

/-- What a device does that its frames depend on. -/
inductive Deed (α : Type) where
  /-- The session took a command where it stood. -/
  | took (origin : DeviceState α) (command : Dispatch α)
  | ticked
  | sent (frame : DeviceFrame α)
  /-- The link refused the first of these frames, and none of them was sent. -/
  | lost (frames : List (DeviceFrame α))
  deriving DecidableEq, Repr

def Deed.frames {α : Type} : Deed α → List (DeviceFrame α)
  | .sent frame => [frame]
  | .lost frames => frames
  | _ => []

variable {α : Type}

def Session.state (s : Session α) : DeviceState α := ⟨s.position, s.battery⟩

/-- What is still to be sent. -/
def Device.unsent : Device α → List (DeviceFrame α)
  | .sending _ frame more _ _ => frame :: more
  | _ => []

variable [Coordinate α]

/-- The command is for this scooter, and there is a movement by it. -/
def Session.accepts (s : Session α) (command : Dispatch α) : Bool :=
  command.scooter = s.scooter &&
    (Simulation.start? s.position command.destination s.battery s.profile).isOk

def Device.deeds (l : Link α) : Device α → Device.Choice → List (Deed α)
  | .running s _, .receive =>
    match l.down.receive with
    | .item (.ok (.dispatch command)) _ => if s.accepts command then [.took s.state command] else []
    | _ => []
  | .running _ _, .tick => [.ticked]
  | .sending _ frame more _ _, .send =>
    match l.up.send (.ok frame) with
    | .sent _ => [.sent frame]
    | .failed _ => [.lost (frame :: more)]
    | .waits => []
  | _, _ => []

namespace Session

variable {s : Session α}

theorem accepts_of_dispatch {command : Dispatch α} {s' : Session α}
    (hscooter : command.scooter = s.scooter)
    (hs : s.dispatch command.destination command.trip = .ok s') : s.accepts command = true := by
  obtain ⟨start, hstart, -⟩ := dispatch_eq_ok hs
  rw [accepts, hstart, hscooter, decide_eq_true rfl]
  rfl

theorem not_accepts_of_error {command : Dispatch α} {fault : MotionFault α}
    (hs : s.dispatch command.destination command.trip = .error fault) :
    s.accepts command = false := by
  rw [dispatch_eq_map] at hs
  unfold accepts
  cases hstart : Simulation.start? s.position command.destination s.battery s.profile with
  | ok start =>
    rw [hstart] at hs
    cases hs
  | error fault => exact Bool.and_false _

theorem not_accepts_of_other {command : Dispatch α} (hscooter : command.scooter ≠ s.scooter) :
    s.accepts command = false := by
  rw [accepts, decide_eq_false hscooter, Bool.false_and]

end Session

/-! ### Steps -/

namespace Device

theorem result?_of_step {now : Millis} {l : Link α} {d : Device α} {c : Choice} {x : Device α × Link α}
    (next : d.step now l c = some x) : d.result? = none := by
  cases d with
  | finished result => cases c <;> cases next
  | _ => rfl

/-- What a step makes of a device that is attached. -/
inductive Acts (now : Millis) (l : Link α) : Device α → Choice → List (Deed α) → Device α → Prop where
  /-- Nothing that concerns the device has come. -/
  | passes {s : Session α} {due : Millis} : Acts now l (.running s due) .receive [] (.running s due)
  | takes {s s' : Session α} {due : Millis} {command : Dispatch α} (own : command.scooter = s.scooter)
      (taken : s.dispatch command.destination command.trip = .ok s') :
      Acts now l (.running s due) .receive [.took s.state command] (attached s' now)
  | quits {s : Session α} {due : Millis} {result : Except (SessionFault α) SessionEnd} :
      Acts now l (.running s due) .receive [] (.finished result)
  | ticks {s : Session α} {due : Millis} {frame : DeviceFrame α} {more : List (DeviceFrame α)}
      (moving : s.isMoving = true) (late : due ≤ now) (frames : s.tick.frames = frame :: more) :
      Acts now l (.running s due) .tick [.ticked]
        (.sending s.tick.session frame more (due + s.profile.interval) s.tick.outcome)
  | sends {s : Session α} {frame next : DeviceFrame α} {more : List (DeviceFrame α)} {due : Millis}
      {outcome : Option Outcome} :
      Acts now l (.sending s frame (next :: more) due outcome) .send [.sent frame]
        (.sending s next more due outcome)
  | goesOn {s : Session α} {frame : DeviceFrame α} {due : Millis} {outcome : Option Outcome}
      (charged : outcome ≠ some .discharged) :
      Acts now l (.sending s frame [] due outcome) .send [.sent frame] (.running s due)
  | stops {s : Session α} {frame : DeviceFrame α} {due : Millis} {outcome : Option Outcome}
      {result : Except (SessionFault α) SessionEnd} :
      Acts now l (.sending s frame [] due outcome) .send [.sent frame] (.finished result)
  | fails {s : Session α} {frame : DeviceFrame α} {more : List (DeviceFrame α)} {due : Millis}
      {outcome : Option Outcome} {result : Except (SessionFault α) SessionEnd}
      (broken : l.up.isReady = false) :
      Acts now l (.sending s frame more due outcome) .send [.lost (frame :: more)] (.finished result)

theorem acts_of_hear {now due : Millis} {l l' : Link α} {s : Session α}
    {m : Except LinkFault (ServerFrame α)} {down : Channel (Except LinkFault (ServerFrame α))}
    (h : l.down.receive = .item m down) :
    Acts now l (.running s due) .receive (deeds l (.running s due) .receive) (hear now l' s due m).1 := by
  simp only [deeds, h]
  cases m with
  | error fault => cases fault <;> constructor
  | ok frame =>
    cases frame with
    | welcome scooter state => exact .passes
    | rejected reason => exact .passes
    | dispatch command =>
      by_cases hscooter : command.scooter = s.scooter
      · cases hs : s.dispatch command.destination command.trip with
        | ok s' =>
          simp only [hear, hscooter, hs, Session.accepts_of_dispatch hscooter hs, if_true]
          exact .takes hscooter hs
        | error fault =>
          simp only [hear, hscooter, hs, Session.not_accepts_of_error hs, if_true]
          exact .quits
      · simp only [hear, hscooter, Session.not_accepts_of_other hscooter, if_false]
        exact .passes

theorem acts_of_send {now due : Millis} {l : Link α} {s : Session α} {frame : DeviceFrame α}
    {more : List (DeviceFrame α)} {outcome : Option Outcome} {x : Device α × Link α}
    (next : step now l (.sending s frame more due outcome) .send = some x) :
    Acts now l (.sending s frame more due outcome) .send
      (deeds l (.sending s frame more due outcome) .send) x.1 := by
  simp only [step] at next
  split at next
  · next up hsend =>
    simp only [deeds, hsend]
    cases more with
    | cons frame' more =>
      cases next
      exact .sends
    | nil =>
      cases next
      unfold settle
      split
      · exact .stops
      · next charged => exact .goesOn charged
  · next fault hsend =>
    cases next
    simp only [deeds, hsend]
    refine .fails (Bool.eq_false_iff.mpr fun ready => ?_)
    obtain ⟨up, hup⟩ := Channel.send_of_isReady ready (.ok frame)
    rw [hsend] at hup
    cases hup
  · cases next

/-- **Every step of a device that is attached.** -/
theorem acts_of_step {now : Millis} {l : Link α} {d : Device α} {c : Choice} {x : Device α × Link α}
    (attached : d.session?.isSome = true) (next : d.step now l c = some x) :
    Acts now l d c (d.deeds l c) x.1 := by
  cases d with
  | offering requested profile => cases attached
  | awaiting profile => cases attached
  | finished result => cases attached
  | running s due =>
    cases c with
    | send => cases next
    | receive =>
      simp only [step] at next
      split at next
      · next m down hm =>
        cases next
        exact acts_of_hear hm
      · next hm =>
        cases next
        simp only [deeds, hm]
        exact .quits
      · cases next
    | tick =>
      simp only [step] at next
      split at next
      · next hcond =>
        obtain ⟨moving, late⟩ := Bool.and_eq_true_iff.mp hcond
        obtain ⟨frame, more, hframes, -⟩ := Session.frames_tick moving
        simp only [move, hframes] at next
        cases next
        exact .ticks moving (of_decide_eq_true late) hframes
      · cases next
  | sending s frame more due outcome =>
    cases c with
    | receive => cases next
    | tick => cases next
    | send => exact acts_of_send next

end Device

end ScooterFleet
