import ScooterFleet.Proofs.Device.Deeds

/-!
# What a device tells of its way

A device that is attached takes commands, moves by them and tells of it.  Its way falls into legs, one
for each command that it took, and what it sends is what the legs have to tell, one after the other.

* `Runs` — **all runs**: any steps at any time, with any link before each of them;
* `Leg` / `legs` — the commands that were taken, each with the ticks until the next one;
* `Leg.frames` — the telemetry of a leg's samples, and the report of its end if there is one;
* `Itinerary` — each leg begins where the one before it ended;
* `Tells` / `tells_step` — **one step keeps this**: what was sent and what is still to be sent are the
  frames of the legs;
* `itinerary` — the run.
-/

namespace ScooterFleet

variable {α : Type} [Coordinate α]

/-- The runs of a device, with what it did.  What the other side of the link does in between is left
open: the link before a step may be any. -/
inductive Runs (d₀ : Device α) : List (Deed α) → Device α → Prop where
  | start : Runs d₀ [] d₀
  | step {log : List (Deed α)} {d d' : Device α} {now : Millis} {l l' : Link α} {c : Device.Choice}
      (run : Runs d₀ log d) (next : d.step now l c = some (d', l')) :
      Runs d₀ (log ++ d.deeds l c) d'

/-! ### Legs -/

/-- The way by one command. -/
structure Leg (α : Type) where
  origin : DeviceState α
  command : Dispatch α
  /-- The ticks until the next command. -/
  turns : Nat
  deriving DecidableEq, Repr

namespace Leg

def turn {α : Type} (leg : Leg α) : Leg α := { leg with turns := leg.turns + 1 }

variable (s₀ : Session α) (leg : Leg α)

/-- The leg's movement before its first tick. -/
def start : Simulation α :=
  .start leg.origin.position leg.command.destination leg.origin.battery s₀.profile

def samples : List (Sample α) := ((leg.start s₀).trace leg.turns).1

/-- The leg's movement after its last tick. -/
def movement : Simulation α := ((leg.start s₀).trace leg.turns).2

/-- How the leg ended by itself.  It takes a tick to find out. -/
def outcome : Option Outcome := if leg.turns = 0 then none else (leg.movement s₀).outcome

/-- Where the leg led: to its last sample. -/
def state : DeviceState α :=
  match (leg.samples s₀).getLast? with
  | none => leg.origin
  | some x => ⟨x.position, x.battery⟩

def report (outcome : Outcome) : DeviceFrame α :=
  .tripEnded ⟨s₀.scooter, (leg.state s₀).position, (leg.state s₀).battery, outcome,
    leg.command.trip⟩

/-- What is told of a leg. -/
def frames : List (DeviceFrame α) :=
  (leg.samples s₀).map (fun x => .telemetry ⟨s₀.scooter, x.position⟩) ++
    (leg.outcome s₀).toList.map (leg.report s₀)

end Leg

/-- The legs with one more deed, the newest leg first. -/
def follow {α : Type} (legs : List (Leg α)) : Deed α → List (Leg α)
  | .took origin command => ⟨origin, command, 0⟩ :: legs
  | .ticked =>
    match legs with
    | leg :: earlier => leg.turn :: earlier
    | [] => []
  | _ => legs

/-- The legs of a run, the newest first. -/
def legs {α : Type} (log : List (Deed α)) : List (Leg α) := log.foldl follow []

/-- Where the legs led. -/
def standing (s₀ : Session α) : List (Leg α) → DeviceState α
  | [] => s₀.state
  | leg :: _ => leg.state s₀

/-- How the newest leg ended. -/
def ending (s₀ : Session α) : List (Leg α) → Option Outcome
  | [] => none
  | leg :: _ => leg.outcome s₀

/-- The movement of the newest leg, until it ends. -/
def underWay (s₀ : Session α) : List (Leg α) → Option (Simulation α)
  | [] => none
  | leg :: _ => if leg.outcome s₀ = none then some (leg.movement s₀) else none

/-- What is told of the legs, the oldest first. -/
def told (s₀ : Session α) (legs : List (Leg α)) : List (DeviceFrame α) :=
  legs.reverse.flatMap (Leg.frames s₀)

/-- Legs that follow each other: each goes by a sound command for this scooter and begins where the
one before it led, or where the session began; none follows an empty battery. -/
inductive Itinerary (s₀ : Session α) : List (Leg α) → Prop where
  | nil : Itinerary s₀ []
  | cons {leg : Leg α} {earlier : List (Leg α)} (before : Itinerary s₀ earlier)
      (addressed : leg.command.scooter = s₀.scooter)
      (origin : leg.origin = standing s₀ earlier)
      (sound : Simulation.start? leg.origin.position leg.command.destination leg.origin.battery
        s₀.profile = .ok (leg.start s₀))
      (charged : ending s₀ earlier ≠ some .discharged) : Itinerary s₀ (leg :: earlier)

namespace Leg

variable {s₀ : Session α} {leg : Leg α}

theorem outcome_of_unturned (h : leg.turns = 0) : leg.outcome s₀ = none := by
  rw [outcome, if_pos h]

@[simp] theorem outcome_turn : leg.turn.outcome s₀ = (leg.turn.movement s₀).outcome := by
  have hturns : leg.turn.turns ≠ 0 := Nat.succ_ne_zero leg.turns
  rw [outcome, if_neg hturns]

/-- A leg that ended has all samples of its movement. -/
theorem samples_of_outcome {o : Outcome} (h : leg.outcome s₀ = some o) (n : Nat) :
    ((leg.start s₀).trace n).1 <+: leg.samples s₀ := by
  unfold outcome at h
  split at h
  · cases h
  · exact Simulation.samples_whole h n

theorem turn_of_step? {m' : Simulation α} (h : (leg.movement s₀).step? = some m') :
    leg.turn.samples s₀ = leg.samples s₀ ++ [m'.sample] ∧ leg.turn.movement s₀ = m' := by
  have htrace : (leg.start s₀).trace (leg.turns + 1) = (leg.samples s₀ ++ [m'.sample], m') :=
    Simulation.trace_of_step? h
  exact ⟨congrArg Prod.fst htrace, congrArg Prod.snd htrace⟩

theorem turn_of_outcome {o : Outcome} (h : (leg.movement s₀).outcome = some o) :
    leg.turn.samples s₀ = leg.samples s₀ ∧ leg.turn.movement s₀ = leg.movement s₀ := by
  have htrace : (leg.start s₀).trace (leg.turns + 1) = (leg.start s₀).trace leg.turns :=
    Simulation.trace_of_outcome h (Nat.le_succ _)
  exact ⟨congrArg Prod.fst htrace, congrArg Prod.snd htrace⟩

theorem state_turn_of_step? {m' : Simulation α} (h : (leg.movement s₀).step? = some m') :
    leg.turn.state s₀ = ⟨m'.position, m'.battery⟩ := by
  rw [state, (turn_of_step? h).1, List.getLast?_concat]
  rfl

theorem state_turn_of_outcome {o : Outcome} (h : (leg.movement s₀).outcome = some o) :
    leg.turn.state s₀ = leg.state s₀ := by
  rw [state, (turn_of_outcome h).1]
  rfl

/-- A tick with a sample tells of the sample, and of the end if the movement ends with it. -/
theorem frames_turn_of_step? {m' : Simulation α} (hopen : leg.outcome s₀ = none)
    (h : (leg.movement s₀).step? = some m') :
    leg.turn.frames s₀ = leg.frames s₀ ++
      .telemetry ⟨s₀.scooter, m'.position⟩ :: m'.outcome.toList.map (leg.turn.report s₀) := by
  obtain ⟨hsamples, hmovement⟩ := turn_of_step? h
  rw [frames, frames, hsamples, outcome_turn, hmovement, hopen, Option.toList_none, List.map_nil,
    List.append_nil, List.map_append, List.append_assoc]
  rfl

/-- A movement that had ended when it began is reported by its first tick. -/
theorem frames_turn_of_outcome {o : Outcome} (hopen : leg.outcome s₀ = none)
    (h : (leg.movement s₀).outcome = some o) :
    leg.turn.frames s₀ = leg.frames s₀ ++ [leg.turn.report s₀ o] := by
  obtain ⟨hsamples, hmovement⟩ := turn_of_outcome h
  rw [frames, frames, hsamples, outcome_turn, hmovement, h, hopen, Option.toList_none, List.map_nil,
    List.append_nil]
  rfl

end Leg

@[simp] theorem told_cons (s₀ : Session α) (leg : Leg α) (earlier : List (Leg α)) :
    told s₀ (leg :: earlier) = told s₀ earlier ++ leg.frames s₀ := by
  simp [told]

theorem Itinerary.turn {s₀ : Session α} {leg : Leg α} {earlier : List (Leg α)}
    (h : Itinerary s₀ (leg :: earlier)) : Itinerary s₀ (leg.turn :: earlier) := by
  cases h with
  | cons before addressed origin sound charged => exact .cons before addressed origin sound charged

/-! ### Sessions -/

/-- A session that came by these legs. -/
structure Session.Travels (s s₀ : Session α) (legs : List (Leg α)) : Prop where
  scooter : s.scooter = s₀.scooter
  profile : s.profile = s₀.profile
  state : s.state = standing s₀ legs
  movement : s.movement = underWay s₀ legs
  trip : s.isMoving = true → ∀ leg, legs.head? = some leg → s.trip = leg.command.trip

namespace Session

variable {s₀ s : Session α} {l : List (Leg α)}

/-- A command that is taken begins a leg. -/
theorem travels_dispatch (h : s.Travels s₀ l) {command : Dispatch α} {s' : Session α}
    (hs : s.dispatch command.destination command.trip = .ok s') :
    s'.Travels s₀ (⟨s.state, command, 0⟩ :: l) := by
  obtain ⟨start, hstart, rfl⟩ := dispatch_eq_ok hs
  have hmovement : start = Leg.movement s₀ ⟨s.state, command, 0⟩ := by
    rw [Simulation.eq_start_of_start? hstart, h.profile]
    rfl
  refine ⟨h.scooter, h.profile, rfl, ?_, ?_⟩
  · rw [underWay, Leg.outcome_of_unturned rfl, if_pos rfl, hmovement]
  · rintro - leg ⟨⟩
    rfl

theorem itinerary_dispatch (h : s.Travels s₀ l) (hl : Itinerary s₀ l)
    (charged : ending s₀ l ≠ some .discharged) {command : Dispatch α} {s' : Session α}
    (hscooter : command.scooter = s.scooter)
    (hs : s.dispatch command.destination command.trip = .ok s') :
    Itinerary s₀ (⟨s.state, command, 0⟩ :: l) := by
  obtain ⟨start, hstart, -⟩ := dispatch_eq_ok hs
  refine .cons hl (hscooter.trans h.scooter) h.state ?_ charged
  have hsound := hstart
  rw [Simulation.eq_start_of_start? hstart, h.profile] at hsound
  exact hsound

/-- A session on its way goes by the movement of its newest leg. -/
theorem Travels.onItsWay {leg : Leg α} {earlier : List (Leg α)} (h : s.Travels s₀ (leg :: earlier))
    {m : Simulation α} (hm : s.movement = some m) :
    leg.outcome s₀ = none ∧ leg.movement s₀ = m := by
  have hu := h.movement
  rw [hm, underWay] at hu
  split at hu
  · next hopen => exact ⟨hopen, (Option.some.inj hu).symm⟩
  · cases hu

/-- A session that moves took a command. -/
theorem Travels.exists_leg (h : s.Travels s₀ l) (moving : s.isMoving = true) :
    ∃ leg earlier, l = leg :: earlier := by
  cases l with
  | nil =>
    have hmovement := h.movement
    rw [isMoving, hmovement] at moving
    cases moving
  | cons leg earlier => exact ⟨leg, earlier, rfl⟩

section Ending

variable {leg : Leg α} {earlier : List (Leg α)} (state : s.state = leg.state s₀)
  (scooter : s.scooter = s₀.scooter)
include state scooter

/-- A session comes to rest where its leg ended. -/
theorem travels_rest (profile : s.profile = s₀.profile) {o : Outcome}
    (ended : leg.outcome s₀ = some o) : s.rest.Travels s₀ (leg :: earlier) := by
  refine ⟨scooter, profile, state, ?_, nofun⟩
  rw [underWay, ended]
  rfl

/-- The session's report is that of its leg. -/
theorem report_eq (trip : s.trip = leg.command.trip) (o : Outcome) :
    s.report o = leg.report s₀ o := by
  rw [Leg.report, ← state, ← scooter, ← trip]
  rfl

end Ending

/-- **A tick is a turn of the leg**: it tells what the leg has to tell by it. -/
theorem travels_tick {leg : Leg α} {earlier : List (Leg α)} (h : s.Travels s₀ (leg :: earlier))
    (hmoving : s.isMoving = true) :
    s.tick.session.Travels s₀ (leg.turn :: earlier) ∧
      s.tick.outcome = leg.turn.outcome s₀ ∧
      leg.turn.frames s₀ = leg.frames s₀ ++ s.tick.frames := by
  obtain ⟨m, hm⟩ := Option.isSome_iff_exists.mp hmoving
  obtain ⟨hopen, rfl⟩ := h.onItsWay hm
  have htrip : s.trip = leg.command.trip := h.trip hmoving leg rfl
  cases ho : (leg.movement s₀).outcome with
  | some o =>
    -- the movement had ended when it began, and this is the first tick
    have hstate : s.state = leg.turn.state s₀ := h.state.trans (Leg.state_turn_of_outcome ho).symm
    have hout : leg.turn.outcome s₀ = some o := by
      rw [Leg.outcome_turn, (Leg.turn_of_outcome ho).2, ho]
    rw [tick_of_outcome hm ho]
    refine ⟨travels_rest hstate h.scooter h.profile hout, hout.symm, ?_⟩
    rw [Leg.frames_turn_of_outcome hopen ho, report_eq hstate h.scooter htrip]
  | none =>
    obtain ⟨m', hm'⟩ : ∃ m', (leg.movement s₀).step? = some m' := by
      simp [Simulation.step?, ho]
    have hmovement : leg.turn.movement s₀ = m' := (Leg.turn_of_step? hm').2
    have hout : leg.turn.outcome s₀ = m'.outcome := by rw [Leg.outcome_turn, hmovement]
    have hstate : ({ s with movement := some m' }.take m'.sample).state = leg.turn.state s₀ :=
      (Leg.state_turn_of_step? hm').symm
    have hframes := Leg.frames_turn_of_step? hopen hm'
    rw [tick_of_step? hm hm']
    cases ho' : m'.outcome with
    | none =>
      rw [ho'] at hout hframes
      refine ⟨⟨h.scooter, h.profile, hstate, ?_, fun _ => ?_⟩, hout.symm, ?_⟩
      · rw [underWay, if_pos hout, hmovement]
        rfl
      · rintro _ ⟨⟩
        exact htrip
      · rw [hframes, ← h.scooter]
        rfl
    | some o =>
      rw [ho'] at hout hframes
      have hreport : ({ s with movement := some m' }.take m'.sample).report o =
          leg.turn.report s₀ o := report_eq hstate h.scooter htrip o
      refine ⟨travels_rest hstate h.scooter h.profile hout, hout.symm, ?_⟩
      rw [hframes, Option.toList_some, List.map_singleton, ← hreport, ← h.scooter]
      rfl

end Session

/-! ### Devices -/

/-- A device that came by these legs.  The outcome that it holds back is that of the newest one, and
with an empty battery it does not run on. -/
def Device.Travels (d : Device α) (s₀ : Session α) (legs : List (Leg α)) : Prop :=
  match d with
  | .running s _ => s.Travels s₀ legs ∧ ending s₀ legs ≠ some .discharged
  | .sending s _ _ _ outcome => s.Travels s₀ legs ∧ outcome = ending s₀ legs
  | .finished _ => True
  | _ => False

/-- What a device did so far: its legs follow each other, it came by them, and what it sent and what
it is about to send is what they have to tell. -/
structure Tells (s₀ : Session α) (log : List (Deed α)) (d : Device α) : Prop where
  itinerary : Itinerary s₀ (legs log)
  travels : d.Travels s₀ (legs log)
  frames : log.flatMap Deed.frames ++ d.unsent = told s₀ (legs log)

section Step

variable {s₀ : Session α} {log : List (Deed α)} {d : Device α}

omit [Coordinate α] in
theorem legs_append (log es : List (Deed α)) : legs (log ++ es) = es.foldl follow (legs log) := by
  rw [legs, List.foldl_append]
  rfl

/-- A step without a leg. -/
theorem Tells.quiet {d' : Device α} {deeds : List (Deed α)} (h : Tells s₀ log d)
    (hlegs : deeds.foldl follow (legs log) = legs log)
    (hframes : deeds.flatMap Deed.frames ++ d'.unsent = d.unsent) (hd : d'.Travels s₀ (legs log)) :
    Tells s₀ (log ++ deeds) d' := by
  rw [← legs_append] at hlegs
  refine ⟨hlegs ▸ h.itinerary, hlegs ▸ hd, ?_⟩
  rw [hlegs, ← h.frames, ← hframes, List.flatMap_append, List.append_assoc]

theorem tells_attached (rest : s₀.movement = none) (now : Millis) :
    Tells s₀ [] (Device.attached s₀ now) := by
  have htravels : s₀.Travels s₀ [] := ⟨rfl, rfl, rfl, rest, fun _ _ h => nomatch h⟩
  exact ⟨.nil, ⟨htravels, nofun⟩, rfl⟩

/-- A command that the session takes begins a leg. -/
theorem tells_command {s s' : Session α} {due now : Millis} {command : Dispatch α}
    (h : Tells s₀ log (.running s due)) (hscooter : command.scooter = s.scooter)
    (hs : s.dispatch command.destination command.trip = .ok s') :
    Tells s₀ (log ++ [.took s.state command]) (Device.attached s' now) := by
  obtain ⟨htravels, hcharged⟩ := h.travels
  have hlegs : legs (log ++ [.took s.state command]) = ⟨s.state, command, 0⟩ :: legs log :=
    legs_append log _
  have hfresh : Leg.frames s₀ ⟨s.state, command, 0⟩ = [] := rfl
  refine ⟨?_, ?_, ?_⟩
  · rw [hlegs]
    exact Session.itinerary_dispatch htravels h.itinerary hcharged hscooter hs
  · rw [hlegs]
    exact ⟨Session.travels_dispatch htravels hs, nofun⟩
  · rw [hlegs, told_cons, hfresh, ← h.frames]
    simp [Deed.frames, Device.unsent, Device.attached]

/-- A tick is a turn of the newest leg. -/
theorem tells_tick {s : Session α} {due due' : Millis} {frame : DeviceFrame α}
    {more : List (DeviceFrame α)} (h : Tells s₀ log (.running s due)) (hmoving : s.isMoving = true)
    (hticked : s.tick.frames = frame :: more) :
    Tells s₀ (log ++ [.ticked]) (.sending s.tick.session frame more due' s.tick.outcome) := by
  obtain ⟨htravels, -⟩ := h.travels
  have hframes := h.frames
  obtain ⟨leg, earlier, hlegs⟩ := htravels.exists_leg hmoving
  have hlegs' : legs (log ++ [.ticked]) = leg.turn :: earlier := by
    rw [legs_append, hlegs]
    rfl
  rw [hlegs] at htravels hframes
  obtain ⟨hs, ho, hturn⟩ := Session.travels_tick htravels hmoving
  refine ⟨?_, ?_, ?_⟩
  · rw [hlegs']
    exact (hlegs ▸ h.itinerary).turn
  · rw [hlegs']
    exact ⟨hs, ho⟩
  · rw [hlegs', told_cons, hturn, hticked, ← List.append_assoc, ← told_cons, ← hframes]
    simp [Deed.frames, Device.unsent]

theorem Device.Travels.attached {legs : List (Leg α)} (h : d.Travels s₀ legs)
    (serves : d.result? = none) : d.session?.isSome = true := by
  cases d with
  | offering requested profile => exact h.elim
  | awaiting profile => exact h.elim
  | finished result => cases serves
  | running s due => rfl
  | sending s frame more due outcome => rfl

/-- **One step adds to the legs what it adds to their tale.** -/
theorem tells_step {now : Millis} {l l' : Link α} {c : Device.Choice} {d' : Device α}
    (h : Tells s₀ log d) (next : d.step now l c = some (d', l')) :
    Tells s₀ (log ++ d.deeds l c) d' := by
  have attached := h.travels.attached (Device.result?_of_step next)
  have acts : d.Acts now l c (d.deeds l c) d' := Device.acts_of_step attached next
  generalize d.deeds l c = deeds at acts
  cases acts with
  | passes => exact h.quiet rfl rfl h.travels
  | takes own taken => exact tells_command h own taken
  | quits => exact h.quiet rfl rfl trivial
  | ticks moving late frames => exact tells_tick h moving frames
  | sends => exact h.quiet rfl rfl h.travels
  | goesOn charged =>
    obtain ⟨hs, ho⟩ := h.travels
    exact h.quiet rfl rfl ⟨hs, ho ▸ charged⟩
  | stops => exact h.quiet rfl rfl trivial
  | fails broken => exact h.quiet rfl (by simp [Deed.frames, Device.unsent]) trivial

end Step

/-- A device that starts at rest tells its way, however long it runs. -/
theorem tells_run {s₀ : Session α} (rest : s₀.movement = none) {now : Millis} {log : List (Deed α)}
    {d : Device α} (run : Runs (Device.attached s₀ now) log d) : Tells s₀ log d := by
  induction run with
  | start => exact tells_attached rest now
  | step _ next ih => exact tells_step ih next

/-- **What a device tells is its way, leg by leg.**  A device starts at rest.  Whatever comes down its
link, in whatever order with its ticks, and for however long it runs: what it sent, and what it is still
to send, are the frames of one leg for each command that it took, in the order of the commands.  Each leg
begins where the device stood and goes on for the ticks until the next command; a leg that ended has the
whole of its movement and its report behind it, and no leg comes after an empty battery. -/
theorem itinerary {s₀ : Session α} (rest : s₀.movement = none) {now : Millis} {log : List (Deed α)}
    {d : Device α} (run : Runs (Device.attached s₀ now) log d) :
    log.flatMap Deed.frames ++ d.unsent = (legs log).reverse.flatMap (Leg.frames s₀) ∧
      Itinerary s₀ (legs log) ∧
      ∀ leg ∈ legs log, ∀ o, leg.outcome s₀ = some o →
        ∀ n, ((leg.start s₀).trace n).1 <+: leg.samples s₀ := by
  have tells : Tells s₀ log d := tells_run rest run
  exact ⟨tells.frames, tells.itinerary, fun leg _ o ho => Leg.samples_of_outcome ho⟩

/-! ### A device that is sent elsewhere on its way -/

/-- Makes the steps in their order, each on its own link; none if one of them is not enabled. -/
def Device.play (d : Device α) : List (Link α × Device.Choice) → Option (List (Deed α) × Device α)
  | [] => some ([], d)
  | (l, c) :: more =>
    match d.step 0 l c with
    | none => none
    | some (d', _) => (d'.play more).map fun out => (d.deeds l c ++ out.1, out.2)

theorem runs_of_play {d₀ d d' : Device α} {log log' : List (Deed α)}
    {steps : List (Link α × Device.Choice)} (h : d.play steps = some (log', d'))
    (run : Runs d₀ log d) : Runs d₀ (log ++ log') d' := by
  induction steps generalizing d log log' with
  | nil =>
    cases h
    rw [List.append_nil]
    exact run
  | cons x more ih =>
    obtain ⟨l, c⟩ := x
    simp only [Device.play] at h
    split at h
    · cases h
    · next d₁ l₁ hstep =>
      obtain ⟨out, hout, he⟩ := Option.map_eq_some_iff.mp h
      cases he
      rw [← List.append_assoc]
      exact ih hout (run.step hstep)

section Redirected

attribute [local instance] exactRat

def parked : Session Rat := ⟨7, ⟨0, 0⟩, 80, ⟨1, 1, 0, 0⟩, none, none⟩

def outward : Dispatch Rat := ⟨7, ⟨9, 0⟩, some (Uuid.ofNat 1)⟩

def aside : Dispatch Rat := ⟨7, ⟨2, 1⟩, some (Uuid.ofNat 2)⟩

def Link.bringing (command : Dispatch Rat) : Link Rat :=
  ⟨.unbounded, ⟨[.ok (.dispatch command)], none, false, false, none⟩⟩

/-- Two steps on the way out, and then aside to the end. -/
def detour : List (Link Rat × Device.Choice) :=
  [(.bringing outward, .receive), (.unbounded, .tick), (.unbounded, .send), (.unbounded, .tick),
    (.unbounded, .send), (.bringing aside, .receive), (.unbounded, .tick), (.unbounded, .send),
    (.unbounded, .send)]

theorem itinerary_detour : ∃ log d, Runs (Device.attached parked 0) log d ∧
    legs log = [⟨⟨⟨2, 0⟩, 78⟩, aside, 1⟩, ⟨⟨⟨0, 0⟩, 80⟩, outward, 2⟩] ∧
    log.flatMap Deed.frames =
      [.telemetry ⟨7, ⟨1, 0⟩⟩, .telemetry ⟨7, ⟨2, 0⟩⟩, .telemetry ⟨7, ⟨2, 1⟩⟩,
        .tripEnded ⟨7, ⟨2, 1⟩, 77, .arrived, some (Uuid.ofNat 2)⟩] ∧
    log.flatMap Deed.frames ++ d.unsent = (legs log).reverse.flatMap (Leg.frames parked) ∧
    Itinerary parked (legs log) := by
  have hplay : ((Device.attached parked 0).play detour).map (fun out =>
      (legs out.1, out.1.flatMap Deed.frames)) =
      some ([⟨⟨⟨2, 0⟩, 78⟩, aside, 1⟩, ⟨⟨⟨0, 0⟩, 80⟩, outward, 2⟩],
        [.telemetry ⟨7, ⟨1, 0⟩⟩, .telemetry ⟨7, ⟨2, 0⟩⟩, .telemetry ⟨7, ⟨2, 1⟩⟩,
          .tripEnded ⟨7, ⟨2, 1⟩, 77, .arrived, some (Uuid.ofNat 2)⟩]) := by
    decide +kernel
  obtain ⟨⟨log, d⟩, hplay, he⟩ := Option.map_eq_some_iff.mp hplay
  obtain ⟨hlegs, hframes⟩ := Prod.mk.inj he
  have run : Runs (Device.attached parked 0) log d := runs_of_play hplay .start
  obtain ⟨htold, hitinerary, -⟩ := itinerary rfl run
  exact ⟨log, d, run, hlegs, hframes, htold, hitinerary⟩

end Redirected
end ScooterFleet
