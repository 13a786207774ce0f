import ScooterFleet.Kernel.System
import ScooterFleet.Proofs.Motion.Trace
import ScooterFleet.Proofs.Registry.Signal
import ScooterFleet.Proofs.Store.Records

/-!
# Runs of a fleet

A run is any sequence of moves: steps of tasks in any order, time that passes, rentals and devices that
join, calls of the registry from outside, and tasks that are cancelled.  What matters of a run is kept
in its journal.

* `Note` / `System.notes` — what is noted of a move, read off the state before it;
* `Move` / `System.move?` — the moves, and the system that each of them leaves;
* `Run` — **all runs** whose moves are allowed, with their journals;
* `Acts` / `Moves` — one step of a task and one move, with everything that they may touch;
* `smallFleet` / `System.play` — one scooter, and schedules that are played move by move.
-/

namespace ScooterFleet

/-- What is noted of a run. -/
inductive Note (α : Type) where
  /-- A rental read its scooter's record. -/
  | checked (rental : TaskId) (scooter : ScooterId) (record : Scooter α)
  | claimed (rental : TaskId) (ticket : Ticket)
  /-- A rental recorded the status with which its trip starts. -/
  | opened (rental : TaskId) (departure : Departure α) (snapshot : Snapshot α)
  | dispatched (rental : TaskId) (departure : Departure α)
  /-- A rental wrote its scooter's record. -/
  | docked (rental : TaskId) (scooter : ScooterId) (record : Scooter α)
  /-- A device in this state took a command. -/
  | accepted (device : TaskId) (session : Session α) (command : Dispatch α)
  /-- A device ended a movement. -/
  | ended (device : TaskId) (report : TripReport α)

namespace Note

variable {α : Type}

/-- The task that an entry is about. -/
def task : Note α → TaskId
  | checked id _ _ | claimed id _ | opened id _ _ | dispatched id _ | docked id _ _
  | accepted id _ _ | ended id _ => id

def report? : DeviceFrame α → Option (TripReport α)
  | .tripEnded report => some report
  | _ => none

end Note

variable {α : Type} [Coordinate α]

/-- What is noted of a step of a device. -/
def Device.notes (id : TaskId) (l : Link α) : Device α → Device.Choice → List (Note α)
  | .running session _, .receive =>
    match l.down.receive with
    | .item (.ok (.dispatch command)) _ =>
      if command.scooter = session.scooter then
        match session.dispatch command.destination command.trip with
        | .ok _ => [.accepted id session command]
        | .error _ => []
      else []
    | _ => []
  | .running session _, .tick =>
    (session.tick.frames.filterMap Note.report?).map (.ended id)
  | _, _ => []

/-- What is noted of a step of a rental. -/
def Rental.notes (id : TaskId) (m : Moment) (k : Kernel α) (r : Rental α) :
    Rental.Choice → List (Note α)
  | .wake _ => []
  | .proceed =>
    match r.phase with
    | .checking =>
      match (k.call (Store.getScooter r.request.scooter)).1 with
      | .ok record => [.checked id r.request.scooter record]
      | .error _ => []
    | .claiming _ _ =>
      match k.registry.begin r.request.scooter m.fresh with
      | .ok (ticket, _) => [.claimed id ticket]
      | .error _ => []
    | .opening d =>
      match (k.call (Store.recordSnapshot m.wall r.request.scooter d.origin d.scooter.battery)).1 with
      | .ok snapshot => [.opened id d snapshot]
      | .error _ => []
    | .dispatching d _ =>
      match k.registry.dispatch r.request.scooter d.station.position (some d.ticket.trip) with
      | .ok _ => [.dispatched id d]
      | .error _ => []
    | .docking d _ _ a =>
      match k.store.written? r.request.scooter (statusUpdate d a) with
      | some record => [.docked id r.request.scooter record]
      | none => []
    | _ => []

/-- A task that neither moves scooters nor talks to devices. -/
def Task.IsBystander : Task α → Prop
  | .device _ _ | .gateway _ _ | .rental _ => False
  | _ => True

/-- What may happen next. -/
inductive Move (α : Type) where
  | act (task : TaskId) (choice : Choice)
  | clock (now : Millis) (wall : Timestamp)
  | rent (request : RentalRequest)
  /-- A device and its gateway, at the two ends of a link. -/
  | attach (requested : Option ScooterId) (profile : MotionProfile α) (link : Link α)
  /-- A waiter, a bridge, a reporter or a feed joins. -/
  | join (task : Task α) (bystander : task.IsBystander)
  /-- A call of the registry by somebody else. -/
  | call (c : Registry.Call α)
  /-- Viewers come and go. -/
  | watch (hub : Hub α)
  | cancel (task : TaskId)

namespace System

/-- Adds a device and its gateway. -/
def attach (s : System α) (requested : Option ScooterId) (profile : MotionProfile α)
    (link : Link α) : System α :=
  let (l, s) := s.open_ link
  let (_, s) := s.spawn (.gateway l (.start s.now))
  (s.spawn (.device l (.offering requested profile))).2

/-- The system that a move leaves; none if the move is not enabled. -/
def move? (s : System α) : Move α → Option (System α)
  | .act id c => s.step id c
  | .clock now wall => if s.now ≤ now then some { s with now, wall } else none
  | .rent request => some (s.spawn (.rental (.start request))).2
  | .attach requested profile link => some (s.attach requested profile link)
  | .join task _ => some (s.spawn task).2
  | .call c => some (s.withRegistry (s.registry.perform c))
  | .watch hub => some (s.withHub hub)
  | .cancel id => some (s.cancel id)

/-- What is noted of a step of a task. -/
def notes (s : System α) (id : TaskId) (c : Choice) : List (Note α) :=
  match s.tasks.get? id, c with
  | some (.device link d), .device c =>
    match s.links.get? link with
    | some l => d.notes id l c
    | none => []
  | some (.rental r), .rental c => r.notes id s.moment s.kernel c
  | _, _ => []

def noted (s : System α) : Move α → List (Note α)
  | .act id c => s.notes id c
  | _ => []

/-- A kernel at its start: nobody is connected, nothing is under way. -/
structure IsIdle (s : System α) : Prop where
  tasks : s.tasks = ∅
  links : s.links = ∅
  registry : ∃ hub, s.registry = Registry.create hub

end System

/-- The runs from a system, with their journals. -/
inductive Run (allowed : Move α → Prop) (s₀ : System α) : List (Note α) → System α → Prop where
  | start : Run allowed s₀ [] s₀
  | move {journal : List (Note α)} {s s' : System α} (m : Move α) (run : Run allowed s₀ journal s)
      (permitted : allowed m) (step : s.move? m = some s') :
      Run allowed s₀ (journal ++ s.noted m) s'

/-- A fleet of one scooter, with a depot one step away and a harbour two steps away. -/
def smallFleet : System Rat where
  now := 0
  wall := ⟨2024, 5, 1, 12, 0, 0, 0, 0⟩
  terms := ⟨1, 5000⟩
  kernel := ⟨.create (.create 8), .seeded [⟨1, "Segway", ⟨0, 0⟩, 80, none⟩]
    [⟨1, "Depot", true, ⟨0, 1⟩⟩, ⟨2, "Harbour", true, ⟨0, 2⟩⟩]⟩
  bus := .create
  broker := .initial
  gauges := ⟨0, 0⟩
  links := ∅
  tasks := ∅
  fresh := 0

/-- The device of the small fleet (task 2) connects through its gateway (task 1). -/
def connecting : List (Move Rat) :=
  [.attach none ⟨1, 1, 0, 0⟩ .unbounded, .act 2 (.device .send), .act 1 (.gateway .inbound)] ++
    .replicate 5 (.act 1 (.gateway .proceed)) ++ [.act 2 (.device .receive)]

/-- A rental goes on until it waits. -/
def settingOut (rental : TaskId) : List (Move Rat) :=
  .replicate 6 (.act rental (.rental .proceed))

/-- The device takes a command, makes one step, and its report comes back into the registry. -/
def moving : List (Move Rat) :=
  [.act 1 (.gateway .command), .act 1 (.gateway .proceed), .act 2 (.device .receive),
    .act 2 (.device .tick), .act 2 (.device .send), .act 2 (.device .send),
    .act 1 (.gateway .inbound), .act 1 (.gateway .proceed), .act 1 (.gateway .inbound),
    .act 1 (.gateway .proceed)]

/-- A rental hears how its trip ended, and closes it. -/
def closing (rental : TaskId) : List (Move Rat) :=
  .act rental (.rental (.wake .signal)) :: .replicate 3 (.act rental (.rental .proceed))

namespace System

/-- A schedule, one move after the other. -/
def play (s : System α) : List (Move α) → Option (List (Note α) × System α)
  | [] => some ([], s)
  | m :: ms =>
    (s.move? m).bind fun s' => (s'.play ms).map fun (journal, s'') => (s.noted m ++ journal, s'')

theorem run_of_play {allowed : Move α → Prop} {s₀ s s' : System α} {early journal : List (Note α)}
    {ms : List (Move α)} (h : s.play ms = some (journal, s')) (run : Run allowed s₀ early s)
    (permitted : ∀ m ∈ ms, allowed m) : Run allowed s₀ (early ++ journal) s' := by
  induction ms generalizing s early journal with
  | nil =>
    cases h
    simpa using run
  | cons m ms ih =>
    simp only [play, Option.bind_eq_some_iff, Option.map_eq_some_iff, Prod.mk.injEq] at h
    obtain ⟨s₁, hmove, ⟨rest, s₂⟩, hplay, rfl, rfl⟩ := h
    have hm := permitted m (List.mem_cons_self ..)
    have hrest := ih hplay (.move m run hm hmove) fun m' hm' =>
      permitted m' (List.mem_cons_of_mem _ hm')
    simpa using hrest

/-! ### One step of a task -/

section Notes

variable {s : System α} {id : TaskId}

theorem notes_of_device {link : LinkId} {d : Device α} {l : Link α} {c : Device.Choice}
    (htask : s.tasks.get? id = some (.device link d)) (hl : s.links.get? link = some l) :
    s.notes id (.device c) = d.notes id l c := by
  simp [notes, htask, hl]

theorem notes_of_rental {r : Rental α} {c : Rental.Choice}
    (htask : s.tasks.get? id = some (.rental r)) :
    s.notes id (.rental c) = r.notes id s.moment s.kernel c := by
  simp [notes, htask]

theorem notes_of_gateway {link : LinkId} {g : Gateway α} {c : Gateway.Choice} :
    s.tasks.get? id = some (.gateway link g) → s.notes id (.gateway c) = [] := by
  intro htask
  simp [notes, htask]

theorem notes_of_bystander {b : Task α} {c : Choice} (htask : s.tasks.get? id = some b)
    (hb : b.IsBystander) : s.notes id c = [] := by
  unfold notes
  rw [htask]
  cases b <;> first | rfl | exact hb.elim

end Notes

/-- What a step of a task touches, and what is noted of it. -/
inductive Acts (s : System α) (id : TaskId) : Choice → List (Note α) → System α → Prop
  | device {link : LinkId} {d d' : Device α} {l l' : Link α} {c : Device.Choice}
      (task : s.tasks.get? id = some (.device link d)) (place : s.links.get? link = some l)
      (step : d.step s.now l c = some (d', l')) :
      Acts s id (.device c) (d.notes id l c) ((s.setLink link l').setTask id (.device link d'))
  | gateway {link : LinkId} {g g' : Gateway α} {l : Link α} {site : Gateway.Site α}
      {c : Gateway.Choice} (task : s.tasks.get? id = some (.gateway link g))
      (place : s.links.get? link = some l)
      (step : g.step s.now s.wall ⟨s.kernel, l⟩ c = some (g', site)) :
      Acts s id (.gateway c) []
        (({ s with kernel := site.kernel }.setLink link site.link).setTask id (.gateway link g'))
  | rental {r r' : Rental α} {k : Kernel α} {c : Rental.Choice}
      (task : s.tasks.get? id = some (.rental r))
      (step : r.step s.moment s.terms s.kernel c = some (r', k)) :
      Acts s id (.rental c) (r.notes id s.moment s.kernel c)
        ({ s with kernel := k, fresh := s.fresh + 1 }.setTask id (.rental r'))
  | bystander {b b' : Task α} {c : Choice} {s' : System α}
      (task : s.tasks.get? id = some b) (before : b.IsBystander) (after : b'.IsBystander)
      (registry : s'.registry = s.registry ∨
        (∃ hub, s'.registry = { s.registry with hub }) ∨
        ∃ t, s'.registry = s.registry.abandon t)
      (contents : s'.kernel.store.contents = s.kernel.store.contents) (links : s'.links = s.links)
      (tasks : s'.tasks = s.tasks.insert id b') (fresh : s'.fresh = s.fresh) : Acts s id c [] s'

/-- **A step of a task is one of these.** -/
theorem acts_of_step {s s' : System α} {id : TaskId} {c : Choice} (h : s.step id c = some s') :
    Acts s id c (s.notes id c) s' := by
  unfold step at h
  split at h
  · next link d c htask =>
    simp only [stepDevice, Option.bind_eq_bind, Option.bind_eq_some_iff, Prod.exists,
      Option.pure_def, Option.some.injEq] at h
    obtain ⟨l, hl, d', l', hstep, rfl⟩ := h
    rw [notes_of_device htask hl]
    exact .device htask hl hstep
  · next link g c htask =>
    simp only [stepGateway, Option.bind_eq_bind, Option.bind_eq_some_iff, Prod.exists,
      Option.pure_def, Option.some.injEq] at h
    obtain ⟨l, hl, g', site, hstep, rfl⟩ := h
    rw [notes_of_gateway htask]
    exact .gateway htask hl hstep
  · next r c htask =>
    simp only [stepRental, Option.bind_eq_bind, Option.bind_eq_some_iff, Prod.exists,
      Option.pure_def, Option.some.injEq] at h
    obtain ⟨r', k, hstep, rfl⟩ := h
    rw [notes_of_rental htask]
    exact .rental htask hstep
  · next ticket idle w c htask =>
    simp only [stepWaiter, Option.bind_eq_bind, Option.bind_eq_some_iff, Prod.exists,
      Option.pure_def, Option.some.injEq] at h
    obtain ⟨w', r, hstep, rfl⟩ := h
    have hafter : (Task.waiter ticket idle w').IsBystander := trivial
    rw [notes_of_bystander htask trivial]
    refine .bystander htask trivial hafter ?_ rfl rfl rfl rfl
    cases w with
    | finished signal => cases hstep
    | waiting w =>
      simp only [Waiter.step, Option.map_eq_some_iff, Prod.exists] at hstep
      obtain ⟨p, r', hwake, hr⟩ := hstep
      have hsame : r' = r := by
        cases p <;> cases hr <;> rfl
      subst hsame
      rcases Wait.step_cases hwake with ⟨_, -, -, hr, -⟩ | ⟨_, -, hr, -⟩ | ⟨-, -, hr, -⟩
      · exact .inl hr
      · exact .inl hr
      · exact .inr (.inr ⟨ticket, hr⟩)
  · next viewer b htask =>
    simp only [stepBridge, Option.bind_eq_bind, Option.bind_eq_some_iff, Prod.exists,
      Option.pure_def, Option.some.injEq] at h
    obtain ⟨b', hub, bus, -, rfl⟩ := h
    have hafter : (Task.bridge viewer b').IsBystander := trivial
    rw [notes_of_bystander htask trivial]
    exact .bystander htask trivial hafter (.inr (.inl ⟨hub, rfl⟩)) rfl rfl rfl rfl
  · next r htask =>
    simp only [stepReporter, Option.bind_eq_bind, Option.bind_eq_some_iff, Prod.exists,
      Option.pure_def, Option.some.injEq] at h
    obtain ⟨r', k, bus, hstep, rfl⟩ := h
    unfold Reporter.step at hstep
    split at hstep
    · cases hstep
      have hafter : (Task.reporter ⟨r.period, r.due + r.period⟩ : Task α).IsBystander := trivial
      have hcontents := Store.onlyReads_listScooters s.kernel.store
      rw [notes_of_bystander htask trivial]
      exact .bystander htask trivial hafter (.inl rfl) hcontents rfl rfl rfl
    · cases hstep
  · next f c htask =>
    simp only [stepFeed, Option.bind_eq_bind, Option.bind_eq_some_iff, Prod.exists,
      Option.pure_def, Option.some.injEq] at h
    obtain ⟨f', hub, -, rfl⟩ := h
    have hafter : (Task.feed f').IsBystander := trivial
    rw [notes_of_bystander htask trivial]
    exact .bystander htask trivial hafter (.inr (.inl ⟨hub, rfl⟩)) rfl rfl rfl rfl
  · cases h

/-! ### Cancelled tasks -/

/-- What a cancelled task leaves. -/
inductive Cancels (s : System α) (id : TaskId) : System α → Prop
  | device {link : LinkId} {d : Device α} (task : s.tasks.get? id = some (.device link d)) :
      Cancels s id
        { s with tasks := s.tasks.erase id, links := s.links.modify link Link.leaveBelow }
  | gateway {link : LinkId} {g : Gateway α} {l : Link α}
      (task : s.tasks.get? id = some (.gateway link g)) (place : s.links.get? link = some l) :
      Cancels s id
        ({ s with tasks := s.tasks.erase id, kernel := (g.cancel ⟨s.kernel, l⟩).kernel }.setLink link
          (g.cancel ⟨s.kernel, l⟩).link)
  | other {s' : System α}
      (registry : s'.registry = s.registry ∨
        (∃ hub, s'.registry = { s.registry with hub }) ∨
        ∃ t, s'.registry = s.registry.abandon t)
      (contents : s'.kernel.store.contents = s.kernel.store.contents) (links : s'.links = s.links)
      (tasks : s'.tasks = s.tasks.erase id) (fresh : s'.fresh = s.fresh) : Cancels s id s'

omit [Coordinate α] in
/-- **A cancelled task leaves one of these.** -/
theorem cancels_cancel (s : System α) (id : TaskId) : Cancels s id (s.cancel id) := by
  unfold cancel
  cases htask : s.tasks.get? id with
  | none => exact .other (.inl rfl) rfl rfl rfl rfl
  | some task =>
    cases task with
    | device link d => exact .device htask
    | gateway link g =>
      cases hl : s.links.get? link with
      | none =>
        simp only [hl]
        exact .other (.inl rfl) rfl rfl rfl rfl
      | some l =>
        simp only [hl]
        exact .gateway htask hl
    | rental r =>
      simp only [Rental.cancel]
      cases r.ticket? with
      | none => exact .other (.inl rfl) rfl rfl rfl rfl
      | some ticket => exact .other (.inr (.inr ⟨ticket, rfl⟩)) rfl rfl rfl rfl
    | waiter ticket idle w => exact .other (.inr (.inr ⟨ticket, rfl⟩)) rfl rfl rfl rfl
    | bridge viewer b => exact .other (.inr (.inl ⟨_, rfl⟩)) rfl rfl rfl rfl
    | feed f => exact .other (.inr (.inl ⟨_, rfl⟩)) rfl rfl rfl rfl
    | reporter r => exact .other (.inl rfl) rfl rfl rfl rfl

omit [Coordinate α] in
theorem tasks_of_cancels {s s' : System α} {id : TaskId} (h : Cancels s id s') :
    s'.tasks = s.tasks.erase id ∧ s'.fresh = s.fresh := by
  cases h with
  | device => exact ⟨rfl, rfl⟩
  | gateway => exact ⟨rfl, rfl⟩
  | other _ _ _ tasks fresh => exact ⟨tasks, fresh⟩

/-! ### One move -/

/-- What a move leaves, and what is noted of it. -/
inductive Moves (s : System α) : Move α → List (Note α) → System α → Prop
  | act {id : TaskId} {c : Choice} {es : List (Note α)} {s' : System α}
      (acts : Acts s id c es s') : Moves s (.act id c) es s'
  | clock {now : Millis} {wall : Timestamp} : Moves s (.clock now wall) [] { s with now, wall }
  | rent {request : RentalRequest} :
      Moves s (.rent request) [] (s.spawn (.rental (.start request))).2
  | attach {requested : Option ScooterId} {profile : MotionProfile α} {link : Link α} :
      Moves s (.attach requested profile link) [] (s.attach requested profile link)
  | join {task : Task α} (bystander : task.IsBystander) :
      Moves s (.join task bystander) [] (s.spawn task).2
  | call {c : Registry.Call α} : Moves s (.call c) [] (s.withRegistry (s.registry.perform c))
  | watch {hub : Hub α} : Moves s (.watch hub) [] (s.withHub hub)
  | cancel {id : TaskId} {s' : System α} (cancels : Cancels s id s') : Moves s (.cancel id) [] s'

theorem moves_of_move? {s s' : System α} {m : Move α} (h : s.move? m = some s') :
    Moves s m (s.noted m) s' := by
  cases m with
  | act id c => exact .act (acts_of_step h)
  | clock now wall =>
    simp only [move?] at h
    split at h
    · cases h
      exact .clock
    · cases h
  | rent request =>
    cases h
    exact .rent
  | attach requested profile link =>
    cases h
    exact .attach
  | join task bystander =>
    cases h
    exact .join bystander
  | call c =>
    cases h
    exact .call
  | watch hub =>
    cases h
    exact .watch
  | cancel id =>
    cases h
    exact .cancel (cancels_cancel s id)

end System
end ScooterFleet
