import ScooterFleet.Proofs.Fleet.Chronicle
import ScooterFleet.Proofs.Fleet.Movement

/-!
# Where the end of a trip comes from

A rental waits for the end of its own movement and of no other one: whatever is on its way through
queues, gateways and links at the same time, and whoever disconnects, gives up or sends scooters
elsewhere in between.

* `Move.IsHonest` — reports come from devices alone, and nobody else dispatches for a trip;
* `Traced` / `traced_run` — **the invariant**: every command for a trip, wherever it is, was dispatched
  by the trip's rental, and every report, wherever it is, is the end of a movement;
* `ended_by_own_movement` — a wait that returns a report returns the end of the movement that its own
  dispatch began.

The names of trips are numbers of 128 bits, so they are asked not to have run out.
-/

namespace ScooterFleet

variable {α : Type} [Coordinate α]

omit [Coordinate α] in
/-- Moves in which nobody speaks for a device or for a rental. -/
def Move.IsHonest : Move α → Prop
  | .call (.tripEnded _ _) => False
  | .call (.dispatch _ _ trip) => trip = none
  | .attach _ _ link => link.up.items = [] ∧ link.down.items = []
  | _ => True

/-- All that is on its way can be told back. -/
structure Traced (journal : List (Note α)) (s : System α) : Prop where
  registry : s.registry.Carries (Sourced journal) (Told journal)
  links : ∀ link l, s.links.get? link = some l → l.Carries (Sourced journal) (Told journal)
  devices : ∀ id link d, s.tasks.get? id = some (.device link d) → d.Recounts journal id
  gateways : ∀ id link g, s.tasks.get? id = some (.gateway link g) →
    g.Carries (Sourced journal) (Told journal)

namespace Traced

variable {journal es : List (Note α)} {s s' : System α} {id : TaskId}

theorem append (h : Traced journal s) (hes : ∀ dev s c, .accepted dev s c ∉ es) :
    Traced (journal ++ es) s where
  registry := h.registry.imp (fun _ h => h.append es) fun _ h => h.append es
  links := fun link l hl => (h.links link l hl).imp (fun _ h => h.append es) fun _ h => h.append es
  devices := fun id link d hd => (h.devices id link d hd).append (hes id)
  gateways := fun id link g hg =>
    (h.gateways id link g hg).imp (fun _ h => h.append es) fun _ h => h.append es

omit [Coordinate α] in
theorem registry_abandon {r : Registry α} {P : Dispatch α → Prop} {Q : TripReport α → Prop}
    (h : r.Carries P Q) (t : Ticket) : (r.abandon t).Carries P Q := by
  have hc : (Registry.Call.abandon t : Registry.Call α).IsSilent := trivial
  exact h.perform_silent hc

omit [Coordinate α] in
/-- What bystanders do to the registry carries no command and no report. -/
theorem registry_aside {r r' : Registry α} {P : Dispatch α → Prop} {Q : TripReport α → Prop}
    (h : r.Carries P Q) (hr : r' = r ∨ (∃ hub, r' = { r with hub }) ∨ ∃ t, r' = r.abandon t) :
    r'.Carries P Q := by
  rcases hr with rfl | ⟨hub, rfl⟩ | ⟨t, rfl⟩
  · exact h
  · exact ⟨h.queued, h.sent⟩
  · exact registry_abandon h t

/-- A new task at a number, on links that are as good as before. -/
theorem insert (h : Traced journal s) {task : Task α} (htasks : s'.tasks = s.tasks.insert id task)
    (hregistry : s'.registry.Carries (Sourced journal) (Told journal))
    (hlinks : ∀ link l, s'.links.get? link = some l → l.Carries (Sourced journal) (Told journal))
    (hdevice : ∀ link d, task = .device link d → d.Recounts journal id)
    (hgateway : ∀ link g, task = .gateway link g → g.Carries (Sourced journal) (Told journal)) :
    Traced journal s' where
  registry := hregistry
  links := hlinks
  devices := by
    intro id' link d hd
    rw [htasks, Table.get?_insert] at hd
    split at hd
    · next hid =>
      cases hd
      exact hid ▸ hdevice link d rfl
    · exact h.devices id' link d hd
  gateways := by
    intro id' link g hg
    rw [htasks, Table.get?_insert] at hg
    split at hg
    · cases hg
      exact hgateway link g rfl
    · exact h.gateways id' link g hg

/-- A new task that is neither a device nor a gateway. -/
theorem insert_idle (h : Traced journal s) {task : Task α}
    (htasks : s'.tasks = s.tasks.insert id task)
    (hregistry : s'.registry.Carries (Sourced journal) (Told journal))
    (hlinks : ∀ link l, s'.links.get? link = some l → l.Carries (Sourced journal) (Told journal))
    (hdevice : ∀ link d, task ≠ .device link d) (hgateway : ∀ link g, task ≠ .gateway link g) :
    Traced journal s' :=
  h.insert htasks hregistry hlinks (fun link d ht => absurd ht (hdevice link d))
    fun link g ht => absurd ht (hgateway link g)

omit [Coordinate α] in
theorem links_insert {links : Table LinkId (Link α)} {P : Dispatch α → Prop}
    {Q : TripReport α → Prop} (h : ∀ link l, links.get? link = some l → l.Carries P Q)
    {link : LinkId} {l : Link α} (hl : l.Carries P Q) :
    ∀ link' l', (links.insert link l).get? link' = some l' → l'.Carries P Q := by
  intro link' l' hl'
  rw [Table.get?_insert] at hl'
  split at hl'
  · cases hl'
    exact hl
  · exact h link' l' hl'

/-- A step of a device: only this device took commands. -/
theorem device (h : Traced journal s) {link : LinkId} {d d' : Device α} {l l' : Link α}
    {c : Device.Choice} (htask : s.tasks.get? id = some (.device link d))
    (hl : s.links.get? link = some l) (hstep : d.step s.now l c = some (d', l')) :
    Traced (journal ++ d.notes id l c) ((s.setLink link l').setTask id (.device link d')) := by
  have hleaves := Device.recounts_device_step hstep (h.devices id link d htask) (h.links link l hl)
  have hmine : ∀ dev s c', .accepted dev s c' ∈ d.notes id l c → dev = id :=
    fun dev s c' he => (Device.notes_about he).1
  refine ⟨?_, ?_, ?_, ?_⟩
  · exact h.registry.imp (fun _ h => h.append _) fun _ h => h.append _
  · refine links_insert (fun link l hl => ?_) hleaves.link
    exact (h.links link l hl).imp (fun _ h => h.append _) fun _ h => h.append _
  · intro id' link' d₁ hd₁
    change (s.tasks.insert id (.device link d')).get? id' = _ at hd₁
    rw [Table.get?_insert] at hd₁
    split at hd₁
    · next hid =>
      cases hd₁
      exact hid ▸ hleaves.device
    · next hid =>
      refine (h.devices id' link' d₁ hd₁).append fun s c' he => ?_
      exact hid (hmine id' s c' he).symm
  · intro id' link' g hg
    change (s.tasks.insert id (.device link d')).get? id' = _ at hg
    rw [Table.get?_insert] at hg
    split at hg
    · cases hg
    · exact (h.gateways id' link' g hg).imp (fun _ h => h.append _) fun _ h => h.append _

theorem gateway (h : Traced journal s) {link : LinkId} {g g' : Gateway α} {l : Link α}
    {site : Gateway.Site α} {c : Gateway.Choice}
    (htask : s.tasks.get? id = some (.gateway link g)) (hl : s.links.get? link = some l)
    (hstep : g.step s.now s.wall ⟨s.kernel, l⟩ c = some (g', site)) :
    Traced journal
      (({ s with kernel := site.kernel }.setLink link site.link).setTask id (.gateway link g')) := by
  have hsite : Gateway.Site.Carries (Sourced journal) (Told journal) ⟨s.kernel, l⟩ :=
    ⟨h.registry, h.links link l hl⟩
  have hleaves := Gateway.carries_gateway_step hstep (h.gateways id link g htask) hsite
  refine h.insert rfl hleaves.site.registry (links_insert h.links hleaves.site.link)
    (fun _ _ e => nomatch e) ?_
  intro link' g₁ he
  cases he
  exact hleaves.gateway

/-- What a rental does to the registry: it dispatches for its own trip, and says so in the journal. -/
theorem registry_stride {m : Rental.Moment} {k : Kernel α} {q : RentalRequest}
    {p p' : Rental.Phase α} {calls : List (Registry.Call α)} {r : Registry α}
    (h : Rental.Stride id m k q p p' calls es) (hp : p.Known journal id q)
    (hr : r.Carries (Sourced (journal ++ es)) (Told (journal ++ es))) :
    (r.run calls).Carries (Sourced (journal ++ es)) (Told (journal ++ es)) := by
  cases h with
  | claimed =>
    have hc : (Registry.Call.begin q.scooter m.fresh : Registry.Call α).IsSilent := trivial
    exact hr.perform_silent hc
  | @dispatched d =>
    show (r.perform (.dispatch q.scooter d.station.position (some d.ticket.trip))).Carries _ _
    refine hr.perform (fun command he => ?_) fun _ _ e => nomatch e
    obtain ⟨scooter, destination, trip⟩ := command
    cases he
    intro trip _
    refine ⟨id, d, List.mem_append_right _ (List.mem_singleton.mpr rfl), ?_⟩
    unfold Departure.command
    rw [hp.2.2]
  | gaveUp => exact registry_abandon hr _
  | released => exact registry_abandon hr _
  | _ => exact hr

theorem rental (h : Traced journal s) (hc : Chronicle journal s) {r r' : Rental α}
    {c : Rental.Choice} {k : Kernel α} (htask : s.tasks.get? id = some (.rental r))
    (hstep : r.step s.moment s.terms s.kernel c = some (r', k)) :
    Traced (journal ++ r.notes id s.moment s.kernel c)
      ({ s with kernel := k, fresh := s.fresh + 1 }.setTask id (.rental r')) := by
  obtain ⟨-, calls, hstrides⟩ := Rental.stride_of_step id hstep
  have hnone : ∀ dev s' c', .accepted dev s' c' ∉ r.notes id s.moment s.kernel c := by
    intro dev s' c' he
    obtain ⟨-, -, hchapter, -⟩ := hstrides.stride.chapter.2 _ he
    cases hchapter
  have happend := h.append hnone
  refine happend.insert_idle rfl ?_ happend.links ?_ ?_
  · show k.registry.Carries _ _
    rw [hstrides.registry]
    exact registry_stride hstrides.stride (hc.rentals id r htask).known happend.registry
  · intro link d he
    cases he
  · intro link g he
    cases he

/-- A cancelled task takes its end of the link with it, and makes nothing up. -/
theorem cancel (h : Traced journal s) (hc : System.Cancels s id s') : Traced journal s' := by
  have herased : ∀ id' task, (s.tasks.erase id).get? id' = some task →
      s.tasks.get? id' = some task := by
    intro id' task ht
    rw [Table.get?_erase] at ht
    split at ht
    · cases ht
    · exact ht
  cases hc with
  | device task =>
    refine ⟨h.registry, ?_, fun id' link d hd => h.devices id' link d (herased _ _ hd),
      fun id' link g hg => h.gateways id' link g (herased _ _ hg)⟩
    intro link' l hl
    simp only [Table.get?_modify] at hl
    split at hl
    · obtain ⟨l₀, hl₀, rfl⟩ := Option.map_eq_some_iff.mp hl
      exact (h.links link' l₀ hl₀).leaveBelow
    · exact h.links link' l hl
  | @gateway link g l task place =>
    have hsite : Gateway.Site.Carries (Sourced journal) (Told journal) ⟨s.kernel, l⟩ :=
      ⟨h.registry, h.links link l place⟩
    have hcancel := Gateway.carries_cancel (g := g) hsite
    exact ⟨hcancel.registry, links_insert h.links hcancel.link,
      fun id' link d hd => h.devices id' link d (herased _ _ hd),
      fun id' link g hg => h.gateways id' link g (herased _ _ hg)⟩
  | other registry contents links tasks fresh =>
    exact ⟨registry_aside h.registry registry, by rw [links]; exact h.links,
      fun id' link d hd => h.devices id' link d (herased _ _ (tasks ▸ hd)),
      fun id' link g hg => h.gateways id' link g (herased _ _ (tasks ▸ hg))⟩

end Traced

/-- **One honest move keeps everything traced.** -/
theorem traced_move {journal es : List (Note α)} {s s' : System α} {m : Move α}
    (h : Traced journal s) (hc : Chronicle journal s) (honest : m.IsHonest)
    (hm : s.Moves m es s') : Traced (journal ++ es) s' := by
  cases hm with
  | act acts =>
    cases acts with
    | device task place step => exact h.device task place step
    | gateway task place step =>
      rw [List.append_nil]
      exact h.gateway task place step
    | rental task step => exact h.rental hc task step
    | bystander task before after registry contents links tasks fresh =>
      rw [List.append_nil]
      refine h.insert_idle tasks (Traced.registry_aside h.registry registry)
        (by rw [links]; exact h.links) ?_ ?_
      · intro link d he
        subst he
        exact after.elim
      · intro link g he
        subst he
        exact after.elim
  | clock =>
    rw [List.append_nil]
    exact ⟨h.registry, h.links, h.devices, h.gateways⟩
  | rent =>
    rw [List.append_nil]
    refine h.insert_idle rfl h.registry h.links ?_ ?_
    · intro link d he
      cases he
    · intro link g he
      cases he
  | @attach requested profile link =>
    rw [List.append_nil]
    have hlink : link.Carries (Sourced journal) (Told journal) := by
      obtain ⟨hup, hdown⟩ := honest
      exact ⟨by simp [hdown], by simp [hup]⟩
    have hopen : Traced journal (s.open_ link).2 :=
      ⟨h.registry, Traced.links_insert h.links hlink, h.devices, h.gateways⟩
    have hgateway : Traced journal ((s.open_ link).2.spawn (.gateway s.fresh (.start s.now))).2 := by
      refine hopen.insert rfl hopen.registry hopen.links ?_ ?_
      · intro link' d he
        cases he
      · intro link' g he
        cases he
        trivial
    refine hgateway.insert rfl hgateway.registry hgateway.links ?_ ?_
    · intro link' d he
      cases he
      trivial
    · intro link' g he
      cases he
  | join bystander =>
    rw [List.append_nil]
    refine h.insert_idle rfl h.registry h.links ?_ ?_
    · intro link d he
      subst he
      exact bystander.elim
    · intro link g he
      subst he
      exact bystander.elim
  | call =>
    rw [List.append_nil]
    refine ⟨h.registry.perform ?_ ?_, h.links, h.devices, h.gateways⟩
    · intro command he trip htrip
      subst he
      change command.trip = none at honest
      rw [honest] at htrip
      cases htrip
    · intro time report he
      subst he
      exact honest.elim
  | watch =>
    rw [List.append_nil]
    exact ⟨⟨h.registry.queued, h.registry.sent⟩, h.links, h.devices, h.gateways⟩
  | cancel cancels =>
    rw [List.append_nil]
    exact h.cancel cancels

theorem traced_run {s₀ s : System α} {journal : List (Note α)} (idle : s₀.IsIdle)
    (run : Run Move.IsHonest s₀ journal s) : Traced journal s := by
  induction run with
  | start =>
    obtain ⟨htasks, hlinks, hub, hregistry⟩ := idle
    refine ⟨?_, ?_, ?_, ?_⟩
    · rw [hregistry]
      exact ⟨fun _ _ e => (nomatch e), fun _ _ _ e => (nomatch e)⟩
    · rw [hlinks]
      exact fun _ _ e => nomatch e
    · rw [htasks]
      exact fun _ _ _ e => nomatch e
    · rw [htasks]
      exact fun _ _ _ e => nomatch e
  | move m run permitted step ih =>
    have hmoves := System.moves_of_move? step
    exact traced_move ih (chronicle_run idle.tasks run) permitted hmoves

/-- **A wait that returns a report returns the end of its own movement.**  In every run of honest
moves: the rental had dispatched the device, the device then took this command, in the state `before`,
and no other one until it reported; and what it reported is how the movement from there to the rental's
station came out, and where. -/
theorem ended_by_own_movement {s₀ s : System α} {journal : List (Note α)} (idle : s₀.IsIdle)
    (run : Run Move.IsHonest s₀ journal s) (names : System.tripBase + s.fresh ≤ System.nameCount)
    {id : TaskId} {r : Rental α} {d : Departure α} {opening : SnapshotId} {wait : Wait}
    (rental : s.tasks.get? id = some (.rental r)) (waits : r.phase = .waiting d opening wait)
    {c : Wait.Choice} {report : TripReport α} {registry : Registry α}
    (returns : wait.step s.now s.terms.idle s.registry d.ticket c =
      some (.done (.ended report), registry)) :
    ∃ dev early before middle late start n,
      journal = early ++ .accepted dev before ⟨d.ticket.scooter, d.station.position,
        some d.ticket.trip⟩ :: (middle ++ .ended dev report :: late) ∧
      .dispatched id d ∈ early ∧
      (∀ s c, .accepted dev s c ∉ middle) ∧
      report.trip = some d.ticket.trip ∧
      report.scooter = d.ticket.scooter ∧ before.scooter = d.ticket.scooter ∧
      Simulation.start? before.position d.station.position before.battery before.profile =
        .ok start ∧
      (start.trace n).2.outcome = some report.outcome ∧
      (start.trace n).2.position = report.position := by
  have htraced := traced_run idle run
  have hchronicle := chronicle_run idle.tasks run
  have hsent : ∃ ticks, s.registry.resolutions.get? d.ticket.trip = some ⟨ticks, .ended report⟩ := by
    rcases Wait.step_cases returns with ⟨resolution, -, hr, -, hp⟩ | ⟨_, -, -, hp⟩ | ⟨-, -, -, hp⟩
    · obtain ⟨ticks, signal⟩ := resolution
      cases hp
      exact ⟨ticks, hr⟩
    · cases hp
    · have hlost : ∃ ticks, s.registry.lostSignal d.ticket =
          .interrupted ticks (s.registry.lastPosition d.ticket.scooter) := by
        unfold Registry.lostSignal
        split
        · split <;> exact ⟨_, rfl⟩
        · exact ⟨_, rfl⟩
      obtain ⟨ticks, hlost⟩ := hlost
      rw [hlost] at hp
      cases hp
  obtain ⟨ticks, hsent⟩ := hsent
  obtain ⟨htold, hname⟩ := htraced.registry.sent _ _ _ hsent
  obtain ⟨dev, early, before, command, middle, late, start, n, rfl, hmiddle, hbegins, houtcome,
    hposition, hscooter, htrip⟩ := htold
  -- the command names the trip, so it is the one that the rental dispatched
  obtain ⟨id', d', hd', rfl⟩ := hbegins.sourced d.ticket.trip (htrip.symm.trans hname)
  have hd : .dispatched id d ∈ early ++ .accepted dev before d'.command ::
      (middle ++ .ended dev report :: late) := by
    have hknown := (hchronicle.rentals id r rental).known
    rw [waits] at hknown
    exact hknown.1
  have hsame : d'.ticket.trip = d.ticket.trip := Option.some.inj (htrip.symm.trans hname)
  obtain ⟨rfl, rfl⟩ := hchronicle.dispatched_unique names (List.mem_append_left _ hd') hd hsame
  exact ⟨dev, early, before, middle, late, start, n, rfl, hd', hmiddle, hname,
    hscooter.trans hbegins.scooter.symm, hbegins.scooter.symm, hbegins.starts, houtcome, hposition⟩

/-! ### One trip from beginning to end -/

section ShortTrip

attribute [local instance] exactRat

/-- A rental (task 3) sends the device to the depot. -/
def shortTrip : List (Move Rat) :=
  connecting ++ .rent ⟨1, 1, 42⟩ :: settingOut 3 ++ moving

/-- The report that a rental's wait returns if it looks now. -/
def System.returns? (s : System Rat) (id : TaskId) : Option (Departure Rat × TripReport Rat) :=
  match s.tasks.get? id with
  | some (.rental ⟨_, .waiting d _ wait⟩) =>
    match wait.step s.now s.terms.idle s.registry d.ticket .signal with
    | some (.done (.ended report), _) => some (d, report)
    | _ => none
  | _ => none

theorem ended_by_own_movement_shortTrip :
    ∃ journal s d report, Run Move.IsHonest smallFleet journal s ∧
      System.tripBase + s.fresh ≤ System.nameCount ∧ s.returns? 3 = some (d, report) ∧
      report.position = ⟨0, 1⟩ ∧ report.outcome = .arrived ∧
      ∃ dev early before middle late,
        journal = early ++ .accepted dev before ⟨d.ticket.scooter, d.station.position,
          some d.ticket.trip⟩ :: (middle ++ .ended dev report :: late) ∧
        .dispatched 3 d ∈ early := by
  have hplay : ((smallFleet.play shortTrip).bind fun out => (out.2.returns? 3).map fun x =>
      (out.2.fresh, x.2.position, x.2.outcome)) = some (10, ⟨0, 1⟩, .arrived) := by
    decide +kernel
  simp only [Option.bind_eq_some_iff, Option.map_eq_some_iff, Prod.exists, Prod.mk.injEq] at hplay
  obtain ⟨journal, s, hplay, d, report, hreturns, hfresh, hposition, houtcome⟩ := hplay
  have hidle : smallFleet.IsIdle := ⟨rfl, rfl, .create 8, rfl⟩
  have honest : ∀ m ∈ shortTrip, m.IsHonest := by
    simp [shortTrip, connecting, settingOut, moving, or_imp, forall_and, Move.IsHonest,
      Link.unbounded, Channel.unbounded]
  have run : Run Move.IsHonest smallFleet journal s := System.run_of_play hplay .start honest
  have names : System.tripBase + s.fresh ≤ System.nameCount := by
    rw [hfresh]
    decide
  refine ⟨journal, s, d, report, run, names, hreturns, hposition, houtcome, ?_⟩
  unfold System.returns? at hreturns
  split at hreturns
  · next d' opening wait htask =>
    split at hreturns
    · next report' registry hstep =>
      cases hreturns
      obtain ⟨dev, early, before, middle, late, start, n, hjournal, hdispatched, -⟩ :=
        ended_by_own_movement hidle run names htask rfl hstep
      exact ⟨dev, early, before, middle, late, hjournal, hdispatched⟩
    · cases hreturns
  · cases hreturns

end ShortTrip
end ScooterFleet
