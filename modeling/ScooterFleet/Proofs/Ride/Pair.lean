import ScooterFleet.Proofs.Device.Itinerary
import ScooterFleet.Proofs.Gateway.Drain
import ScooterFleet.Proofs.Ride.Stage

/-!
# A gateway and a device, tied by a link

What is on its way between a device and the kernel is two queues, wherever in them the gateway, the link
and the device are: commands on their way down, and frames on their way up.

* `Tied` — the two queues, and the ends of the link;
* `Parting` — what is left of them when the device has gone;
* `Beside` / `Tied.beside` — what others do leaves them, or adds commands;
* `Tied.gateway`, `Tied.receive`, `Tied.tick`, `Tied.send` — **what a step does to the queues**: most
  steps pass something along and leave both as they are;
* `Tied.ready_of_flight`, `Tied.ready_of_pipe` — while something is on its way, one of the two can go on.
-/

namespace ScooterFleet

open Registry

variable {α : Type}

/-- The frame that the gateway has heard and not passed on yet. -/
def Gateway.heard : Gateway α → List (DeviceFrame α)
  | .hearing _ frame => [frame]
  | _ => []

/-- A gateway that serves its slot calls the registry for its own scooter only. -/
theorem Gateway.own_of_conduct {owned : Registration} {r : Registry α} {g g' : Gateway α}
    {calls : List (Call α)} (serves : g.Serves owned) (h : Gateway.Conduct r g g' calls) :
    ∀ c ∈ calls, c.IsOwn owned := by
  have hslot : g.owned? = some owned := owned_of_keeps (keeps_of_serves serves)
  cases h with
  | outside before =>
    rw [before] at hslot
    cases hslot
  | claims before =>
    rw [before] at hslot
    cases hslot
  | idles => exact List.forall_mem_nil _
  | serves before after own =>
    rw [before] at hslot
    cases hslot
    exact List.forall_mem_singleton.mpr own
  | frees => exact serves.elim

/-- What it hears it passes on by such calls. -/
theorem Gateway.own_of_apply (wall : Timestamp) (owned : Registration) (r : Registry α)
    (frame : DeviceFrame α) :
    ∃ calls : List (Call α), (∀ c ∈ calls, c.IsOwn owned) ∧ apply wall owned r frame = r.run calls := by
  obtain ⟨calls, conduct, hcalls⟩ := conducts_apply wall r owned frame
  have serves : (hearing owned frame).Serves owned := rfl
  exact ⟨calls, own_of_conduct serves conduct, hcalls⟩

theorem Registry.Registered.run_own {owned : Registration} {r : Registry α} (h : Registered r owned)
    {calls : List (Call α)} (own : ∀ c ∈ calls, c.IsOwn owned) : Registered (r.run calls) owned := by
  induction calls generalizing r with
  | nil => exact h
  | cons c calls ih =>
    rw [List.forall_mem_cons] at own
    exact ih (h.perform (spares_of_own own.1)) own.2

/-- A link that carries these frames and commands; the device has gone from it, or is still there. -/
def Link.joined (k : Nat) (ups : List (DeviceFrame α)) (downs : List (Dispatch α)) (gone : Bool) :
    Link α :=
  ⟨⟨ups.map .ok, some k, gone, false, none⟩,
    ⟨downs.map fun m => .ok (.dispatch m), some k, false, gone, none⟩⟩

namespace Ride

/-- A gateway that serves its slot, with the commands on their way down and the frames on their way up,
the oldest first.  The device may have gone. -/
inductive Tied (owned : Registration) (s : Ride α) (pipe : List (Dispatch α))
    (flight : List (DeviceFrame α)) (gone : Bool) : Prop
  | mk {k : Nat} (ups : List (DeviceFrame α)) (downs : List (Dispatch α)) (room : 0 < k)
      (link : s.site.link = .joined k ups downs gone) (serves : s.gateway.Serves owned)
      (registered : Registered s.registry owned)
      (device : if gone then s.device.unsent = [] else s.device.IsAttached)
      (pipe : pipe = downs ++ (s.gateway.held ++ s.registry.commands owned.connection))
      (flight : flight = s.gateway.heard ++ (ups ++ s.device.unsent))

variable {owned : Registration} {s : Ride α} {pipe : List (Dispatch α)}
  {flight : List (DeviceFrame α)} {gone : Bool}

theorem Tied.registered (h : Tied owned s pipe flight gone) : Registered s.registry owned := by
  cases h with
  | mk ups downs room link serves registered => exact registered

/-- What leaves the device, the gateway and the link, and the connection with its slot. -/
structure Beside (owned : Registration) (s s' : Ride α) : Prop where
  device : s'.device = s.device
  gateway : s'.gateway = s.gateway
  link : s'.site.link = s.site.link
  registered : Registered s.registry owned → Registered s'.registry owned

/-- A call that leaves the session and the queue. -/
theorem registered_perform {r : Registry α} (h : Registered r owned) {c : Call α}
    (session : ¬ c.Removes r owned.scooter) (queue : ¬ c.Receives owned.connection) :
    Registered (r.perform c) owned := by
  refine h.perform ⟨session, ?_, ?_⟩
  · rintro rfl
    exact queue rfl
  · rintro rfl
    exact queue rfl

/-- Commands may have come behind the others. -/
theorem Tied.beside (h : Tied owned s pipe flight gone) {s' : Ride α} (beside : Beside owned s s')
    {ms : List (Dispatch α)}
    (commands : s'.registry.commands owned.connection = s.registry.commands owned.connection ++ ms) :
    Tied owned s' (pipe ++ ms) flight gone := by
  cases h with
  | mk ups downs room link serves registered device hpipe hflight =>
    refine .mk ups downs room (beside.link.trans link) (beside.gateway ▸ serves)
      (beside.registered registered) (beside.device ▸ device) ?_ ?_
    · rw [beside.gateway, commands, hpipe]
      simp only [List.append_assoc]
    · rw [beside.gateway, beside.device, hflight]

theorem Tied.same (h : Tied owned s pipe flight gone) {s' : Ride α} (beside : Beside owned s s')
    (commands : s'.registry.commands owned.connection = s.registry.commands owned.connection) :
    Tied owned s' pipe flight gone := by
  have hbeside := h.beside beside (commands.trans (List.append_nil _).symm)
  rwa [List.append_nil] at hbeside

/-- The device has gone from its link, and the gateway has not noticed, or is about to go as well. -/
structure Parting (owned : Registration) (s : Ride α) : Prop where
  device : ∃ result, s.device = .finished result
  ended : s.site.link.up.ended = true
  refused : s.site.link.down.closed = true
  goes : s.gateway.Serves owned ∨ ∃ result, s.gateway = .leaving owned result
  registered : Registered s.registry owned

/-- Where nothing is on its way up, the device has sent all. -/
theorem Tied.unsent (h : Tied owned s pipe [] gone) : s.device.unsent = [] := by
  cases h with
  | mk ups downs room link serves registered device hpipe hflight =>
    have hnil := List.append_eq_nil_iff.mp hflight.symm
    exact (List.append_eq_nil_iff.mp hnil.2).2

/-! ### Steps of the gateway -/

/-- What a step of the gateway does. -/
inductive Passes (owned : Registration) (s s' : Ride α) (pipe : List (Dispatch α))
    (flight : List (DeviceFrame α)) (gone : Bool) : Prop
  /-- Something is passed along. -/
  | along (tied : Tied owned s' pipe flight gone) (trips : s'.registry.trips = s.registry.trips)
      (resolutions : s'.registry.resolutions = s.registry.resolutions)
  /-- The oldest frame goes into the registry. -/
  | applies {frame : DeviceFrame α} {rest : List (DeviceFrame α)} (first : flight = frame :: rest)
      (tied : Tied owned s' pipe rest gone)
      (registry : s'.registry = Gateway.apply s.wall owned s.registry frame)

theorem registered_apply {r : Registry α} (h : Registered r owned) (wall : Timestamp)
    (frame : DeviceFrame α) : Registered (Gateway.apply wall owned r frame) owned := by
  obtain ⟨calls, own, hcalls⟩ := Gateway.own_of_apply wall owned r frame
  rw [hcalls]
  exact h.run_own own

theorem Tied.gateway (h : Tied owned s pipe flight gone) (short : pipe.length ≤ 1)
    (alive : gone = true → pipe = [] ∧ flight ≠ []) {c : Gateway.Choice}
    {x : Gateway α × Gateway.Site α} (step : s.gateway.step s.now s.wall s.site c = some x) :
    Passes owned s { s with gateway := x.1, site := x.2 } pipe flight gone := by
  cases h with
  | @mk k ups downs room link serves registered device hpipe hflight =>
    rcases Gateway.serves_iff.mp serves with hg | ⟨command, hg⟩ | ⟨frame, hg⟩
    · rw [hg] at step hpipe hflight
      cases c with
      | command =>
        simp only [Gateway.step] at step
        split at step
        · next command rest hreceive =>
          cases step
          obtain ⟨-, hcommands⟩ := registered.tenant.receive hreceive
          have hperform : s.registry.perform (.take owned.connection) =
              s.registry.leave owned.connection rest := by
            simp only [Registry.perform, Ride.registry, hreceive]
          have hown : (Call.take owned.connection : Call α).IsOwn owned := rfl
          have hregistered := registered.perform (spares_of_own hown)
          rw [hperform] at hregistered
          refine .along (.mk ups downs room link rfl hregistered device ?_ hflight) rfl rfl
          rw [hpipe]
          exact congrArg _ hcommands
        · next hended => exact absurd hended registered.queue.receive_ne_ended
        · cases step
      | inbound =>
        have hup : s.site.link.up = ⟨ups.map .ok, some k, gone, false, none⟩ := by rw [link]; rfl
        cases ups with
        | nil =>
          -- where nothing is on the link, the device is still there
          have hgone : gone = false := by
            rw [Bool.eq_false_iff]
            intro hg
            rw [hg, if_pos rfl] at device
            rw [device] at hflight
            exact (alive hg).2 hflight
          simp only [Gateway.step, hup, hgone, Channel.receive, List.map_nil, Bool.or_self] at step
          cases step
        | cons frame ups =>
          simp only [Gateway.step, hup, Channel.receive, List.map_cons] at step
          cases step
          refine .along (.mk ups downs room ?_ rfl registered device hpipe hflight)
            rfl rfl
          show (⟨⟨ups.map .ok, some k, gone, false, none⟩, s.site.link.down⟩ : Link α) = _
          rw [link]
          rfl
      | proceed | expiry => cases step
    · rw [hg] at step hpipe hflight
      have hdowns : downs = [] ∧ s.registry.commands owned.connection = [] := by
        have hlength := congrArg List.length hpipe
        simp only [List.length_append, Gateway.held, List.length_cons, List.length_nil] at hlength
        constructor <;> apply List.eq_nil_of_length_eq_zero <;> omega
      obtain ⟨rfl, hempty⟩ := hdowns
      have hgone : gone = false := by
        rw [Bool.eq_false_iff]
        intro hg
        rw [(alive hg).1] at hpipe
        simp [Gateway.held] at hpipe
      subst hgone
      cases c with
      | proceed =>
        have hsend : s.site.link.down.send (.ok (.dispatch command)) =
            .sent ⟨[.ok (.dispatch command)], some k, false, false, none⟩ := by
          rw [link]
          exact Channel.send_of_room room _
        rcases Gateway.send_cases step with ⟨down, hsent, rfl⟩ | ⟨fault, hfailed, -⟩
        · rw [hsend] at hsent
          cases hsent
          refine .along (.mk ups [command] room ?_ rfl registered device hpipe
            hflight) rfl rfl
          show (⟨s.site.link.up, ⟨[.ok (.dispatch command)], some k, false, false, none⟩⟩ : Link α) = _
          rw [link]
          rfl
        · rw [hsend] at hfailed
          cases hfailed
      | command | inbound | expiry => cases step
    · rw [hg] at step hpipe hflight
      cases c with
      | proceed =>
        cases step
        obtain ⟨-, hqueues⟩ := Gateway.apply_leaves s.wall owned s.registry frame
        refine .applies hflight (.mk ups downs room link rfl (registered_apply registered s.wall frame) device ?_
          rfl) rfl
        rw [hpipe]
        exact congrArg (downs ++ ·) (commands_congr hqueues owned.connection).symm
      | command | inbound | expiry => cases step

/-! ### Steps of the device -/

section Device

variable [Coordinate α] {x : Device α × Link α}

/-- The state behind a step of the device. -/
abbrev afterDevice (s : Ride α) (x : Device α × Link α) : Ride α :=
  { s with device := x.1, site.link := x.2 }

/-- The device takes a command. -/
theorem Tied.receive (h : Tied owned s pipe flight false)
    (step : s.device.step s.now s.site.link .receive = some x) :
    ∃ session due m rest, s.device = .running session due ∧ pipe = m :: rest ∧
      ∀ session', m.scooter = session.scooter → session.dispatch m.destination m.trip = .ok session' →
        x.1 = .attached session' s.now ∧ Tied owned (s.afterDevice x) rest flight false := by
  cases h with
  | @mk k ups downs room link serves registered device hpipe hflight =>
    cases hd : s.device with
    | running session due =>
      rw [hd] at step hflight
      have hdown : s.site.link.down = ⟨downs.map fun m => .ok (.dispatch m), some k, false, false, none⟩ := by
        rw [link]
        rfl
      cases downs with
      | nil =>
        simp only [Device.step, hdown, Channel.receive, List.map_nil, Bool.or_self] at step
        cases step
      | cons m downs =>
        simp only [Device.step, hdown, Channel.receive, List.map_cons] at step
        cases step
        refine ⟨session, due, m, _, rfl, hpipe, fun session' hscooter haccept => ?_⟩
        have hheard (l : Link α) :
            Device.hear s.now l session due (.ok (.dispatch m)) = (.attached session' s.now, l) := by
          simp only [Device.hear, hscooter, if_true, haccept]
        rw [hheard]
        refine ⟨rfl, .mk ups downs room ?_ serves registered trivial rfl hflight⟩
        show (⟨s.site.link.up, ⟨downs.map fun m => .ok (.dispatch m), some k, false, false, none⟩⟩ :
          Link α) = _
        rw [link]
        rfl
    | sending session frame more due outcome =>
      rw [hd] at step
      cases step
    | _ =>
      rw [hd] at device
      exact device.elim

/-- The device makes a tick. -/
theorem Tied.tick (h : Tied owned s pipe flight false)
    (step : s.device.step s.now s.site.link .tick = some x) :
    ∃ session due frame more, s.device = .running session due ∧ session.isMoving = true ∧
      due ≤ s.now ∧ session.tick.frames = frame :: more ∧
      x.1 = .sending session.tick.session frame more (due + session.profile.interval)
        session.tick.outcome ∧
      Tied owned (s.afterDevice x) pipe (flight ++ session.tick.frames) false := by
  cases h with
  | @mk k ups downs room link serves registered device hpipe hflight =>
    cases hd : s.device with
    | running session due =>
      rw [hd] at step hflight
      simp only [Device.step] at step
      split at step
      · next hdue =>
        obtain ⟨moving, hdue⟩ := Bool.and_eq_true_iff.mp hdue
        obtain ⟨frame, more, hframes, -⟩ := Session.frames_tick moving
        simp only [Device.move, hframes] at step
        cases step
        refine ⟨session, due, frame, more, rfl, moving, of_decide_eq_true hdue, hframes, rfl, ?_⟩
        refine .mk ups downs room link serves registered trivial hpipe ?_
        rw [hflight, hframes]
        simp only [Device.unsent, List.append_nil, List.append_assoc]
      · cases step
    | sending session frame more due outcome =>
      rw [hd] at step
      cases step
    | _ =>
      rw [hd] at device
      exact device.elim

/-- What is left when a frame is sent. -/
inductive Sent (owned : Registration) (s' : Ride α) (pipe : List (Dispatch α))
    (flight : List (DeviceFrame α)) (session : Session α) (more : List (DeviceFrame α)) (due : Millis)
    (outcome : Option Outcome) : Prop
  | more {frame : DeviceFrame α} {rest : List (DeviceFrame α)} (split : more = frame :: rest)
      (device : s'.device = .sending session frame rest due outcome)
      (tied : Tied owned s' pipe flight false)
  | last (split : more = []) (lasts : outcome ≠ some .discharged)
      (device : s'.device = .running session due) (tied : Tied owned s' pipe flight false)
  | gone (split : more = []) (empty : outcome = some .discharged)
      (device : s'.device = .finished (.ok .discharged)) (parting : Parting owned s')
      (tied : pipe = [] → Tied owned s' [] flight true)

/-- The device sends a frame. -/
theorem Tied.send (h : Tied owned s pipe flight false)
    (step : s.device.step s.now s.site.link .send = some x) :
    ∃ session frame more due outcome, s.device = .sending session frame more due outcome ∧
      Sent owned (s.afterDevice x) pipe flight session more due outcome := by
  cases h with
  | @mk k ups downs room link serves registered device hpipe hflight =>
    cases hd : s.device with
    | running session due =>
      rw [hd] at step
      cases step
    | sending session frame more due outcome =>
      rw [hd] at step hflight
      refine ⟨session, frame, more, due, outcome, rfl, ?_⟩
      simp only [Device.step] at step
      have hup : s.site.link.up = ⟨ups.map .ok, some k, false, false, none⟩ := by rw [link]; rfl
      split at step
      · next up hsend =>
        have hsent : up = ⟨(ups ++ [frame]).map .ok, some k, false, false, none⟩ := by
          rw [hup, Channel.send_of_holds ⟨rfl, rfl⟩] at hsend
          split at hsend
          · cases hsend
          · split at hsend <;> cases hsend
            rw [List.map_append]
            rfl
        have hlink : ({ s.site.link with up } : Link α) = .joined k (ups ++ [frame]) downs false := by
          rw [link, hsent]
          rfl
        have hmoved : flight = s.gateway.heard ++ ((ups ++ [frame]) ++ more) := by
          rw [hflight, Device.unsent, List.append_assoc]
          rfl
        cases more with
        | cons f fs =>
          cases step
          exact .more rfl rfl (.mk (ups ++ [frame]) downs room hlink serves registered trivial hpipe hmoved)
        | nil =>
          cases step
          by_cases ho : outcome = some .discharged
          · subst ho
            refine .gone rfl rfl rfl ⟨⟨_, rfl⟩, rfl, rfl, .inl serves, registered⟩ fun hnil => ?_
            obtain ⟨rfl, hrest⟩ := List.append_eq_nil_iff.mp (hpipe.symm.trans hnil)
            refine .mk (ups ++ [frame]) [] room ?_ serves registered rfl hrest.symm
              hmoved
            show ({ s.site.link with up } : Link α).leaveBelow = _
            rw [hlink]
            rfl
          · have hsettle : Device.settle { s.site.link with up } session due outcome =
                (.running session due, { s.site.link with up }) := by
              unfold Device.settle
              split
              · next hd => exact absurd rfl ho
              · rfl
            simp only [hsettle]
            exact .last rfl ho rfl (.mk (ups ++ [frame]) downs room hlink serves registered trivial hpipe hmoved)
      · next fault hfailed =>
        rw [hup, Channel.send_of_holds ⟨rfl, rfl⟩] at hfailed
        split at hfailed
        · next hclosed => cases hclosed
        · split at hfailed <;> cases hfailed
      · cases step
    | _ =>
      rw [hd] at device
      exact device.elim

end Device

/-! ### Who can go on -/

section Ready

variable [Coordinate α]

theorem isReady_of_go {m : Move} (hm : m ∈ moves) (h : ∃ s', s.go (.ofNat 0) m = some s') :
    s.isReady = true := by
  obtain ⟨s', h⟩ := h
  exact List.any_eq_true.mpr ⟨m, hm, by rw [h]; rfl⟩

theorem isReady_of_gateway {c : Gateway.Choice} (hm : .gateway c ∈ moves)
    (h : ∃ x, s.gateway.step s.now s.wall s.site c = some x) : s.isReady = true := by
  obtain ⟨x, h⟩ := h
  exact isReady_of_go hm ⟨_, by rw [go, h]; rfl⟩

theorem isReady_of_device {c : Device.Choice} (hm : .device c ∈ moves)
    (h : ∃ x, s.device.step s.now s.site.link c = some x) : s.isReady = true := by
  obtain ⟨x, h⟩ := h
  exact isReady_of_go hm ⟨_, by rw [go, h]; rfl⟩

/-- A frame that the gateway has heard or finds on the link. -/
theorem isReady_of_frame {k : Nat} {ups : List (DeviceFrame α)} {downs : List (Dispatch α)}
    (link : s.site.link = .joined k ups downs gone) (serves : s.gateway.Serves owned)
    (free : s.gateway.held = []) (nonempty : s.gateway.heard ++ ups ≠ []) : s.isReady = true := by
  rcases Gateway.serves_iff.mp serves with hg | ⟨command, hg⟩ | ⟨frame, hg⟩
  · cases ups with
    | nil =>
      rw [hg] at nonempty
      exact absurd rfl nonempty
    | cons frame ups =>
      refine isReady_of_gateway (c := .inbound) (by decide) ?_
      rw [hg]
      simp only [Gateway.step, link, Link.joined, Channel.receive, List.map_cons]
      exact ⟨_, rfl⟩
  · rw [hg] at free
    cases free
  · refine isReady_of_gateway (c := .proceed) (by decide) ?_
    rw [hg]
    exact ⟨_, rfl⟩

/-- A device that sends, where there is room. -/
theorem isReady_of_sending {k : Nat} {downs : List (Dispatch α)} (room : 0 < k)
    (link : s.site.link = .joined k [] downs false) {session : Session α} {frame : DeviceFrame α}
    {more : List (DeviceFrame α)} {due : Millis} {outcome : Option Outcome}
    (device : s.device = .sending session frame more due outcome) : s.isReady = true := by
  refine isReady_of_device (c := .send) (by decide) ?_
  have hsend : s.site.link.up.send (.ok frame) = .sent ⟨[.ok frame], some k, false, false, none⟩ := by
    rw [link]
    exact Channel.send_of_room room _
  rw [device]
  simp only [Device.step, hsend]
  cases more <;> exact ⟨_, rfl⟩

/-- While a frame is on its way up, one of the two can go on. -/
theorem Tied.ready_of_flight (h : Tied owned s [] flight gone) (nonempty : flight ≠ []) :
    s.isReady = true := by
  cases h with
  | @mk k ups downs room link serves registered device hpipe hflight =>
    have hheld : s.gateway.held = [] := by
      have hnil := List.append_eq_nil_iff.mp hpipe.symm
      exact (List.append_eq_nil_iff.mp hnil.2).1
    by_cases hframe : s.gateway.heard ++ ups = []
    · obtain ⟨hheard, rfl⟩ := List.append_eq_nil_iff.mp hframe
      rw [hheard, List.nil_append, List.nil_append] at hflight
      cases gone with
      | true => exact absurd (hflight.trans device) nonempty
      | false =>
        cases hd : s.device with
        | sending session frame more due outcome => exact isReady_of_sending room link hd
        | _ =>
          rw [hd] at hflight
          exact absurd hflight nonempty
    · exact isReady_of_frame link serves hheld hframe

/-- While a command is on its way down, one of the two can go on. -/
theorem Tied.ready_of_pipe {m : Dispatch α} (h : Tied owned s [m] flight false) :
    s.isReady = true := by
  cases h with
  | @mk k ups downs room link serves registered device hpipe hflight =>
    have hdown : s.site.link.down =
        ⟨downs.map fun m => .ok (.dispatch m), some k, false, false, none⟩ := by
      rw [link]
      rfl
    cases downs with
    | cons m' downs =>
      -- the command is on the link, and all below it is empty
      obtain ⟨hheld, -⟩ : s.gateway.held = [] ∧ s.registry.commands owned.connection = [] := by
        rw [← List.append_eq_nil_iff]
        have hrest := (List.cons.inj hpipe).2
        exact (List.append_eq_nil_iff.mp hrest.symm).2
      cases hd : s.device with
      | running session due =>
        refine isReady_of_device (c := .receive) (by decide) ?_
        rw [hd]
        simp only [Device.step, hdown, Channel.receive, List.map_cons]
        exact ⟨_, rfl⟩
      | sending session frame more due outcome =>
        cases ups with
        | cons frame' ups => exact isReady_of_frame link serves hheld (by simp)
        | nil => exact isReady_of_sending room link hd
      | _ =>
        rw [hd] at device
        exact device.elim
    | nil =>
      rcases Gateway.serves_iff.mp serves with hg | ⟨command, hg⟩ | ⟨frame, hg⟩
      · rw [hg] at hpipe
        refine isReady_of_gateway (c := .command) (by decide) ?_
        rw [hg]
        obtain ⟨q, hq, -⟩ := registered.queue
        have hitems : q.items = [m] := by
          rw [← commands_of_get? hq]
          exact hpipe.symm
        have hreceive : s.site.kernel.registry.receive owned.connection =
            .item m { q with items := [] } := by
          show Registry.receive s.registry owned.connection = _
          rw [Registry.receive, hq]
          simp only [Channel.receive, hitems]
        simp only [Gateway.step, hreceive]
        exact ⟨_, rfl⟩
      · refine isReady_of_gateway (c := .proceed) (by decide) ?_
        have hsend : s.site.link.down.send (.ok (.dispatch command)) =
            .sent ⟨[.ok (.dispatch command)], some k, false, false, none⟩ := by
          rw [link]
          exact Channel.send_of_room room _
        rw [hg]
        simp only [Gateway.step, Gateway.advance, Gateway.send, hsend]
        exact ⟨_, rfl⟩
      · refine isReady_of_gateway (c := .proceed) (by decide) ?_
        rw [hg]
        exact ⟨_, rfl⟩

end Ready

end Ride
end ScooterFleet
