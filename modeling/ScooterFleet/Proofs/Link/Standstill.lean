import ScooterFleet.Proofs.Link.Pairing
import ScooterFleet.Proofs.Motion.Trace

/-!
# When nothing moves

A gateway and its device do not receive while they wait to send.

* `Stuck` — each of them waits for the other one;
* `lt_of_stuck` — that takes more commands than the link holds;
* `stuck_reach` — it never ends;
* `session_goes_on` / `pump_goes_on` — nothing else holds the two up;
* `stuck_comes` — how it comes about: answers fill the way up, commands the way down;
* `standstill_iff` — **it can come about exactly if more commands are under way than one direction of
  the link holds.**
-/

namespace ScooterFleet

variable {α : Type}

namespace Pairing

/-! ### Standstills -/

/-- The gateway waits to send a command. -/
def PumpWaits (p : Pairing α) : Prop :=
  ∃ owned command, p.gateway = .forwarding owned command ∧
    p.link.down.send (.ok (.dispatch command)) = .waits

/-- The device waits to send a frame. -/
def SessionWaits (p : Pairing α) : Prop :=
  ∃ session frame more due outcome, p.device = .sending session frame more due outcome ∧
    p.link.up.send (.ok frame) = .waits

/-- Each end waits for the other one. -/
def Stuck (p : Pairing α) : Prop := p.PumpWaits ∧ p.SessionWaits

variable {k d r n buffer : Nat} {owned : Registration} {p p' p₀ : Pairing α} {session : Session α}

/-- The commands between two ends that wait for each other: as many as the link holds, and the one that
the gateway has in hand. -/
theorem lt_of_stuck (h : Sound k owned d r p) (stuck : p.Stuck) : r + k < d := by
  obtain ⟨⟨owned', command, hg, hdown⟩, ⟨session, frame, more, due, outcome, hd, hup⟩⟩ := stuck
  have hserves : p.gateway.Serves owned := by
    rcases h.gateway with hs | ⟨result, hs⟩ | ⟨⟨result, hs⟩, -⟩
    · exact hs
    · rw [hg] at hs
      cases hs
    · rw [hg] at hs
      cases hs
  have hattached : p.device.IsAttached := by
    rw [hd]
    trivial
  have hbalance := h.account hserves hattached
  obtain ⟨-, hfull⟩ := (Channel.waits_iff h.down).mp hdown
  unfold underWay at hbalance
  rw [hg, Gateway.inHand] at hbalance
  omega

/-- A pair between two commands that the gateway takes. -/
structure Stands (k : Nat) (owned : Registration) (gateway : Gateway α) (device : Device α)
    (ups : List (Except LinkFault (DeviceFrame α))) (downs : List (Except LinkFault (ServerFrame α)))
    (p : Pairing α) : Prop where
  gateway : p.gateway = gateway
  device : p.device = device
  link : p.link = ⟨⟨ups, some k, false, false, none⟩, ⟨downs, some k, false, false, none⟩⟩
  seat : ∃ slot, p.registry.sessions.get? owned.scooter = some slot ∧
    slot.connection = owned.connection
  queue : p.registry.queues.get? owned.connection = some .unbounded

section Stands

variable {ups : List (Except LinkFault (DeviceFrame α))}
  {downs : List (Except LinkFault (ServerFrame α))} {due : Millis}

theorem stands_attached (start : p₀.Attached buffer owned session) :
    Stands (max buffer 1) owned (.serving owned) (.attached session p₀.now) [] [] p₀ :=
  ⟨start.gateway, start.device, start.link, start.seat, start.queue⟩

/-- Both ends wait, once both ways are full. -/
theorem Stands.stuck {command : Dispatch α} {session : Session α} {frame : DeviceFrame α}
    {more : List (DeviceFrame α)} {outcome : Option Outcome}
    (h : Stands k owned (.forwarding owned command) (.sending session frame more due outcome) ups downs
      p) (hups : k ≤ ups.length) (hdowns : k ≤ downs.length) : p.Stuck := by
  have hup : p.link.up = ⟨ups, some k, false, false, none⟩ := congrArg Link.up h.link
  have hdown : p.link.down = ⟨downs, some k, false, false, none⟩ := congrArg Link.down h.link
  refine ⟨⟨owned, command, h.gateway, ?_⟩, ⟨session, frame, more, due, outcome, h.device, ?_⟩⟩
  · rw [hdown]
    exact (Channel.waits_iff ⟨rfl, rfl⟩).mpr ⟨rfl, hdowns⟩
  · rw [hup]
    exact (Channel.waits_iff ⟨rfl, rfl⟩).mpr ⟨rfl, hups⟩

end Stands

variable [Coordinate α]

/-- Nothing that happens makes either end move. -/
theorem stuck_step {scooter : ScooterId} {e : Event α} (stuck : p.Stuck)
    (h : p.step scooter e = some p') :
    p'.gateway = p.gateway ∧ p'.device = p.device ∧ p'.link = p.link := by
  obtain ⟨⟨owned, command, hg, hdown⟩, ⟨session, frame, more, due, outcome, hd, hup⟩⟩ := stuck
  cases e with
  | pump c =>
    simp only [step, hg, Option.map_eq_some_iff, Prod.exists] at h
    obtain ⟨g', site, hstep, -⟩ := h
    have hwaits : p.site.link.down.send (.ok (.dispatch command)) = .waits := hdown
    cases c with
    | proceed =>
      simp only [Gateway.step, Gateway.advance, Gateway.send, hwaits] at hstep
      cases hstep
    | command | inbound | expiry => cases hstep
  | session c =>
    simp only [step, hd, Option.map_eq_some_iff, Prod.exists] at h
    obtain ⟨d', l, hstep, -⟩ := h
    cases c with
    | send =>
      simp only [Device.step, hup] at hstep
      cases hstep
    | receive | tick => cases hstep
  | dispatch destination trip =>
    simp only [step] at h
    split at h <;> cases h
    exact ⟨rfl, rfl, rfl⟩
  | clock now wall =>
    simp only [step] at h
    split at h <;> cases h
    exact ⟨rfl, rfl, rfl⟩

/-- **A standstill is for ever.**  By induction over what happens. -/
theorem stuck_reach {scooter : ScooterId} (stuck : p.Stuck) (reach : Reach n scooter p d r p') :
    p'.gateway = p.gateway ∧ p'.device = p.device ∧ p'.link = p.link := by
  induction reach with
  | start => exact ⟨rfl, rfl, rfl⟩
  | @step d r p' p'' e reach step bound ih =>
    obtain ⟨hg, hd, hl⟩ := ih
    have stuck' : p'.Stuck := by
      unfold Stuck PumpWaits SessionWaits
      rw [hg, hd, hl]
      exact stuck
    obtain ⟨hg', hd', hl'⟩ := stuck_step stuck' step
    exact ⟨hg'.trans hg, hd'.trans hd, hl'.trans hl⟩

/-- Where the gateway waits and the device does not, the device goes on. -/
theorem session_goes_on {scooter : ScooterId} (h : Sound k owned d r p) (hk : 0 < k)
    (waits : p.PumpWaits) (free : ¬ p.SessionWaits) :
    ∃ c, (p.step scooter (.session c)).isSome := by
  obtain ⟨owned', command, -, hdown⟩ := waits
  obtain ⟨hopen, hfull⟩ := (Channel.waits_iff h.down).mp hdown
  rcases h.device with ha | ⟨-, hclosed⟩
  · cases hd : p.device with
    | running session due =>
      -- the way down is full, so there is something to receive
      obtain ⟨m, items, hitems⟩ := List.exists_cons_of_length_pos (Nat.lt_of_lt_of_le hk hfull)
      refine ⟨.receive, ?_⟩
      simp [step, hd, Device.step, Channel.receive, hitems]
    | sending session frame more due outcome =>
      refine ⟨.send, ?_⟩
      cases hsend : p.link.up.send (.ok frame) with
      | sent up => cases more <;> simp [step, hd, Device.step, hsend]
      | failed fault => simp [step, hd, Device.step, hsend]
      | waits => exact absurd ⟨session, frame, more, due, outcome, hd, hsend⟩ free
    | offering | awaiting | finished =>
      rw [hd] at ha
      exact ha.elim
  · rw [hopen] at hclosed
    cases hclosed

/-- Where the device waits and the gateway does not, the gateway goes on. -/
theorem pump_goes_on {scooter : ScooterId} (h : Sound k owned d r p) (hk : 0 < k)
    (waits : p.SessionWaits) (free : ¬ p.PumpWaits) :
    ∃ c, (p.step scooter (.pump c)).isSome := by
  obtain ⟨session, frame, more, due, outcome, -, hup⟩ := waits
  obtain ⟨hopen, hfull⟩ := (Channel.waits_iff h.up).mp hup
  rcases h.gateway with hs | ⟨result, hs⟩ | ⟨-, hclosed⟩
  · cases hg : p.gateway with
    | serving g =>
      obtain ⟨m, items, hitems⟩ := List.exists_cons_of_length_pos (Nat.lt_of_lt_of_le hk hfull)
      have hitems' : p.site.link.up.items = m :: items := hitems
      refine ⟨.inbound, ?_⟩
      simp [step, hg, Gateway.step, Channel.receive, hitems']
    | forwarding g command =>
      refine ⟨.proceed, ?_⟩
      have hlink : p.site.link.down = p.link.down := rfl
      cases hsend : p.link.down.send (.ok (.dispatch command)) with
      | sent down => simp [step, hg, Gateway.step, Gateway.advance, Gateway.send, hlink, hsend]
      | failed fault => simp [step, hg, Gateway.step, Gateway.advance, Gateway.send, hlink, hsend]
      | waits => exact absurd ⟨g, command, hg, hsend⟩ free
    | hearing g frame =>
      refine ⟨.proceed, ?_⟩
      simp [step, hg, Gateway.step, Gateway.advance]
    | _ =>
      rw [hg] at hs
      exact hs.elim
  · refine ⟨.proceed, ?_⟩
    simp [step, hs, Gateway.step, Gateway.advance]
  · rw [hopen] at hclosed
    cases hclosed

/-! ### How to get there -/

/-- A run can lead here, with so many commands under way. -/
def Comes (n k : Nat) (p₀ : Pairing α) (owned : Registration) (excess : Nat) (gateway : Gateway α)
    (device : Device α) (ups : List (Except LinkFault (DeviceFrame α)))
    (downs : List (Except LinkFault (ServerFrame α))) : Prop :=
  ∃ d r p, Reach n owned.scooter p₀ d r p ∧ d = r + excess ∧
    Stands k owned gateway device ups downs p

/-- An answer to a command: the device is to go where it stands, says that it is there, and is as
before. -/
structure Echo (session : Session α) (destination : Position α) (report : DeviceFrame α) : Prop where
  answers : ∃ moved, session.dispatch destination none = .ok moved ∧
    moved.tick = ⟨session, [report], some .arrived⟩

section Steps

variable {excess : Nat} {gateway : Gateway α} {device : Device α}
  {ups : List (Except LinkFault (DeviceFrame α))} {downs : List (Except LinkFault (ServerFrame α))}
  {destination : Position α} {report : DeviceFrame α} {due : Millis}

/-- A command is dispatched, and the gateway takes it. -/
theorem comes_take (h : Comes n k p₀ owned excess (.serving owned) device ups downs)
    (hn : excess < n) (destination : Position α) :
    Comes n k p₀ owned (excess + 1) (.forwarding owned ⟨owned.scooter, destination, none⟩) device ups
      downs := by
  obtain ⟨d, r, p, reach, hd, hg, hdev, hlink, ⟨slot, hs, hconnection⟩, hq⟩ := h
  let command : Dispatch α := ⟨owned.scooter, destination, none⟩
  let queued := { p.registry with
    queues := p.registry.queues.insert owned.connection ⟨[command], none, false, false, none⟩ }
  have hdispatch : p.registry.dispatch owned.scooter destination none = .ok queued := by
    rw [← hconnection] at hq
    simp only [Registry.dispatch, hs, hq]
    rw [hconnection]
    rfl
  have step₁ : p.step owned.scooter (.dispatch destination none) =
      some { p with site := p.site.withRegistry queued } := by
    simp only [step, hdispatch]
  have hreceive : queued.receive owned.connection = .item command .unbounded := by
    simp only [Registry.receive, queued, Table.get?_insert_self]
    rfl
  have step₂ : ({ p with site := p.site.withRegistry queued } : Pairing α).step owned.scooter
      (.pump .command) = some { p with
        gateway := .forwarding owned command
        site := p.site.withRegistry (queued.leave owned.connection .unbounded) } := by
    have hregistry : (p.site.withRegistry queued).kernel.registry = queued := rfl
    simp only [step, hg, Gateway.step, hregistry, hreceive]
    rfl
  have bound₁ : d + 1 ≤ r + 0 + n := by omega
  have reach₁ := reach.step (.dispatch destination none) step₁ bound₁
  refine ⟨d + 1, r, _, reach₁.step (.pump .command) step₂ bound₁, by omega, rfl, hdev, hlink,
    ⟨slot, hs, hconnection⟩, ?_⟩
  exact Table.get?_insert_self _ _ _

/-- The gateway sends the command that it has in hand. -/
theorem comes_pass {command : Dispatch α}
    (h : Comes n k p₀ owned excess (.forwarding owned command) device ups downs)
    (hk : downs.length < k) :
    Comes n k p₀ owned excess (.serving owned) device ups (downs ++ [.ok (.dispatch command)]) := by
  obtain ⟨d, r, p, reach, hd, hg, hdev, hlink, seat, hq⟩ := h
  have hdown : p.site.link.down = ⟨downs, some k, false, false, none⟩ := congrArg Link.down hlink
  have hsend : p.site.link.down.send (.ok (.dispatch command)) =
      .sent ⟨downs ++ [.ok (.dispatch command)], some k, false, false, none⟩ := by
    rw [hdown, Channel.send_of_room hk]
  have hstep : p.step owned.scooter (.pump .proceed) = some { p with
      gateway := .serving owned
      site := { p.site with link := ⟨p.site.link.up,
        ⟨downs ++ [.ok (.dispatch command)], some k, false, false, none⟩⟩ } } := by
    simp only [step, hg, Gateway.step, Gateway.advance, Gateway.send, hsend]
    rfl
  refine ⟨d, r, _, reach.step (.pump .proceed) hstep (bound_reach reach), hd, rfl, hdev, ?_, seat, hq⟩
  have hup : p.site.link.up = ⟨ups, some k, false, false, none⟩ := congrArg Link.up hlink
  show (⟨p.site.link.up, _⟩ : Link α) = _
  rw [hup]

/-- The device takes a command, and is about to say that it is where it is to go. -/
theorem comes_answer (echo : Echo session destination report) (hid : session.scooter = owned.scooter)
    (h : Comes n k p₀ owned (excess + 1) (.serving owned) (.running session due) ups
      [.ok (.dispatch ⟨owned.scooter, destination, none⟩)]) :
    ∃ due', Comes n k p₀ owned excess (.serving owned)
      (.sending session report [] due' (some .arrived)) ups [] := by
  obtain ⟨d, r, p, reach, hd, hg, hdev, hlink, seat, hq⟩ := h
  obtain ⟨moved, hmoved, htick⟩ := echo.answers
  have hmoving : moved.isMoving = true := by
    unfold Session.isMoving
    cases hm : moved.movement with
    | some movement => rfl
    | none =>
      simp only [Session.tick, hm] at htick
      cases htick
  let l : Link α := ⟨⟨ups, some k, false, false, none⟩, ⟨[], some k, false, false, none⟩⟩
  let due' := p.now + moved.profile.interval
  let p₁ : Pairing α := { p with device := .attached moved p.now, site := { p.site with link := l } }
  let p₂ : Pairing α := { p₁ with now := due' }
  let p₃ : Pairing α := { p₂ with
    device := .sending session report [] (due' + moved.profile.interval) (some .arrived) }
  have step₁ : p.step owned.scooter (.session .receive) = some p₁ := by
    simp only [step, hdev, Device.step, hlink, Channel.receive, Device.hear, hid, if_true, hmoved]
    rfl
  have step₂ : p₁.step owned.scooter (.clock due' p.wall) = some p₂ := by
    have hnow : p₁.now ≤ due' := Nat.le_add_right _ _
    simp only [step, hnow, if_true]
    rfl
  have step₃ : p₂.step owned.scooter (.session .tick) = some p₃ := by
    have hdue : (moved.isMoving && decide (due' ≤ due')) = true := by simp [hmoving]
    have hdevice : p₂.device = .running moved due' := rfl
    simp only [step, hdevice, Device.step]
    rw [if_pos hdue]
    simp only [Device.move, htick, Option.map_some]
    rfl
  have bound := bound_reach reach
  have reach₁ := reach.step (.session .receive) step₁ (show d + 0 ≤ r + 1 + n by omega)
  have reach₂ := reach₁.step (.clock due' p.wall) step₂ (bound_reach reach₁)
  have reach₃ := reach₂.step (.session .tick) step₃ (bound_reach reach₂)
  exact ⟨_, d, r + 1, p₃, reach₃, by omega, hg, rfl, rfl, seat, hq⟩

/-- The device gets its answer off. -/
theorem comes_deliver
    (h : Comes n k p₀ owned excess (.serving owned) (.sending session report [] due (some .arrived))
      ups downs) (hk : ups.length < k) :
    Comes n k p₀ owned excess (.serving owned) (.running session due) (ups ++ [.ok report]) downs := by
  obtain ⟨d, r, p, reach, hd, hg, hdev, hlink, seat, hq⟩ := h
  have hup : p.link.up = ⟨ups, some k, false, false, none⟩ := congrArg Link.up hlink
  have hsend : p.link.up.send (.ok report) =
      .sent ⟨ups ++ [.ok report], some k, false, false, none⟩ := by
    rw [hup, Channel.send_of_room hk]
  have hstep : p.step owned.scooter (.session .send) = some { p with
      device := .running session due
      site := { p.site with
        link := { p.link with up := ⟨ups ++ [.ok report], some k, false, false, none⟩ } } } := by
    simp only [step, hdev, Device.step, hsend]
    rfl
  refine ⟨d, r, _, reach.step (.session .send) hstep (bound_reach reach), hd, hg, rfl, ?_, seat, hq⟩
  show ({ p.link with up := _ } : Link α) = _
  rw [hlink]

/-- A command goes down and its answer stays on the way up. -/
theorem comes_round (echo : Echo session destination report) (hid : session.scooter = owned.scooter)
    (h : Comes n k p₀ owned excess (.serving owned) (.running session due) ups [])
    (hn : excess < n) (hk : ups.length < k) :
    ∃ due', Comes n k p₀ owned excess (.serving owned) (.running session due')
      (ups ++ [.ok report]) [] := by
  have hpass := comes_pass (comes_take h hn destination) (Nat.zero_lt_of_lt hk)
  obtain ⟨due', hanswer⟩ := comes_answer echo hid hpass
  exact ⟨due', comes_deliver hanswer hk⟩

/-- Answers fill the way up. -/
theorem fills_up (echo : Echo session destination report) (hid : session.scooter = owned.scooter)
    (h : Comes n k p₀ owned 0 (.serving owned) (.running session due) [] []) (hn : 0 < n) :
    ∀ j ≤ k, ∃ due' ups, ups.length = j ∧
      Comes n k p₀ owned 0 (.serving owned) (.running session due') ups [] := by
  intro j
  induction j with
  | zero => exact fun _ => ⟨due, [], rfl, h⟩
  | succ j ih =>
    intro hj
    obtain ⟨due', ups, hlength, hcomes⟩ := ih (by omega)
    obtain ⟨due'', hround⟩ := comes_round echo hid hcomes hn (by omega)
    refine ⟨due'', _, ?_, hround⟩
    rw [List.length_append, List.length_singleton, hlength]

/-- Commands fill the way down, while the device waits. -/
theorem fills_down (h : Comes n k p₀ owned 0 (.serving owned) device ups []) (hn : k < n)
    (destination : Position α) :
    ∀ j ≤ k, ∃ downs, downs.length = j ∧ Comes n k p₀ owned j (.serving owned) device ups downs := by
  intro j
  induction j with
  | zero => exact fun _ => ⟨[], rfl, h⟩
  | succ j ih =>
    intro hj
    obtain ⟨downs, hlength, hcomes⟩ := ih (by omega)
    have htake := comes_take hcomes (by omega) destination
    refine ⟨_, ?_, comes_pass htake (by omega)⟩
    rw [List.length_append, List.length_singleton, hlength]

/-- **A standstill comes about**: answers fill the way up, one more is in the device's hand; then
commands fill the way down, and one more is in the gateway's hand. -/
theorem stuck_comes (start : p₀.Attached buffer owned session)
    (echo : Echo session destination report) (hid : session.scooter = owned.scooter)
    (hn : max buffer 1 < n) : ∃ d r p, Reach n owned.scooter p₀ d r p ∧ p.Stuck := by
  have hpositive : 0 < max buffer 1 := by omega
  have hstart : Comes n (max buffer 1) p₀ owned 0 (.serving owned)
      (.running session (p₀.now + session.profile.interval)) [] [] :=
    ⟨0, 0, p₀, .start, rfl, stands_attached start⟩
  obtain ⟨due, ups, hups, hfull⟩ := fills_up echo hid hstart (by omega) (max buffer 1) (Nat.le_refl _)
  have hpass := comes_pass (comes_take hfull (by omega) destination) hpositive
  obtain ⟨due', hwaiting⟩ := comes_answer echo hid hpass
  obtain ⟨downs, hdowns, hblocked⟩ :=
    fills_down hwaiting hn destination (max buffer 1) (Nat.le_refl _)
  obtain ⟨d, r, p, reach, -, hstands⟩ := comes_take hblocked hn destination
  exact ⟨d, r, p, reach, hstands.stuck (by omega) (by omega)⟩

end Steps

/-- **When the two ends wait for each other.**  Take a device that is attached on a link of any buffer,
its gateway, and callers who dispatch it, in any order of steps.

* Both ends can come to wait for each other if and only if the callers let more commands be under way,
  dispatched and not received by the device, than one direction of the link holds.
* When they do, neither end ever moves again, whatever is dispatched and however much time passes.
* Nothing else holds them up: an end that waits to send is waited for, unless the other end can go on. -/
theorem standstill_iff (start : p₀.Attached buffer owned session)
    (hid : session.scooter = owned.scooter) {destination : Position α} {report : DeviceFrame α}
    (echo : Echo session destination report) :
    (∀ n, (∃ d r p, Reach n owned.scooter p₀ d r p ∧ p.Stuck) ↔ max buffer 1 < n) ∧
    ∀ n d r p, Reach n owned.scooter p₀ d r p →
      (p.Stuck → ∀ n' d' r' p', Reach n' owned.scooter p d' r' p' →
        p'.gateway = p.gateway ∧ p'.device = p.device ∧ p'.link = p.link) ∧
      (p.PumpWaits → p.SessionWaits ∨ ∃ c, (p.step owned.scooter (.session c)).isSome) ∧
      (p.SessionWaits → p.PumpWaits ∨ ∃ c, (p.step owned.scooter (.pump c)).isSome) := by
  have hpositive : 0 < max buffer 1 := by omega
  constructor
  · intro n
    constructor
    · intro h
      obtain ⟨d, r, p, reach, stuck⟩ := h
      have hmore := lt_of_stuck (sound_reach start reach) stuck
      have hbound := bound_reach reach
      omega
    · exact stuck_comes start echo hid
  · intro n d r p reach
    have sound := sound_reach start reach
    refine ⟨fun stuck n' d' r' p' => stuck_reach stuck, fun waits => ?_, fun waits => ?_⟩
    · by_cases hs : p.SessionWaits
      · exact .inl hs
      · exact .inr (session_goes_on sound hpositive waits hs)
    · by_cases hs : p.PumpWaits
      · exact .inl hs
      · exact .inr (pump_goes_on sound hpositive waits hs)

section Embedded

attribute [local instance] exactRat

/-- An embedded device of the small fleet and its gateway. -/
def embedded (buffer : Nat) : Pairing Rat :=
  let noon : Timestamp := ⟨2024, 5, 1, 12, 0, 0, 0, 0⟩
  let registry := ((Registry.create (.create 8)).claim noon 1).2
  { now := 0
    wall := noon
    site := ⟨⟨registry, .seeded [⟨1, "Segway", ⟨0, 0⟩, 80, none⟩] []⟩, .pair buffer⟩
    gateway := .serving ⟨1, 0⟩
    device := .attached (.attach 1 ⟨⟨0, 0⟩, 80⟩ ⟨1, 1, 0, 0⟩) 0 }

/-- With the buffer of embedded devices, 33 commands at once can bring a device and its gateway to a
standstill, and 32 cannot. -/
theorem standstill_embedded :
    (∃ d r p, Reach 33 1 (embedded 32) d r p ∧ p.Stuck) ∧
      ¬ ∃ d r p, Reach 32 1 (embedded 32) d r p ∧ p.Stuck := by
  have start : (embedded 32).Attached 32 ⟨1, 0⟩ (.attach 1 ⟨⟨0, 0⟩, 80⟩ ⟨1, 1, 0, 0⟩) :=
    ⟨rfl, rfl, rfl, ⟨_, rfl, rfl⟩, rfl⟩
  have echo : Echo (.attach 1 ⟨⟨0, 0⟩, 80⟩ ⟨1, 1, 0, 0⟩ : Session Rat) ⟨0, 0⟩
      (.tripEnded ⟨1, ⟨0, 0⟩, 80, .arrived, none⟩) :=
    ⟨⟨_, rfl, by decide +kernel⟩⟩
  obtain ⟨hiff, -⟩ := standstill_iff start rfl echo
  exact ⟨(hiff 33).mpr (by decide), fun h => absurd ((hiff 32).mp h) (by decide)⟩

end Embedded

end Pairing
end ScooterFleet
