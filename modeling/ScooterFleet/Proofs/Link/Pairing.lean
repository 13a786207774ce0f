import ScooterFleet.Proofs.Fleet.Queue
import ScooterFleet.Proofs.Link.Ends

/-!
# A device and its gateway

A gateway and its device at the two ends of a bounded link, and everybody who dispatches the scooter, in
any order of steps.

* `Pairing` / `Pairing.Reach` — the pair, and its runs while no more than so many commands are under way;
* `Sound` — the invariant: what the ends and the link look like, and that every command that was
  dispatched was received by the device or is in the queue, in the gateway's hand or on the link;
* `sound_step` / `sound_reach` — **it is kept by every event, and by every run.**
-/

namespace ScooterFleet

variable {α : Type}

/-! ### Pairs -/

/-- A gateway and a device at the two ends of a link. -/
structure Pairing (α : Type) where
  now : Millis
  wall : Timestamp
  site : Gateway.Site α
  gateway : Gateway α
  device : Device α

namespace Pairing

/-- What happens next. -/
inductive Event (α : Type) where
  | pump (choice : Gateway.Choice)
  | session (choice : Device.Choice)
  /-- Anybody dispatches the scooter that the gateway serves. -/
  | dispatch (destination : Position α) (trip : Option TripId)
  | clock (now : Millis) (wall : Timestamp)

def registry (p : Pairing α) : Registry α := p.site.kernel.registry

def link (p : Pairing α) : Link α := p.site.link

/-- The dispatches of an event. -/
def Event.dispatched : Event α → Nat
  | .dispatch _ _ => 1
  | _ => 0

/-- The commands that the device takes in an event. -/
def Event.received : Event α → Nat
  | .session .receive => 1
  | _ => 0

/-- The commands that were dispatched to a connection and not received by its device. -/
def underWay (p : Pairing α) (n : ConnectionId) : Nat :=
  (p.registry.commands n).length + p.gateway.inHand + p.link.down.items.length

/-- What a pair looks like, whose link holds `k` frames in each direction. -/
structure Sound (k : Nat) (owned : Registration) (d r : Nat) (p : Pairing α) : Prop where
  up : p.link.up.Holds k
  down : p.link.down.Holds k
  gateway : p.gateway.Serves owned ∨ (∃ result, p.gateway = .leaving owned result) ∨
    (∃ result, p.gateway = .finished result) ∧ p.link.up.closed = true
  device : p.device.IsAttached ∨
    (∃ result, p.device = .finished result) ∧ p.link.down.closed = true
  seat : p.gateway.Serves owned → ∃ slot, p.registry.sessions.get? owned.scooter = some slot ∧
    slot.connection = owned.connection
  account : p.gateway.Serves owned → p.device.IsAttached → d = r + p.underWay owned.connection

/-! ### What events do to a pair -/

variable {k d r : Nat} {owned : Registration} {p p' : Pairing α}

/-- A dispatch is one more command under way. -/
theorem Sound.dispatch (h : Sound k owned d r p) {destination : Position α} {trip : Option TripId}
    {registry : Registry α} (taken : p.registry.dispatch owned.scooter destination trip = .ok registry) :
    Sound k owned (d + 1) r { p with site := p.site.withRegistry registry } where
  up := h.up
  down := h.down
  gateway := h.gateway
  device := h.device
  seat := by
    intro hg
    obtain ⟨slot, queue, queue', -, -, -, rfl⟩ := Registry.dispatch_eq_ok taken
    exact h.seat hg
  account := by
    intro hg hd
    obtain ⟨slot, hs, hcommands⟩ := Registry.commands_dispatch taken
    obtain ⟨slot', hs', hconnection⟩ := h.seat hg
    rw [hs'] at hs
    cases hs
    have hqueue := hcommands owned.connection
    rw [if_pos hconnection] at hqueue
    have hold := h.account hg hd
    unfold underWay at hold ⊢
    show d + 1 = r + ((registry.commands owned.connection).length + p.gateway.inHand +
      p.link.down.items.length)
    rw [hqueue, List.length_append, List.length_singleton]
    omega

/-- A step of the gateway moves a command on, or none. -/
theorem Sound.pump (h : Sound k owned d r p) (hg : p.gateway.Serves owned) {g' : Gateway α}
    {site : Gateway.Site α} (hp : Gateway.Pumps owned p.site p.gateway g' site) :
    Sound k owned d r { p with gateway := g', site } := by
  obtain ⟨now, wall, s, g, device⟩ := p
  have hseat := h.seat hg
  have hold := h.account hg
  cases hp with
  | @takes command rest queue =>
    refine ⟨h.up, h.down, .inl rfl, h.device, fun _ => hseat, fun _ hd => ?_⟩
    have hcommands : s.kernel.registry.commands owned.connection = command :: rest.items := by
      unfold Registry.receive at queue
      split at queue
      · next q hq => rw [Registry.commands_of_get? hq, Channel.items_of_receive queue]
      · cases queue
    have hrest : (s.kernel.registry.leave owned.connection rest).commands owned.connection =
        rest.items := by
      rw [Registry.commands_insert rfl, if_pos rfl]
    have hbalance := hold hd
    simp only [underWay, registry, link, Gateway.inHand, Gateway.Site.withRegistry, hcommands, hrest,
      List.length_cons] at hbalance ⊢
    omega
  | @hears m up g' inbound next =>
    have hup := Channel.holds_of_receive h.up inbound
    refine ⟨hup, h.down, ?_, h.device, fun _ => hseat, fun hg' hd => ?_⟩
    · rcases next with rfl | ⟨frame, rfl⟩ | ⟨result, rfl⟩
      · exact .inl rfl
      · exact .inl rfl
      · exact .inr (.inl ⟨result, rfl⟩)
    · have hbalance := hold hd
      rcases next with rfl | ⟨frame, rfl⟩ | ⟨result, rfl⟩
      · exact hbalance
      · exact hbalance
      · exact hg'.elim
  | @sends command down sent =>
    obtain ⟨hdown, hopen⟩ := Channel.holds_of_sent h.down sent
    refine ⟨h.up, hdown, .inl rfl, ?_, fun _ => hseat, fun _ hd => ?_⟩
    · rcases h.device with hd | ⟨-, hclosed⟩
      · exact .inl hd
      · exact absurd (hopen.symm.trans hclosed) (by decide)
    · have hbalance := hold hd
      simp only [underWay, registry, link, Gateway.inHand, Channel.items_of_sent sent,
        List.length_append, List.length_singleton] at hbalance ⊢
      omega
  | @applies frame wall' =>
    obtain ⟨hsessions, hqueues⟩ := Gateway.apply_leaves wall' owned s.kernel.registry frame
    refine ⟨h.up, h.down, .inl rfl, h.device, fun _ => ?_, fun _ hd => ?_⟩
    · obtain ⟨slot, hs, hconnection⟩ := hseat
      exact ⟨slot, (congrArg (·.get? owned.scooter) hsessions).trans hs, hconnection⟩
    · have hbalance := hold hd
      have hcommands := Registry.commands_congr hqueues owned.connection
      simp only [underWay, registry, link, Gateway.inHand, Gateway.Site.withRegistry,
        hcommands] at hbalance ⊢
      exact hbalance
  | @ends g result =>
    exact ⟨h.up, h.down, .inr (.inl ⟨result, rfl⟩), h.device, fun hg' => hg'.elim,
      fun hg' => hg'.elim⟩

/-- A gateway that leaves takes its end of the link with it. -/
theorem Sound.leave (h : Sound k owned d r p) (result : Except DeviceFault ScooterId) :
    Sound k owned d r { p with
      gateway := (Gateway.finish (p.site.free owned) result).1
      site := (Gateway.finish (p.site.free owned) result).2 } where
  up := ⟨h.up.capacity, h.up.fuse⟩
  down := ⟨h.down.capacity, h.down.fuse⟩
  gateway := .inr (.inr ⟨⟨result, rfl⟩, rfl⟩)
  device := h.device
  seat := fun hg => hg.elim
  account := fun hg => hg.elim

/-- A step of the device takes a command from the link, or none. -/
theorem Sound.drive (h : Sound k owned d r p) {c : Device.Choice} {device : Device α} {l : Link α}
    (hd : p.device.IsAttached) (hp : Device.Drives p.link p.device c device l) :
    Sound k owned d (r + (Event.session c : Event α).received)
      { p with device, site := { p.site with link := l } } := by
  obtain ⟨now, wall, s, g, d₀⟩ := p
  have hold := fun hg => h.account hg hd
  cases hp with
  | @receives session due m down d' inbound attached =>
    have hdown := Channel.holds_of_receive h.down inbound
    refine ⟨h.up, hdown, h.gateway, .inl attached, h.seat, fun hg _ => ?_⟩
    have hbalance := hold hg
    have hitems : s.link.down.items = m :: down.items := Channel.items_of_receive inbound
    simp only [underWay, registry, link, Event.received, hitems, List.length_cons] at hbalance ⊢
    omega
  | ticks attached => exact ⟨h.up, h.down, h.gateway, .inl attached, h.seat, fun hg _ => hold hg⟩
  | @sends session frame more due outcome up d' sent attached =>
    obtain ⟨hup, hopen⟩ := Channel.holds_of_sent h.up sent
    refine ⟨hup, h.down, ?_, .inl attached, h.seat, fun hg _ => hold hg⟩
    rcases h.gateway with hg | hg | ⟨-, hclosed⟩
    · exact .inl hg
    · exact .inr (.inl hg)
    · exact absurd (hopen.symm.trans hclosed) (by decide)
  | @ends d₀ c result l' before =>
    have hlink : l'.up.Holds k ∧ l'.down.Holds k ∧
        (s.link.up.closed = true → l'.up.closed = true) := by
      rcases before with rfl | ⟨m, down, inbound, rfl⟩ | ⟨frame, up, sent, rfl⟩
      · exact ⟨h.up, h.down, id⟩
      · exact ⟨h.up, Channel.holds_of_receive h.down inbound, id⟩
      · obtain ⟨hup, hopen⟩ := Channel.holds_of_sent h.up sent
        exact ⟨hup, h.down, fun hclosed => absurd (hopen.symm.trans hclosed) (by decide)⟩
    obtain ⟨hup, hdown, hclosed⟩ := hlink
    refine ⟨⟨hup.capacity, hup.fuse⟩, ⟨hdown.capacity, hdown.fuse⟩, ?_, .inr ⟨⟨result, rfl⟩, rfl⟩,
      h.seat, fun _ hd => hd.elim⟩
    rcases h.gateway with hg | hg | ⟨hg, hc⟩
    · exact .inl hg
    · exact .inr (.inl hg)
    · exact .inr (.inr ⟨hg, hclosed hc⟩)

/-- A device that is attached, on a link inside one process, and its gateway. -/
structure Attached (buffer : Nat) (owned : Registration) (session : Session α) (p : Pairing α) :
    Prop where
  gateway : p.gateway = .serving owned
  device : p.device = .attached session p.now
  link : p.link = .pair buffer
  seat : ∃ slot, p.registry.sessions.get? owned.scooter = some slot ∧
    slot.connection = owned.connection
  queue : p.registry.queues.get? owned.connection = some .unbounded

variable {n buffer : Nat} {p₀ : Pairing α} {session : Session α}

theorem sound_attached (h : p₀.Attached buffer owned session) :
    Sound (max buffer 1) owned 0 0 p₀ where
  up := by
    rw [h.link]
    exact ⟨rfl, rfl⟩
  down := by
    rw [h.link]
    exact ⟨rfl, rfl⟩
  gateway := .inl (by rw [h.gateway]; rfl)
  device := .inl (by rw [h.device]; trivial)
  seat := fun _ => h.seat
  account := by
    intro _ _
    simp only [underWay, Registry.commands_of_get? h.queue, h.gateway, h.link]
    rfl

/-! ### Runs -/

variable [Coordinate α]

/-- One event at a pair that serves this scooter; none if it is not enabled. -/
def step (scooter : ScooterId) (p : Pairing α) : Event α → Option (Pairing α)
  | .pump c => (p.gateway.step p.now p.wall p.site c).map fun (gateway, site) => { p with gateway, site }
  | .session c => (p.device.step p.now p.link c).map fun (device, link) =>
    { p with device, site := { p.site with link } }
  | .dispatch destination trip =>
    match p.registry.dispatch scooter destination trip with
    | .ok registry => some { p with site := p.site.withRegistry registry }
    | .error _ => none
  | .clock now wall => if p.now ≤ now then some { p with now, wall } else none

/-- What a pair comes to while nobody lets more than `n` commands be under way, with the number of
commands that were dispatched, and received by the device. -/
inductive Reach (n : Nat) (scooter : ScooterId) (p₀ : Pairing α) : Nat → Nat → Pairing α → Prop
  | start : Reach n scooter p₀ 0 0 p₀
  | step {d r : Nat} {p p' : Pairing α} (e : Event α) (reach : Reach n scooter p₀ d r p)
      (step : p.step scooter e = some p') (bound : d + e.dispatched ≤ r + e.received + n) :
      Reach n scooter p₀ (d + e.dispatched) (r + e.received) p'

/-- **One event keeps a pair sound.** -/
theorem sound_step (h : Sound k owned d r p) {e : Event α} (hstep : p.step owned.scooter e = some p') :
    Sound k owned (d + e.dispatched) (r + e.received) p' := by
  cases e with
  | pump c =>
    simp only [step, Option.map_eq_some_iff, Prod.exists] at hstep
    obtain ⟨g', site, hg, rfl⟩ := hstep
    rcases h.gateway with hs | ⟨result, hs⟩ | ⟨⟨result, hs⟩, -⟩
    · exact h.pump hs (Gateway.pumps_of_step hg hs)
    · rw [hs] at hg
      cases c <;> cases hg
      exact h.leave _
    · rw [hs] at hg
      cases c <;> cases hg
  | session c =>
    simp only [step, Option.map_eq_some_iff, Prod.exists] at hstep
    obtain ⟨device, l, hd, rfl⟩ := hstep
    rcases h.device with ha | ⟨⟨result, ha⟩, -⟩
    · exact h.drive ha (Device.drives_of_step hd ha)
    · rw [ha] at hd
      cases c <;> cases hd
  | dispatch destination trip =>
    simp only [step] at hstep
    split at hstep
    · next registry taken =>
      cases hstep
      exact h.dispatch taken
    · cases hstep
  | clock now wall =>
    simp only [step] at hstep
    split at hstep
    · cases hstep
      exact ⟨h.up, h.down, h.gateway, h.device, h.seat, h.account⟩
    · cases hstep

/-- **A pair stays sound.**  By induction over the run. -/
theorem sound_reach (start : p₀.Attached buffer owned session)
    (reach : Reach n owned.scooter p₀ d r p) : Sound (max buffer 1) owned d r p := by
  induction reach with
  | start => exact sound_attached start
  | step e reach step bound ih => exact sound_step ih step

theorem bound_reach {scooter : ScooterId} (reach : Reach n scooter p₀ d r p) : d ≤ r + n := by
  cases reach with
  | start => exact Nat.zero_le _
  | step e reach step bound => exact bound

end Pairing
end ScooterFleet
