import ScooterFleet.Kernel.Gateway
import ScooterFleet.Proofs.Hub.Seat
import ScooterFleet.Proofs.Registry.Call
import ScooterFleet.Proofs.Store.Records

/-!
# Nobody minds the viewers

The registry shows every position to the hub and never looks at it.  So a call, a wait, a rental and a
connection go on in the same way whatever the hub is; what they do to it is to publish, and nothing else.

* `withHub` — the same registry, kernel or connection in front of another hub;
* `Call.shown` / `Gateway.shown` — what a call or a step of a connection does to the hub;
* `perform_withHub`, `Wait.step_withHub`, `Rental.step_withHub`, `Gateway.step_withHub` — **the step is
  the same, and does the same to the other hub.**
-/

namespace ScooterFleet

variable {α : Type}

/-- A hub after some more operations. -/
def Hub.performAll (h : Hub α) (ops : List (Hub.Op α)) : Hub α := ops.foldl Hub.perform h

theorem Hub.after_append (buffer : Nat) (ops ops' : List (Hub.Op α)) :
    Hub.after buffer (ops ++ ops') = (Hub.after buffer ops).performAll ops' :=
  List.foldl_append

/-! ### The registry -/

namespace Registry

/-- The same registry in front of another hub. -/
def withHub (r : Registry α) (hub : Hub α) : Registry α := { r with hub }

variable (r : Registry α) (h : Hub α)

theorem register_withHub (time : Timestamp) (id : ScooterId) :
    (r.withHub h).register time id =
      (r.register time id).map fun (owned, r) => (owned, r.withHub h) := by
  have hc : (r.withHub h).isConnected id = r.isConnected id := rfl
  unfold register
  rw [hc]
  cases r.isConnected id <;> rfl

theorem registerFirstFree_withHub (time : Timestamp) (ids : List ScooterId) :
    (r.withHub h).registerFirstFree time ids =
      (r.registerFirstFree time ids).map fun (owned, r) => (owned, r.withHub h) := by
  have hc : ∀ id, (r.withHub h).isConnected id = r.isConnected id := fun _ => rfl
  unfold registerFirstFree
  simp only [hc]
  cases ids.find? fun id => !r.isConnected id <;> rfl

theorem dispatch_withHub (id : ScooterId) (destination : Position α) (trip : Option TripId) :
    (r.withHub h).dispatch id destination trip =
      (r.dispatch id destination trip).map (·.withHub h) := by
  have hs : (r.withHub h).sessions = r.sessions := rfl
  have hq : (r.withHub h).queues = r.queues := rfl
  unfold dispatch
  rw [hs, hq]
  cases r.sessions.get? id with
  | none => rfl
  | some slot =>
    dsimp only
    cases r.queues.get? slot.connection with
    | none => rfl
    | some queue =>
      dsimp only
      cases queue.send ⟨id, destination, trip⟩ <;> rfl

theorem begin_withHub (id : ScooterId) (trip : TripId) :
    (r.withHub h).begin id trip =
      (r.begin id trip).map fun (ticket, r) => (ticket, r.withHub h) := by
  have hc : (r.withHub h).isConnected id = r.isConnected id := rfl
  have ht : (r.withHub h).hasTrip id = r.hasTrip id := rfl
  unfold begin
  rw [hc, ht]
  cases r.isConnected id <;> cases r.hasTrip id <;> rfl

theorem interrupt_withHub (id : ScooterId) :
    (r.withHub h).interrupt id = (r.interrupt id).withHub h := by
  have hp : (r.withHub h).trips.get? id = r.trips.get? id := rfl
  unfold interrupt
  rw [hp]
  split <;> rfl

theorem unregister_withHub (id : ScooterId) :
    (r.withHub h).unregister id = (r.unregister id).withHub h := by
  cases hs : r.sessions.get? id with
  | none =>
    have hs' : (r.withHub h).sessions.get? id = none := hs
    rw [unregister_of_free hs, unregister_of_free hs']
  | some slot =>
    have hs' : (r.withHub h).sessions.get? id = some slot := hs
    rw [unregister_of_session hs, unregister_of_session hs', ← interrupt_withHub]
    rfl

theorem release_withHub (g : Registration) : (r.withHub h).release g = (r.release g).withHub h := by
  have howns : (r.withHub h).owns g = r.owns g := rfl
  cases ho : r.owns g with
  | true => rw [release_of_owns ho, release_of_owns (howns.trans ho), unregister_withHub]
  | false => rw [release_of_not_owns ho, release_of_not_owns (howns.trans ho)]

theorem abandon_withHub (t : Ticket) : (r.withHub h).abandon t = (r.abandon t).withHub h := by
  have hp : (r.withHub h).isPending t = r.isPending t := rfl
  unfold abandon
  rw [hp]
  split <;> rfl

theorem giveUp_withHub (t : Ticket) :
    (r.withHub h).giveUp t = ((r.giveUp t).1, (r.giveUp t).2.withHub h) :=
  Prod.ext rfl (abandon_withHub r h t)

theorem tripEnded_withHub (time : Timestamp) (report : TripReport α) :
    ((r.withHub h).tripEnded time report).2 = ((r.tripEnded time report).2).withHub h := by
  have hends : ((r.withHub h).see time report.scooter report.position).ends? report =
      (r.see time report.scooter report.position).ends? report := rfl
  simp only [tripEnded, hends]
  cases (r.see time report.scooter report.position).ends? report <;> rfl

/-- What a call does to the hub. -/
def Call.shown : Call α → List (Hub.Op α)
  | .telemetry _ m => [.publish m]
  | _ => []

/-- **A call does the same whatever the hub is, and shows it the same.** -/
theorem perform_withHub (c : Call α) :
    (r.withHub h).perform c = (r.perform c).withHub (h.performAll c.shown) := by
  cases c with
  | register time id =>
    simp only [perform, register_withHub]
    cases r.register time id <;> rfl
  | registerFirstFree time ids =>
    simp only [perform, registerFirstFree_withHub]
    cases r.registerFirstFree time ids <;> rfl
  | unregister id => exact unregister_withHub r h id
  | release g => exact release_withHub r h g
  | dispatch id destination trip =>
    simp only [perform, dispatch_withHub]
    cases r.dispatch id destination trip <;> rfl
  | telemetry time m => rfl
  | tripEnded time report => exact tripEnded_withHub r h time report
  | begin id trip =>
    simp only [perform, begin_withHub]
    cases r.begin id trip <;> rfl
  | giveUp t | abandon t => exact abandon_withHub r h t
  | take n =>
    have hr : (r.withHub h).receive n = r.receive n := rfl
    simp only [perform, hr]
    cases r.receive n <;> rfl
  | deafen n => rfl
  | dropQueue n => rfl

end Registry

/-! ### Waits and rentals -/

theorem Wait.step_withHub (now idle : Millis) (r : Registry α) (h : Hub α) (t : Ticket) (w : Wait)
    (c : Wait.Choice) : w.step now idle (r.withHub h) t c =
      (w.step now idle r t c).map fun (p, r) => (p, r.withHub h) := by
  cases c with
  | signal =>
    have hr : (r.withHub h).resolutions = r.resolutions := rfl
    simp only [Wait.step, hr]
    cases r.resolutions.get? t.trip <;> rfl
  | activity =>
    have ht : ticksOf (r.withHub h) t = ticksOf r t := rfl
    have hp : (r.withHub h).isPending t = r.isPending t := rfl
    simp only [Wait.step, ht, hp]
    cases w with
    | draining deadline => rfl
    | listening seen deadline =>
      dsimp only
      split
      · rfl
      · split
        · rfl
        · split <;> rfl
  | expiry =>
    have hm : w.mayExpire now (r.withHub h) t = w.mayExpire now r t := by cases w <;> rfl
    simp only [Wait.step, hm, Registry.giveUp_withHub]
    split <;> rfl

theorem Waiter.step_withHub (now idle : Millis) (r : Registry α) (h : Hub α) (t : Ticket)
    (w : Waiter α) (c : Wait.Choice) : w.step now idle (r.withHub h) t c =
      (w.step now idle r t c).map fun (w, r) => (w, r.withHub h) := by
  cases w with
  | finished signal => rfl
  | waiting w =>
    simp only [Waiter.step, Wait.step_withHub]
    cases w.step now idle r t c with
    | none => rfl
    | some x =>
      obtain ⟨p, r'⟩ := x
      cases p <;> rfl

namespace Kernel

/-- The same kernel in front of another hub. -/
def withHub (k : Kernel α) (hub : Hub α) : Kernel α :=
  { k with registry := k.registry.withHub hub }

theorem call_withHub {β : Type} {k k' : Kernel α} {op : Store.Op α β}
    {result : Except StoreFault β} (h : Hub α) (hc : k.call op = (result, k')) :
    (k.withHub h).call op = (result, k'.withHub h) := by
  cases hc
  rfl

end Kernel

namespace Rental

variable [Coordinate α]

theorem advance_withHub (m : Moment) (terms : RentalTerms α) (k : Kernel α) (h : Hub α)
    (q : RentalRequest) (p : Phase α) : advance m terms (k.withHub h) q p =
      (advance m terms k q p).map fun (p, k) => (p, k.withHub h) := by
  cases p with
  | checking =>
    rcases hc : k.call (Store.getScooter q.scooter) with ⟨_ | scooter, k'⟩
    · simp only [advance, hc, Kernel.call_withHub h hc]
      rfl
    · simp only [advance, hc, Kernel.call_withHub h hc]
      split <;> rfl
  | locating scooter =>
    rcases hc : k.call (Store.getStation q.station) with ⟨_ | station, k'⟩ <;>
      simp only [advance, hc, Kernel.call_withHub h hc] <;> rfl
  | claiming scooter station =>
    simp only [advance, Kernel.withHub, Registry.begin_withHub]
    cases k.registry.begin q.scooter m.fresh <;> rfl
  | opening d =>
    rcases hc : k.call (Store.recordSnapshot m.wall q.scooter d.origin d.scooter.battery) with
      ⟨_ | snapshot, k'⟩ <;> simp only [advance, hc, Kernel.call_withHub h hc] <;> rfl
  | dispatching d start =>
    simp only [advance, Kernel.withHub, Registry.dispatch_withHub]
    cases k.registry.dispatch q.scooter d.station.position (some d.ticket.trip) <;> rfl
  | closing d start a =>
    rcases hc : k.call (Store.recordSnapshot m.wall q.scooter a.position a.battery) with
      ⟨_ | snapshot, k'⟩ <;> simp only [advance, hc, Kernel.call_withHub h hc] <;> rfl
  | docking d start finish a =>
    rcases hc : k.call (Store.updateScooter q.scooter (statusUpdate d a)) with ⟨_ | record, k'⟩ <;>
      simp only [advance, hc, Kernel.call_withHub h hc] <;> rfl
  | ordering d start finish a =>
    rcases hc : k.call (Store.createOrder m.wall (orderRequest q d start finish a)) with
      ⟨_ | order, k'⟩ <;> simp only [advance, hc, Kernel.call_withHub h hc] <;> rfl
  | releasing t fault =>
    simp only [advance, Kernel.withHub, Registry.abandon_withHub]
    rfl
  | observing scooter station t => rfl
  | waiting d start wait => rfl
  | finished result => rfl

/-- **A rental goes on in the same way whatever the hub is, and does nothing to it.** -/
theorem step_withHub (m : Moment) (terms : RentalTerms α) (k : Kernel α) (h : Hub α) (r : Rental α)
    (c : Choice) : r.step m terms (k.withHub h) c =
      (r.step m terms k c).map fun (r, k) => (r, k.withHub h) := by
  cases c with
  | proceed =>
    simp only [step, advance_withHub, Option.map_map]
    rfl
  | wake choice =>
    simp only [step]
    split
    · next d start wait hp =>
      simp only [Kernel.withHub, Wait.step_withHub]
      cases wait.step m.now terms.idle k.registry d.ticket choice with
      | none => rfl
      | some x =>
        obtain ⟨p, r'⟩ := x
        cases p <;> rfl
    · rfl

omit [Coordinate α] in
theorem cancel_withHub (k : Kernel α) (h : Hub α) (r : Rental α) :
    r.cancel (k.withHub h) = (r.cancel k).withHub h := by
  unfold cancel
  cases r.ticket? with
  | none => rfl
  | some t =>
    simp only [Kernel.withHub, Registry.abandon_withHub]

end Rental

/-! ### Connections -/

namespace Gateway

/-- The same connection in front of another hub. -/
def Site.withHub (s : Site α) (hub : Hub α) : Site α := { s with kernel := s.kernel.withHub hub }

/-- What a step of a connection does to the hub. -/
def shown : Gateway α → Choice → List (Hub.Op α)
  | .hearing owned (.telemetry m), .proceed => if m.scooter = owned.scooter then [.publish m] else []
  | _, _ => []

variable (s : Site α) (h : Hub α)

theorem send_withHub (frame : ServerFrame α) {sent : Site α → Gateway α × Site α}
    {failed : LinkFault → Site α → Gateway α × Site α}
    (hsent : ∀ s, sent (Site.withHub s h) = ((sent s).1, (sent s).2.withHub h))
    (hfailed : ∀ fault s, failed fault (Site.withHub s h) =
      ((failed fault s).1, (failed fault s).2.withHub h)) :
    send (s.withHub h) frame sent failed =
      (send s frame sent failed).map fun (g, s) => (g, s.withHub h) := by
  have hl : (s.withHub h).link = s.link := rfl
  unfold send
  rw [hl]
  cases s.link.down.send (.ok frame) with
  | sent down => exact congrArg some (hsent { s with link := { s.link with down } })
  | failed fault => exact congrArg some (hfailed fault s)
  | waits => rfl

theorem apply_withHub (wall : Timestamp) (owned : Registration) (r : Registry α)
    (frame : DeviceFrame α) : apply wall owned (r.withHub h) frame =
      (apply wall owned r frame).withHub (h.performAll (shown (.hearing owned frame) .proceed)) := by
  cases frame with
  | hello scooter => rfl
  | telemetry m =>
    simp only [apply, shown]
    split <;> rfl
  | tripEnded report =>
    simp only [apply]
    split
    · exact Registry.tripEnded_withHub r h wall report
    · rfl

theorem advance_withHub (wall : Timestamp) (g : Gateway α) : g.advance wall (s.withHub h) =
    (g.advance wall s).map fun (g', s) => (g', s.withHub (h.performAll (g.shown .proceed))) := by
  cases g with
  | checking id =>
    rcases hc : s.kernel.call (Store.getScooter id) with ⟨_ | scooter, k⟩ <;>
      simp only [advance, Site.withHub, hc, Kernel.call_withHub h hc] <;> rfl
  | registering id =>
    simp only [advance, Site.withHub, Kernel.withHub, Registry.register_withHub]
    cases s.kernel.registry.register wall id <;> rfl
  | listing =>
    rcases hc : s.kernel.call Store.listScooters with ⟨_ | scooters, k⟩ <;>
      simp only [advance, Site.withHub, hc, Kernel.call_withHub h hc] <;> rfl
  | choosing candidates =>
    simp only [advance, Site.withHub, Kernel.withHub, Registry.registerFirstFree_withHub]
    cases s.kernel.registry.registerFirstFree wall candidates <;> rfl
  | looking owned =>
    rcases hc : s.kernel.call (Store.getScooter owned.scooter) with ⟨_ | scooter, k⟩ <;>
      simp only [advance, Site.withHub, hc, Kernel.call_withHub h hc] <;> rfl
  | welcoming owned state => exact send_withHub s h _ (fun _ => rfl) fun _ _ => rfl
  | forwarding owned command => exact send_withHub s h _ (fun _ => rfl) fun _ _ => rfl
  | refusing fault =>
    have hfinish : ∀ s : Site α, finish (s.withHub h) (.error fault) =
        ((finish s (.error fault)).1, (finish s (.error fault)).2.withHub h) := fun _ => rfl
    simp only [advance]
    exact send_withHub s h _ hfinish fun _ => hfinish
  | hearing owned frame =>
    simp only [advance, Site.withHub, Kernel.withHub, apply_withHub]
    rfl
  | leaving owned result =>
    simp only [advance, Site.free, Site.withHub, Kernel.withHub, Registry.release_withHub]
    rfl
  | locating owned scooter => rfl
  | greeting deadline => rfl
  | serving owned => rfl
  | finished result => rfl

theorem hear_withHub (owned : Registration) (m : Except LinkFault (DeviceFrame α)) :
    hear owned (s.withHub h) m = ((hear owned s m).1, (hear owned s m).2.withHub h) := by
  unfold hear
  split <;> rfl

theorem greet_withHub (m : Except LinkFault (DeviceFrame α)) :
    greet (s.withHub h) m = ((greet s m).1, (greet s m).2.withHub h) := by
  unfold greet
  split <;> rfl

/-- **A connection goes on in the same way whatever the hub is, and shows it the same.** -/
theorem step_withHub (now : Millis) (wall : Timestamp) (g : Gateway α) (c : Choice) :
    g.step now wall (s.withHub h) c =
      (g.step now wall s c).map fun (g', s) => (g', s.withHub (h.performAll (g.shown c))) := by
  cases c with
  | proceed => exact advance_withHub s h wall g
  | command =>
    cases g with
    | serving owned =>
      have hr : (s.withHub h).kernel.registry.receive owned.connection =
          s.kernel.registry.receive owned.connection := rfl
      simp only [step, hr]
      cases s.kernel.registry.receive owned.connection <;> rfl
    | _ => rfl
  | inbound =>
    have hl : (s.withHub h).link = s.link := rfl
    cases g with
    | serving owned =>
      simp only [step, hl]
      cases s.link.up.receive with
      | item m up => exact congrArg some (hear_withHub { s with link := { s.link with up } } h owned m)
      | ended => rfl
      | waits => rfl
    | greeting deadline =>
      simp only [step, hl]
      cases s.link.up.receive with
      | item m up => exact congrArg some (greet_withHub { s with link := { s.link with up } } h m)
      | ended => rfl
      | waits => rfl
    | _ => rfl
  | expiry =>
    cases g with
    | greeting deadline =>
      simp only [step]
      split <;> rfl
    | _ => rfl

theorem cancel_withHub (g : Gateway α) :
    g.cancel (s.withHub h) = (g.cancel s).withHub h := by
  unfold cancel
  cases g.owned? with
  | none => rfl
  | some owned =>
    simp only [Site.free, Site.withHub, Kernel.withHub, Registry.release_withHub]
    rfl

end Gateway

end ScooterFleet
