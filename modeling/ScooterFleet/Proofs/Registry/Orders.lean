import ScooterFleet.Proofs.Fleet.Queue
import ScooterFleet.Proofs.Registry.Tenure

/-!
# What is ordered of a connection

A connection gets its commands through a queue that outlasts its session: whoever removes the session
ends the queue, and what is in it stays until it is received.  A newer connection of the same scooter has
a queue of its own.

* `accepted?` — the command that a call orders of a registration;
* `Tenant` — a connection with its number and its queue, whether its session is there or not;
* `Tenant.orders` — **whatever others call, the queue keeps what it holds and gets what is accepted**;
* `dispatch_refused` — a dispatch that is refused leaves everything as it is.
-/

namespace ScooterFleet
namespace Registry

variable {α : Type} {r r' : Registry α} {owned : Registration}

/-- What is done to a queue at its lower end, where the commands are received. -/
def Call.Receives (n : ConnectionId) : Call α → Prop
  | .take n' | .deafen n' | .dropQueue n' => n' = n
  | _ => False

instance (n : ConnectionId) : (c : Call α) → Decidable (c.Receives n)
  | .take n' | .deafen n' | .dropQueue n' => inferInstanceAs (Decidable (n' = n))
  | .register _ _ | .registerFirstFree _ _ | .unregister _ | .release _ | .dispatch _ _ _
  | .telemetry _ _ | .tripEnded _ _ | .begin _ _ | .giveUp _ | .abandon _ =>
    inferInstanceAs (Decidable False)

/-- The command that a call orders of this registration: a dispatch that is taken while the registration
holds the slot. -/
def accepted? (r : Registry α) (owned : Registration) : Call α → Option (Dispatch α)
  | .dispatch id destination trip =>
    match r.dispatch id destination trip with
    | .ok _ => if r.owner id = some owned then some ⟨id, destination, trip⟩ else none
    | .error _ => none
  | _ => none

/-- A dispatch that is refused names the scooter, and leaves everything as it is. -/
theorem dispatch_refused {id : ScooterId} {destination : Position α} {trip : Option TripId}
    {fault : RegistryFault} (h : r.dispatch id destination trip = .error fault) :
    fault = .notRegistered id ∧ r.perform (.dispatch id destination trip) = r := by
  refine ⟨?_, by simp only [perform, h]⟩
  unfold dispatch at h
  split at h
  · cases h
    rfl
  · split at h
    · cases h
      rfl
    · split at h <;> cases h
      rfl

/-- A connection with its queue.  Its session may have been removed; then nothing is behind what the
queue holds. -/
structure Tenant (r : Registry α) (owned : Registration) : Prop where
  /-- Its number is nobody else's. -/
  alone : ∀ id g, r.owner id = some g → g.connection = owned.connection → g = owned
  number : owned.connection < r.fresh
  queue : ∃ q, r.queues.get? owned.connection = some q ∧
    (r.owner owned.scooter ≠ some owned → q.ended = true)

theorem Registered.tenant (h : Registered r owned) : Tenant r owned := by
  obtain ⟨q, hq, -⟩ := h.queue
  exact ⟨h.alone, h.number, q, hq, fun removed => absurd h.owner removed⟩

/-- The connection is still a tenant, and these commands are behind those that it had. -/
structure Orders (r r' : Registry α) (owned : Registration) (ms : List (Dispatch α)) : Prop where
  tenant : Tenant r' owned
  commands : r'.commands owned.connection = r.commands owned.connection ++ ms

namespace Tenant

/-- What leaves the sessions and the queue. -/
theorem aside (h : Tenant r owned) (sessions : r'.sessions = r.sessions) (fresh : r.fresh ≤ r'.fresh)
    (queue : r'.queues.get? owned.connection = r.queues.get? owned.connection) :
    Orders r r' owned [] where
  tenant := by
    have howner : ∀ id, r'.owner id = r.owner id := fun id => by rw [owner, owner, sessions]
    obtain ⟨q, hq, hended⟩ := h.queue
    refine ⟨fun id g hg => h.alone id g (howner id ▸ hg), Nat.lt_of_lt_of_le h.number fresh, q,
      queue.trans hq, ?_⟩
    intro removed
    exact hended (howner owned.scooter ▸ removed)
  commands := by
    rw [List.append_nil, Registry.commands, Registry.commands, queue]

theorem refl (h : Tenant r owned) : Orders r r owned [] := h.aside rfl (Nat.le_refl _) rfl

/-- A newer connection has a queue of its own. -/
theorem claim (h : Tenant r owned) (time : Timestamp) {id : ScooterId}
    (free : r.isConnected id = false) : Orders r (r.claim time id).2 owned [] := by
  have hqueue : (r.claim time id).2.queues.get? owned.connection =
      r.queues.get? owned.connection :=
    Table.get?_insert_of_ne _ _ (Nat.ne_of_gt h.number)
  have hnew : (r.claim time id).1.connection ≠ owned.connection := Nat.ne_of_gt h.number
  obtain ⟨q, hq, hended⟩ := h.queue
  refine ⟨⟨?_, Nat.lt_succ_of_lt h.number, q, hqueue.trans hq, ?_⟩, ?_⟩
  · intro id' g hg hn
    rw [owner_claim] at hg
    split at hg
    · cases hg
      exact absurd hn hnew
    · exact h.alone id' g hg hn
  · intro removed
    refine hended fun held => removed ?_
    -- the slot that is claimed was not its own, for it was free
    have hother : (r.claim time id).1.scooter ≠ owned.scooter := by
      intro he
      have hc : r.isConnected owned.scooter = true := isConnected_iff_owner.mpr ⟨owned, held⟩
      have hid : id = owned.scooter := he
      rw [hid, hc] at free
      cases free
    rw [owner_claim, if_neg hother, held]
  · rw [List.append_nil, Registry.commands, Registry.commands, hqueue]

/-- Whoever removes the session ends the queue, and leaves what it holds. -/
theorem unregister (h : Tenant r owned) (id : ScooterId) : Orders r (r.unregister id) owned [] := by
  cases hs : r.sessions.get? id with
  | none =>
    rw [unregister_of_free hs]
    exact h.refl
  | some slot =>
    have hslot : r.owner id = some ⟨id, slot.connection⟩ := by rw [owner, hs]; rfl
    have hqueue : (r.unregister id).queues.get? owned.connection =
        if slot.connection = owned.connection then
          (r.queues.get? owned.connection).map Channel.finish
        else r.queues.get? owned.connection := by
      rw [unregister_of_session hs, queues_interrupt]
      exact Table.get?_modify _ _ _ _
    obtain ⟨q, hq, hended⟩ := h.queue
    refine ⟨⟨?_, (fresh_unregister r id).symm ▸ h.number, ?_⟩, ?_⟩
    · intro id' g hg hn
      rw [owner_unregister] at hg
      split at hg
      · cases hg
      · exact h.alone id' g hg hn
    · rw [hqueue, hq]
      by_cases hn : slot.connection = owned.connection
      · rw [if_pos hn]
        exact ⟨q.finish, rfl, fun _ => rfl⟩
      · rw [if_neg hn]
        refine ⟨q, rfl, fun removed => hended fun held => removed ?_⟩
        have hother : id ≠ owned.scooter := by
          rintro rfl
          rw [hslot, Option.some.injEq] at held
          exact hn (congrArg Registration.connection held)
        rw [owner_unregister, if_neg hother, held]
    · rw [List.append_nil, commands_unregister]

/-- A dispatch that is taken is ordered of the one connection that holds the slot. -/
theorem dispatch (h : Tenant r owned) (id : ScooterId) (destination : Position α)
    (trip : Option TripId) :
    Orders r (r.perform (.dispatch id destination trip)) owned
      (r.accepted? owned (.dispatch id destination trip)).toList := by
  cases hd : r.dispatch id destination trip with
  | error fault =>
    simp only [accepted?, perform, hd]
    exact h.refl
  | ok r' =>
    obtain ⟨slot, queue, queue', hs, hq', hsend, rfl⟩ := dispatch_eq_ok hd
    have hslot : r.owner id = some ⟨id, slot.connection⟩ := by rw [owner, hs]; rfl
    have hmine : r.owner id = some owned ↔ slot.connection = owned.connection := by
      rw [hslot, Option.some.injEq]
      exact ⟨congrArg Registration.connection, h.alone id _ hslot⟩
    simp only [accepted?, perform, hd, hmine]
    by_cases hn : slot.connection = owned.connection
    · rw [if_pos hn]
      rw [hn] at hq'
      obtain ⟨q, hq, hended⟩ := h.queue
      obtain rfl : q = queue := Option.some.inj (hq.symm.trans hq')
      refine ⟨⟨h.alone, h.number, queue', ?_, ?_⟩, ?_⟩
      · rw [hn]
        exact Table.get?_insert_self _ _ _
      · intro removed
        rw [(Channel.ends_of_sent hsend).1]
        exact hended removed
      · rw [commands_insert rfl, if_pos hn, Channel.items_of_sent hsend, commands_of_get? hq]
        rfl
    · rw [if_neg hn]
      exact h.aside rfl (Nat.le_refl _) (Table.get?_insert_of_ne _ _ hn)

/-- **Whatever others call, the queue keeps what it holds and gets what is accepted.** -/
theorem orders (h : Tenant r owned) {c : Call α} (others : ¬ c.Receives owned.connection) :
    Orders r (r.perform c) owned (r.accepted? owned c).toList := by
  cases c with
  | register time id =>
    rcases perform_register r time id with he | ⟨free, he⟩ <;> rw [he]
    · exact h.refl
    · exact h.claim time free
  | registerFirstFree time ids =>
    rcases perform_registerFirstFree r time ids with he | ⟨id, free, he⟩ <;> rw [he]
    · exact h.refl
    · exact h.claim time free
  | unregister id => exact h.unregister id
  | release g =>
    show Orders r (r.release g) owned []
    cases ho : r.owns g with
    | true =>
      rw [release_of_owns ho]
      exact h.unregister g.scooter
    | false =>
      rw [release_of_not_owns ho]
      exact h.refl
  | dispatch id destination trip => exact h.dispatch id destination trip
  | telemetry time m => exact h.aside rfl (Nat.le_refl _) rfl
  | tripEnded time report =>
    rcases perform_tripEnded r time report with ⟨he, -⟩ | ⟨p, -, -, he⟩ <;> rw [he] <;>
      exact h.aside rfl (Nat.le_refl _) rfl
  | begin id trip =>
    rcases perform_begin r id trip with he | ⟨-, -, he⟩ <;> rw [he]
    · exact h.refl
    · exact h.aside rfl (Nat.le_refl _) rfl
  | giveUp t | abandon t =>
    show Orders r (r.abandon t) owned []
    rcases abandon_cases r t with he | ⟨-, he⟩ <;> rw [he]
    · exact h.refl
    · exact h.aside rfl (Nat.le_refl _) rfl
  | take n =>
    rcases perform_take r n with he | ⟨queue, command, rest, hq, hreceive, he⟩ <;> rw [he]
    · exact h.refl
    · exact h.aside rfl (Nat.le_refl _) (Table.get?_insert_of_ne _ _ others)
  | deafen n =>
    exact h.aside rfl (Nat.le_refl _) ((Table.get?_modify r.queues n _ _).trans (if_neg others))
  | dropQueue n => exact h.aside rfl (Nat.le_refl _) (Table.get?_erase_of_ne r.queues others)

/-- The connection receives a command, in front of the others. -/
theorem receive (h : Tenant r owned) {command : Dispatch α} {rest : Channel (Dispatch α)}
    (hr : r.receive owned.connection = .item command rest) :
    Tenant (r.leave owned.connection rest) owned ∧
      r.commands owned.connection =
        command :: (r.leave owned.connection rest).commands owned.connection := by
  obtain ⟨q, hq, hended⟩ := h.queue
  have hreceive : q.receive = .item command rest := by rwa [Registry.receive, hq] at hr
  refine ⟨⟨h.alone, h.number, rest, Table.get?_insert_self _ _ _, ?_⟩, ?_⟩
  · intro removed
    rw [(Channel.ends_of_receive hreceive).1]
    exact hended removed
  · rw [commands_of_get? hq, Channel.items_of_receive hreceive, commands_insert rfl, if_pos rfl]

/-- At the end of the queue, nothing is left in it. -/
theorem nil_of_ended (h : Tenant r owned) (hr : r.receive owned.connection = .ended) :
    r.commands owned.connection = [] := by
  obtain ⟨q, hq, -⟩ := h.queue
  have hreceive : q.receive = .ended := by rwa [Registry.receive, hq] at hr
  rw [commands_of_get? hq]
  unfold Channel.receive at hreceive
  split at hreceive
  · cases hreceive
  · next hnil => exact hnil

/-- Behind a session that was removed, the queue has a command or is at its end. -/
theorem receive_ne_waits (h : Tenant r owned) (removed : r.owner owned.scooter ≠ some owned) :
    r.receive owned.connection ≠ .waits := by
  obtain ⟨q, hq, hended⟩ := h.queue
  intro hr
  have hreceive : q.receive = .waits := by rwa [Registry.receive, hq] at hr
  unfold Channel.receive at hreceive
  split at hreceive
  · cases hreceive
  · simp [hended removed] at hreceive

end Tenant

/-! ### Sessions that were removed -/

/-- The session of a connection was removed. -/
structure Removed (r : Registry α) (owned : Registration) : Prop where
  number : owned.connection < r.fresh
  gone : r.owner owned.scooter ≠ some owned

/-- A session that was removed does not come back. -/
theorem Removed.perform (h : Removed r owned) (c : Call α) : Removed (r.perform c) owned := by
  refine ⟨Nat.lt_of_lt_of_le h.number (fresh_le_perform r c), fun held => ?_⟩
  rcases owner_perform_iff.mp held with ⟨grant, -⟩ | ⟨hold, -⟩
  · exact absurd (connection_of_grant grant).1 (Nat.ne_of_lt h.number)
  · exact h.gone hold

theorem Removed.run (h : Removed r owned) (calls : List (Call α)) : Removed (r.run calls) owned := by
  induction calls generalizing r with
  | nil => exact h
  | cons c calls ih => exact ih (h.perform c)

/-- Nothing is ordered of a connection whose session was removed. -/
theorem accepted?_of_removed (removed : r.owner owned.scooter ≠ some owned) (c : Call α) :
    r.accepted? owned c = none := by
  cases c with
  | dispatch id destination trip =>
    have hnot : r.owner id ≠ some owned := by
      intro held
      rw [← scooter_of_owner held] at held
      exact removed held
    simp only [accepted?]
    split
    · exact if_neg hnot
    · rfl
  | _ => rfl

end Registry
end ScooterFleet
