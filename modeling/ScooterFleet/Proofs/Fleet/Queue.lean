import ScooterFleet.Proofs.Fleet.Carriage

/-!
# The commands that wait

Each connection has a queue of commands.  A command gets into it behind all others, by a dispatch to the
scooter whose slot the connection holds, and leaves it in front.

* `commands` — what waits for a connection;
* `commands_perform` — **the only ways in which it changes**;
* `strays` / `strays_perform` — of the commands outside of trips there are more only where one is
  dispatched;
* `Puts` — what it means that a command is put between two states.
-/

namespace ScooterFleet
namespace Registry

variable {α : Type}

/-- The commands that wait for a connection, the oldest first. -/
def commands (r : Registry α) (n : ConnectionId) : List (Dispatch α) :=
  (r.queues.get? n).elim [] Channel.items

theorem commands_congr {r r' : Registry α} (h : r'.queues = r.queues) (n : ConnectionId) :
    r'.commands n = r.commands n := by
  unfold commands
  rw [h]

theorem commands_insert {r r' : Registry α} {n : ConnectionId} {q : Channel (Dispatch α)}
    (h : r'.queues = r.queues.insert n q) (n' : ConnectionId) :
    r'.commands n' = if n = n' then q.items else r.commands n' := by
  unfold commands
  rw [h, Table.get?_insert]
  split <;> rfl

/-- What is done to the ends of a queue leaves its commands. -/
theorem commands_modify {r r' : Registry α} {n : ConnectionId}
    {f : Channel (Dispatch α) → Channel (Dispatch α)} (h : r'.queues = r.queues.modify n f)
    (hf : ∀ q, (f q).items = q.items) (n' : ConnectionId) : r'.commands n' = r.commands n' := by
  unfold commands
  rw [h, Table.get?_modify]
  split
  · cases r.queues.get? n' with
    | none => rfl
    | some q => exact hf q
  · rfl

theorem commands_of_get? {r : Registry α} {n : ConnectionId} {q : Channel (Dispatch α)}
    (h : r.queues.get? n = some q) : r.commands n = q.items := by
  unfold commands
  rw [h]
  rfl

theorem commands_unregister (r : Registry α) (id : ScooterId) (n : ConnectionId) :
    (r.unregister id).commands n = r.commands n := by
  cases hs : r.sessions.get? id with
  | none => rw [unregister_of_free hs]
  | some slot =>
    rw [unregister_of_session hs]
    have hqueues : ((r.unseat id slot).interrupt id).queues =
        r.queues.modify slot.connection Channel.finish := queues_interrupt _ id
    exact commands_modify hqueues (fun _ => rfl) n

/-- A new connection has no commands yet. -/
theorem commands_claim (r : Registry α) (time : Timestamp) (id : ScooterId) (n : ConnectionId) :
    (r.claim time id).2.commands n <:+ r.commands n := by
  have hqueues : (r.claim time id).2.queues = r.queues.insert r.fresh .unbounded := rfl
  rw [commands_insert hqueues]
  split
  · exact List.nil_suffix
  · exact List.suffix_rfl

/-- What a dispatch that is taken leaves. -/
theorem dispatch_eq_ok {r r' : Registry α} {id : ScooterId} {destination : Position α}
    {trip : Option TripId} (h : r.dispatch id destination trip = .ok r') :
    ∃ slot queue queue', r.sessions.get? id = some slot ∧
      r.queues.get? slot.connection = some queue ∧
      queue.send ⟨id, destination, trip⟩ = .sent queue' ∧
      r' = { r with queues := r.queues.insert slot.connection queue' } := by
  unfold dispatch at h
  split at h
  · cases h
  · next slot hs =>
    split at h
    · cases h
    · next queue hq =>
      split at h
      · next queue' hsend =>
        cases h
        exact ⟨slot, queue, queue', hs, hq, hsend, rfl⟩
      · cases h

/-- A dispatch that is taken puts its command behind the others of the one connection. -/
theorem commands_dispatch {r r' : Registry α} {id : ScooterId} {destination : Position α}
    {trip : Option TripId} (h : r.dispatch id destination trip = .ok r') :
    ∃ slot, r.sessions.get? id = some slot ∧ ∀ n, r'.commands n =
      if slot.connection = n then r.commands n ++ [⟨id, destination, trip⟩] else r.commands n := by
  obtain ⟨slot, queue, queue', hs, hq, hsend, rfl⟩ := dispatch_eq_ok h
  refine ⟨slot, hs, fun n => ?_⟩
  rw [commands_insert rfl]
  split
  · next hn => rw [Channel.items_of_sent hsend, ← commands_of_get? hq, hn]
  · rfl

/-- What a call does to the commands of a connection: it puts one behind them, or takes some away in
front. -/
inductive Shift (r : Registry α) (c : Call α) (n : ConnectionId) : Prop
  | put (m : Dispatch α) (slot : SlotHolder) (call : c = .dispatch m.scooter m.destination m.trip)
      (session : r.sessions.get? m.scooter = some slot) (connection : slot.connection = n)
      (commands : (r.perform c).commands n = r.commands n ++ [m])
  | shed (commands : (r.perform c).commands n <:+ r.commands n)

theorem shift_of_same {r : Registry α} {c : Call α} {n : ConnectionId}
    (h : (r.perform c).commands n = r.commands n) : Shift r c n :=
  .shed (h ▸ List.suffix_rfl)

/-- **Every call shifts the commands in one of these ways.** -/
theorem commands_perform (r : Registry α) (c : Call α) (n : ConnectionId) : Shift r c n := by
  cases c with
  | register time id =>
    rcases perform_register r time id with h | ⟨-, h⟩
    · exact shift_of_same (by rw [h])
    · exact .shed (h ▸ commands_claim r time id n)
  | registerFirstFree time ids =>
    rcases perform_registerFirstFree r time ids with h | ⟨id, -, h⟩
    · exact shift_of_same (by rw [h])
    · exact .shed (h ▸ commands_claim r time id n)
  | unregister id => exact shift_of_same (commands_unregister r id n)
  | release g =>
    refine shift_of_same ?_
    show (r.release g).commands n = r.commands n
    cases ho : r.owns g with
    | true => rw [release_of_owns ho, commands_unregister]
    | false => rw [release_of_not_owns ho]
  | dispatch id destination trip =>
    cases h : r.dispatch id destination trip with
    | error fault => exact shift_of_same (by simp only [perform, h])
    | ok r' =>
      have hp : r.perform (.dispatch id destination trip) = r' := by simp only [perform, h]
      obtain ⟨slot, hs, hcommands⟩ := commands_dispatch h
      by_cases hn : slot.connection = n
      · exact .put ⟨id, destination, trip⟩ slot rfl hs hn (by rw [hp, hcommands, if_pos hn])
      · exact shift_of_same (by rw [hp, hcommands, if_neg hn])
  | telemetry time message => exact shift_of_same rfl
  | tripEnded time report =>
    rcases perform_tripEnded r time report with ⟨h, -⟩ | ⟨p, -, -, h⟩ <;>
      exact shift_of_same (by rw [h]; rfl)
  | begin id trip =>
    rcases perform_begin r id trip with h | ⟨-, -, h⟩
    · exact shift_of_same (by rw [h])
    · exact shift_of_same (by rw [h]; rfl)
  | giveUp t | abandon t =>
    refine shift_of_same ?_
    show (r.abandon t).commands n = r.commands n
    rcases abandon_cases r t with h | ⟨-, h⟩
    · rw [h]
    · rw [h]
      rfl
  | take n' =>
    rcases perform_take r n' with h | ⟨queue, command, rest, hq, hreceive, h⟩
    · exact shift_of_same (by rw [h])
    · refine .shed ?_
      have hqueues : (r.leave n' rest).queues = r.queues.insert n' rest := rfl
      rw [h, commands_insert hqueues]
      split
      · next hn =>
        rw [← hn, commands_of_get? hq, Channel.items_of_receive hreceive]
        exact List.suffix_cons command rest.items
      · exact List.suffix_rfl
  | deafen n' =>
    have hqueues : (r.perform (.deafen n')).queues = r.queues.modify n' Channel.close := rfl
    exact shift_of_same (commands_modify hqueues (fun _ => rfl) n)
  | dropQueue n' =>
    refine .shed ?_
    show ((r.queues.erase n').get? n).elim [] Channel.items <:+ r.commands n
    rw [Table.get?_erase]
    split
    · exact List.nil_suffix
    · exact List.suffix_rfl

/-! ### Commands outside of trips -/

/-- The commands outside of any trip that wait for a connection. -/
def strays (r : Registry α) (n : ConnectionId) : List (Dispatch α) :=
  (r.commands n).filter fun m => m.trip.isNone

/-- A call that dispatches to no scooter outside of a trip. -/
def Call.IsOrderly (c : Call α) : Prop := ∀ id destination, c ≠ .dispatch id destination none

/-- **Orderly calls put no command outside of a trip.** -/
theorem strays_perform {r : Registry α} {c : Call α} (h : c.IsOrderly) (n : ConnectionId) :
    (r.perform c).strays n <:+ r.strays n := by
  unfold strays
  cases commands_perform r c n with
  | put m slot call session connection commands =>
    have hm : m.trip.isNone = false := by
      cases ht : m.trip with
      | none =>
        rw [ht] at call
        exact absurd call (h m.scooter m.destination)
      | some trip => rfl
    rw [commands, List.filter_append, List.filter_cons, hm]
    exact List.append_nil _ ▸ List.suffix_rfl
  | shed commands => exact commands.filter _

/-- Between two states, a command is put into the queue of its scooter's connection, behind all
others. -/
def Puts (r r' : Registry α) (m : Dispatch α) : Prop :=
  ∃ slot, r.sessions.get? m.scooter = some slot ∧
    r'.commands slot.connection = r.commands slot.connection ++ [m]

theorem puts_of_dispatch {r r' : Registry α} {id : ScooterId} {destination : Position α}
    {trip : Option TripId} (h : r.dispatch id destination trip = .ok r') :
    r.Puts r' ⟨id, destination, trip⟩ := by
  obtain ⟨slot, hs, hcommands⟩ := commands_dispatch h
  exact ⟨slot, hs, by rw [hcommands, if_pos rfl]⟩

/-- A dispatch puts no other command. -/
theorem Puts.eq_of_dispatch {r r' : Registry α} {id : ScooterId} {destination : Position α}
    {trip : Option TripId} {m : Dispatch α} (h : r.Puts r' m)
    (hd : r.dispatch id destination trip = .ok r') : m = ⟨id, destination, trip⟩ := by
  obtain ⟨slot, -, hput⟩ := h
  obtain ⟨slot', -, hcommands⟩ := commands_dispatch hd
  rw [hcommands] at hput
  split at hput
  · simpa using hput.symm
  · simp at hput

/-- A command outside of trips that is put is one more of them. -/
theorem Puts.strays {r r' : Registry α} {m : Dispatch α} (h : r.Puts r' m) (hm : m.trip = none) :
    ∃ n, ¬ r'.strays n <:+ r.strays n := by
  obtain ⟨slot, -, hput⟩ := h
  refine ⟨slot.connection, fun hle => ?_⟩
  have hlength := hle.length_le
  simp only [Registry.strays, hput, hm, List.filter_append, List.filter_cons, Option.isNone_none,
    List.filter_nil, if_true, List.length_append, List.length_singleton] at hlength
  omega

end Registry
end ScooterFleet
