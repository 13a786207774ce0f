import ScooterFleet.Proofs.Registry.Slot

/-!
# The tenure of a connection

A connection that has claimed a slot receives commands through a queue of its own, which nobody ends but
who removes the session.

* `Registered` — a connection with its slot, its number and its queue;
* `registered_of_grant` — a claim that is granted registers its connection;
* `Call.Spares` / `Registered.perform` — **what leaves the session and the queue leaves the connection
  registered**.
-/

namespace ScooterFleet

namespace Channel

variable {μ : Type} {c c' : Channel μ} {m : μ}

theorem ends_of_sent (h : c.send m = .sent c') : c'.ended = c.ended ∧ c'.closed = c.closed := by
  unfold send at h
  split at h
  · cases h
  · split at h
    · cases h
    · split at h
      · cases h
      · cases h
        exact ⟨rfl, rfl⟩

theorem ends_of_receive (h : c.receive = .item m c') :
    c'.ended = c.ended ∧ c'.closed = c.closed := by
  unfold receive at h
  split at h
  · cases h
    exact ⟨rfl, rfl⟩
  · split at h <;> cases h

end Channel

namespace Registry

variable {α : Type} {r : Registry α} {c : Call α} {owned : Registration}

/-- Commands come through this queue, now or later. -/
def IsOpen (r : Registry α) (n : ConnectionId) : Prop :=
  ∃ q, r.queues.get? n = some q ∧ q.ended = false ∧ q.closed = false

/-- A connection with its slot and its queue. -/
structure Registered (r : Registry α) (owned : Registration) : Prop where
  owner : r.owner owned.scooter = some owned
  /-- Its number is nobody else's. -/
  alone : ∀ id g, r.owner id = some g → g.connection = owned.connection → g = owned
  number : owned.connection < r.fresh
  queue : r.IsOpen owned.connection

/-- A call that neither removes the connection's session nor ends its queue. -/
structure Call.Spares (r : Registry α) (owned : Registration) (c : Call α) : Prop where
  session : ¬ c.Removes r owned.scooter
  hears : c ≠ .deafen owned.connection
  keeps : c ≠ .dropQueue owned.connection

/-! ### Queues -/

theorem IsOpen.of_insert {r' : Registry α} {n n' : ConnectionId} {q : Channel (Dispatch α)}
    (h : r.IsOpen n) (queues : r'.queues = r.queues.insert n' q)
    (hq : n' = n → q.ended = false ∧ q.closed = false) : r'.IsOpen n := by
  obtain ⟨q₀, hq₀, hends⟩ := h
  by_cases hn : n' = n
  · subst hn
    exact ⟨q, by rw [queues, Table.get?_insert_self], hq rfl⟩
  · exact ⟨q₀, by rw [queues, Table.get?_insert_of_ne _ _ hn, hq₀], hends⟩

theorem IsOpen.of_eq {r' : Registry α} {n : ConnectionId} (h : r.IsOpen n)
    (queues : r'.queues = r.queues) : r'.IsOpen n := by
  obtain ⟨q, hq, hends⟩ := h
  exact ⟨q, by rw [queues, hq], hends⟩

theorem IsOpen.of_claim {n : ConnectionId} (h : r.IsOpen n) (number : n < r.fresh)
    (time : Timestamp) (id : ScooterId) : (r.claim time id).2.IsOpen n :=
  h.of_insert rfl fun hn => absurd hn.symm (Nat.ne_of_lt number)

/-- What removes other sessions leaves the queue. -/
theorem IsOpen.of_unregister {n : ConnectionId} (h : r.IsOpen n) {id : ScooterId}
    (other : ∀ g, r.owner id = some g → g.connection ≠ n) : (r.unregister id).IsOpen n := by
  cases hs : r.sessions.get? id with
  | none => rwa [unregister_of_free hs]
  | some slot =>
    have hslot : slot.connection ≠ n := other ⟨id, slot.connection⟩ (by rw [owner, hs]; rfl)
    have hqueues : (r.unregister id).queues = r.queues.modify slot.connection Channel.finish := by
      rw [unregister_of_session hs]
      unfold interrupt
      split <;> rfl
    obtain ⟨q, hq, hends⟩ := h
    exact ⟨q, by rw [hqueues, Table.get?_modify, if_neg hslot, hq], hends⟩

theorem IsOpen.perform {n : ConnectionId} (h : r.IsOpen n) (number : n < r.fresh)
    (other : ∀ id g, c.Removes r id → r.owner id = some g → g.connection ≠ n)
    (hears : c ≠ .deafen n) (keeps : c ≠ .dropQueue n) : (r.perform c).IsOpen n := by
  cases c with
  | register time id =>
    rcases perform_register r time id with he | ⟨-, he⟩ <;> rw [he]
    · exact h
    · exact h.of_claim number time id
  | registerFirstFree time ids =>
    rcases perform_registerFirstFree r time ids with he | ⟨id, -, he⟩ <;> rw [he]
    · exact h
    · exact h.of_claim number time id
  | unregister id => exact h.of_unregister fun g hg => other id g rfl hg
  | release g =>
    show (r.release g).IsOpen n
    cases ho : r.owns g with
    | true =>
      rw [release_of_owns ho]
      exact h.of_unregister fun g' hg => other g.scooter g' ⟨rfl, ho⟩ hg
    | false => rwa [release_of_not_owns ho]
  | dispatch id destination trip =>
    rcases perform_dispatch r id destination trip with he | ⟨slot, queue, queue', -, hq, hsend, he⟩
    · rwa [he]
    · rw [he]
      refine h.of_insert rfl ?_
      rintro rfl
      obtain ⟨q, hq', hends⟩ := h
      rw [hq] at hq'
      cases hq'
      rw [(Channel.ends_of_sent hsend).1, (Channel.ends_of_sent hsend).2]
      exact hends
  | telemetry time m => exact h.of_eq rfl
  | tripEnded time report =>
    rcases perform_tripEnded r time report with ⟨he, -⟩ | ⟨p, -, -, he⟩ <;> rw [he] <;>
      exact h.of_eq rfl
  | begin id trip =>
    rcases perform_begin r id trip with he | ⟨-, -, he⟩ <;> rw [he]
    · exact h
    · exact h.of_eq rfl
  | giveUp t | abandon t =>
    show (r.abandon t).IsOpen n
    rcases abandon_cases r t with he | ⟨-, he⟩ <;> rw [he]
    · exact h
    · exact h.of_eq rfl
  | take n' =>
    rcases perform_take r n' with he | ⟨queue, command, rest, hq, hreceive, he⟩
    · rwa [he]
    · rw [he]
      refine h.of_insert rfl ?_
      rintro rfl
      obtain ⟨q, hq', hends⟩ := h
      rw [hq] at hq'
      cases hq'
      rw [(Channel.ends_of_receive hreceive).1, (Channel.ends_of_receive hreceive).2]
      exact hends
  | deafen n' =>
    have hn : n' ≠ n := fun he => hears (he ▸ rfl)
    obtain ⟨q, hq, hends⟩ := h
    exact ⟨q, (Table.get?_modify r.queues n' n _).trans (by rw [if_neg hn, hq]), hends⟩
  | dropQueue n' =>
    have hn : n' ≠ n := fun he => keeps (he ▸ rfl)
    obtain ⟨q, hq, hends⟩ := h
    exact ⟨q, (Table.get?_erase_of_ne r.queues hn).trans hq, hends⟩

/-- An open queue has a command, or one may still come. -/
theorem IsOpen.receive_ne_ended {n : ConnectionId} (h : r.IsOpen n) : r.receive n ≠ .ended := by
  obtain ⟨q, hq, hended, hclosed⟩ := h
  have hreceive : r.receive n = q.receive := by rw [receive, hq]
  rw [hreceive, Channel.receive]
  intro hends
  cases hitems : q.items with
  | cons m items =>
    rw [hitems] at hends
    cases hends
  | nil =>
    rw [hitems, hended, hclosed] at hends
    cases hends

/-! ### Connections -/

/-- **What leaves the session and the queue leaves the connection registered.** -/
theorem Registered.perform (h : Registered r owned) (spares : c.Spares r owned) :
    Registered (r.perform c) owned := by
  have hfresh : owned.connection < (r.perform c).fresh :=
    Nat.lt_of_lt_of_le h.number (fresh_le_perform r c)
  have hqueue : (r.perform c).IsOpen owned.connection := by
    refine h.queue.perform h.number ?_ spares.hears spares.keeps
    intro id g removes hg hn
    have hid : id = owned.scooter := by
      rw [← scooter_of_owner hg, h.alone id g hg hn]
    exact spares.session (hid ▸ removes)
  cases turnover_perform r c with
  | claimed g grant free number fresh owners =>
    have hother : g.scooter ≠ owned.scooter := by
      intro hid
      rw [hid, h.owner] at free
      cases free
    refine ⟨?_, ?_, hfresh, hqueue⟩
    · rw [owners, if_neg hother, h.owner]
    · intro id g' hg' hn
      rw [owners] at hg'
      split at hg'
      · cases hg'
        exact absurd (hn.symm.trans number) (Nat.ne_of_lt h.number)
      · exact h.alone id g' hg' hn
  | freed id grant removes fresh owners =>
    have hid : id ≠ owned.scooter := fun he => spares.session (he ▸ removes)
    refine ⟨?_, ?_, hfresh, hqueue⟩
    · rw [owners, if_neg hid, h.owner]
    · intro id' g hg hn
      rw [owners] at hg
      split at hg
      · cases hg
      · exact h.alone id' g hg hn
  | kept grant stays fresh owners =>
    refine ⟨?_, ?_, hfresh, hqueue⟩
    · rw [owners, h.owner]
    · intro id g hg hn
      rw [owners] at hg
      exact h.alone id g hg hn

/-- All owners have numbers that were given out. -/
theorem connection_lt_fresh (hub : Hub α) (h : List (Call α)) {id : ScooterId} {g : Registration}
    (hg : (after hub h).owner id = some g) : g.connection < (after hub h).fresh := by
  induction h using List.reverseRecOn generalizing id with
  | nil => cases hg
  | append_singleton h c ih =>
    rw [after_snoc] at hg ⊢
    rcases owner_perform_iff.mp hg with ⟨grant, -⟩ | ⟨hold, -⟩
    · exact (connection_of_grant grant).2
    · exact Nat.lt_of_lt_of_le (ih hold) (fresh_le_perform _ c)

theorem claim_of_grant {g : Registration} (grant : r.granted? c = some g) :
    ∃ time id, g = (r.claim time id).1 ∧ r.perform c = (r.claim time id).2 := by
  cases c with
  | register time id =>
    simp only [granted?] at grant
    cases hc : r.isConnected id with
    | true =>
      rw [register_of_taken time hc] at grant
      cases grant
    | false =>
      rw [register_of_free time hc] at grant
      cases grant
      exact ⟨time, id, rfl, by simp only [Registry.perform, register_of_free time hc]⟩
  | registerFirstFree time ids =>
    simp only [granted?] at grant
    cases hf : ids.find? fun id => !r.isConnected id with
    | none =>
      rw [registerFirstFree_of_none time hf] at grant
      cases grant
    | some id =>
      rw [registerFirstFree_of_some time hf] at grant
      cases grant
      exact ⟨time, id, rfl, by simp only [Registry.perform, registerFirstFree_of_some time hf]⟩
  | _ => cases grant

/-- **A claim that is granted registers its connection.** -/
theorem registered_of_grant {hub : Hub α} {h : List (Call α)} {g : Registration}
    (grant : (after hub h).granted? c = some g) : Registered ((after hub h).perform c) g := by
  obtain ⟨hnumber, hlt⟩ := connection_of_grant grant
  refine ⟨owner_perform_iff.mpr (.inl ⟨grant, rfl⟩), ?_, hlt, ?_⟩
  · intro id g' hg' hn
    rcases owner_perform_iff.mp hg' with ⟨grant', -⟩ | ⟨hold, -⟩
    · rw [grant] at grant'
      exact (Option.some.inj grant').symm
    · have hold' := connection_lt_fresh hub h hold
      rw [hn, hnumber] at hold'
      exact absurd hold' (Nat.lt_irrefl _)
  · obtain ⟨time, id, rfl, hp⟩ := claim_of_grant grant
    rw [hp]
    exact ⟨.unbounded, Table.get?_insert_self _ _ _, rfl, rfl⟩

end Registry
end ScooterFleet
