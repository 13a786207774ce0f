import ScooterFleet.Kernel.Gateway
import ScooterFleet.Proofs.Registry.Call
import ScooterFleet.Proofs.Store.Records

/-!
# What is passed along

Commands come down: out of a connection's queue, through its gateway, onto its link.  Reports go up:
off the link, through the gateway, into the registry, where one may wait for its waiter.

* `mem_queue_perform` / `sent_perform` — where the registry's commands and signals come from;
* `Carries P Q` — all commands on the way satisfy `P`, all reports satisfy `Q`;
* `carries_gateway_step` — **a gateway makes up neither**: it carries on what it has, whatever `P` and
  `Q` are.

Nothing here says where a first command or report comes from.
-/

namespace ScooterFleet

/-! ### Channels -/

namespace Channel

variable {μ : Type} {c c' : Channel μ} {m m' : μ}

theorem items_of_sent (h : c.send m = .sent c') : c'.items = c.items ++ [m] := by
  unfold send at h
  split at h
  · cases h
  · split at h
    · cases h
    · split at h
      · cases h
      · cases h
        rfl

theorem items_of_receive (h : c.receive = .item m c') : c.items = m :: c'.items := by
  unfold receive at h
  split at h
  · next hi =>
    cases h
    exact hi
  · split at h <;> cases h

theorem mem_of_sent (h : c.send m = .sent c') (hm : m' ∈ c'.items) : m' ∈ c.items ∨ m' = m := by
  rw [items_of_sent h, List.mem_append, List.mem_singleton] at hm
  exact hm

theorem head_mem_of_receive (h : c.receive = .item m c') : m ∈ c.items := by
  rw [items_of_receive h]
  exact List.mem_cons_self ..

theorem mem_of_receive (h : c.receive = .item m c') (hm : m' ∈ c'.items) : m' ∈ c.items := by
  rw [items_of_receive h]
  exact List.mem_cons_of_mem _ hm

end Channel

/-! ### The registry -/

namespace Registry

variable {α : Type} {r : Registry α} {c : Call α}

theorem queues_interrupt (r : Registry α) (id : ScooterId) :
    (r.interrupt id).queues = r.queues := by
  unfold interrupt
  split <;> rfl

theorem queues_unregister (r : Registry α) (id : ScooterId) {n : ConnectionId}
    {q : Channel (Dispatch α)} (h : (r.unregister id).queues.get? n = some q) :
    ∃ q', r.queues.get? n = some q' ∧ q'.items = q.items := by
  cases hs : r.sessions.get? id with
  | none =>
    rw [unregister_of_free hs] at h
    exact ⟨q, h, rfl⟩
  | some slot =>
    rw [unregister_of_session hs, queues_interrupt] at h
    rw [show (r.unseat id slot).queues = r.queues.modify slot.connection Channel.finish from rfl,
      Table.get?_modify] at h
    split at h
    · obtain ⟨q', hq', rfl⟩ := Option.map_eq_some_iff.mp h
      exact ⟨q', hq', rfl⟩
    · exact ⟨q, h, rfl⟩

theorem queues_claim (r : Registry α) (time : Timestamp) (id : ScooterId) {n : ConnectionId}
    {q : Channel (Dispatch α)} (h : (r.claim time id).2.queues.get? n = some q) :
    r.queues.get? n = some q ∨ q.items = [] := by
  rw [show (r.claim time id).2.queues = r.queues.insert r.fresh .unbounded from rfl,
    Table.get?_insert] at h
  split at h
  · cases h
    exact .inr rfl
  · exact .inl h

/-- **What is in a queue after a call was there before, or was dispatched by it.** -/
theorem mem_queue_perform {n : ConnectionId} {q : Channel (Dispatch α)} {m : Dispatch α}
    (hq : (r.perform c).queues.get? n = some q) (hm : m ∈ q.items) :
    (∃ q', r.queues.get? n = some q' ∧ m ∈ q'.items) ∨
      c = .dispatch m.scooter m.destination m.trip := by
  cases c with
  | register time id =>
    rcases perform_register r time id with h | ⟨-, h⟩ <;> rw [h] at hq
    · exact .inl ⟨q, hq, hm⟩
    · rcases queues_claim r time id hq with hq | he
      · exact .inl ⟨q, hq, hm⟩
      · simp [he] at hm
  | registerFirstFree time ids =>
    rcases perform_registerFirstFree r time ids with h | ⟨id, -, h⟩ <;> rw [h] at hq
    · exact .inl ⟨q, hq, hm⟩
    · rcases queues_claim r time id hq with hq | he
      · exact .inl ⟨q, hq, hm⟩
      · simp [he] at hm
  | unregister id =>
    obtain ⟨q', hq', he⟩ := queues_unregister r id hq
    exact .inl ⟨q', hq', he ▸ hm⟩
  | release g =>
    refine .inl ?_
    change (r.release g).queues.get? n = some q at hq
    by_cases ho : r.owns g = true
    · rw [release_of_owns ho] at hq
      obtain ⟨q', hq', he⟩ := queues_unregister r g.scooter hq
      exact ⟨q', hq', he ▸ hm⟩
    · rw [release_of_not_owns (by simpa using ho)] at hq
      exact ⟨q, hq, hm⟩
  | dispatch id destination trip =>
    rcases perform_dispatch r id destination trip with h | ⟨slot, queue, queue', -, hold, hsend, h⟩ <;>
      rw [h] at hq
    · exact .inl ⟨q, hq, hm⟩
    · rw [Table.get?_insert] at hq
      split at hq
      · next hn =>
        cases hq
        rcases Channel.mem_of_sent hsend hm with hm | rfl
        · exact .inl ⟨queue, hn ▸ hold, hm⟩
        · exact .inr rfl
      · exact .inl ⟨q, hq, hm⟩
  | telemetry time message => exact .inl ⟨q, hq, hm⟩
  | tripEnded time report =>
    rcases perform_tripEnded r time report with ⟨h, -⟩ | ⟨p, -, -, h⟩ <;> rw [h] at hq <;>
      exact .inl ⟨q, hq, hm⟩
  | begin id trip =>
    rcases perform_begin r id trip with h | ⟨-, -, h⟩ <;> rw [h] at hq <;>
      exact .inl ⟨q, hq, hm⟩
  | giveUp t | abandon t =>
    refine .inl ⟨q, ?_, hm⟩
    change (r.abandon t).queues.get? n = some q at hq
    rcases abandon_cases r t with h | ⟨-, h⟩ <;> rw [h] at hq <;> exact hq
  | take n' =>
    rcases perform_take r n' with h | ⟨queue, command, rest, hold, hreceive, h⟩ <;> rw [h] at hq
    · exact .inl ⟨q, hq, hm⟩
    · change (r.queues.insert n' rest).get? n = some q at hq
      rw [Table.get?_insert] at hq
      split at hq
      · next hn =>
        cases hq
        exact .inl ⟨queue, hn ▸ hold, Channel.mem_of_receive hreceive hm⟩
      · exact .inl ⟨q, hq, hm⟩
  | deafen n' =>
    change (r.queues.modify n' Channel.close).get? n = some q at hq
    rw [Table.get?_modify] at hq
    split at hq
    · obtain ⟨q', hq', rfl⟩ := Option.map_eq_some_iff.mp hq
      exact .inl ⟨q', hq', hm⟩
    · exact .inl ⟨q, hq, hm⟩
  | dropQueue n' =>
    change (r.queues.erase n').get? n = some q at hq
    rw [Table.get?_erase] at hq
    split at hq
    · cases hq
    · exact .inl ⟨q, hq, hm⟩

/-- **A report that waits for a waiter after a call waited before, or came with it and names the
trip.** -/
theorem sent_perform {trip : TripId} {n : Nat} {report : TripReport α}
    (h : (r.perform c).resolutions.get? trip = some ⟨n, .ended report⟩) :
    r.resolutions.get? trip = some ⟨n, .ended report⟩ ∨
      report.trip = some trip ∧ ∃ time, c = .tripEnded time report := by
  cases change_perform r c with
  | resolved id p signal pending cause trips resolutions =>
    rw [resolutions, Table.get?_insert] at h
    split at h
    · next ht =>
      cases h
      cases cause with
      | reported scooter own => exact .inr ⟨ht ▸ own, _, rfl⟩
    · exact .inl h
  | begun id trip call connected free trips resolutions => exact .inl (resolutions ▸ h)
  | abandoned t call pending trips resolutions => exact .inl (resolutions ▸ h)
  | counted time m call trips resolutions => exact .inl (resolutions ▸ h)
  | kept uncounted trips resolutions => exact .inl (resolutions ▸ h)

variable {P : Dispatch α → Prop} {Q : TripReport α → Prop}

/-- Every queued command satisfies `P`, and every report that waits for a waiter satisfies `Q` and
names its trip. -/
structure Carries (P : Dispatch α → Prop) (Q : TripReport α → Prop) (r : Registry α) : Prop where
  queued : ∀ n q, r.queues.get? n = some q → ∀ m ∈ q.items, P m
  sent : ∀ trip n report, r.resolutions.get? trip = some ⟨n, .ended report⟩ →
    Q report ∧ report.trip = some trip

theorem Carries.perform (h : Carries P Q r)
    (hd : ∀ m, c = .dispatch m.scooter m.destination m.trip → P m)
    (hr : ∀ time report, c = .tripEnded time report → Q report) : Carries P Q (r.perform c) where
  queued := by
    intro n q hq m hm
    rcases mem_queue_perform hq hm with ⟨q', hq', hm'⟩ | hc
    · exact h.queued n q' hq' m hm'
    · exact hd m hc
  sent := by
    intro trip n report hres
    rcases sent_perform hres with hres | ⟨hname, time, hc⟩
    · exact h.sent trip n report hres
    · exact ⟨hr time report hc, hname⟩

/-- A call that neither dispatches nor reports. -/
def Call.IsSilent : Call α → Prop
  | .dispatch _ _ _ => False
  | .tripEnded _ _ => False
  | _ => True

theorem Carries.perform_silent (h : Carries P Q r) (hc : c.IsSilent) :
    Carries P Q (r.perform c) :=
  h.perform (fun _ e => by rw [e] at hc; exact hc.elim) fun _ _ e => by rw [e] at hc; exact hc.elim

theorem Carries.imp {P' : Dispatch α → Prop} {Q' : TripReport α → Prop} (h : Carries P Q r)
    (hp : ∀ m, P m → P' m) (hq : ∀ report, Q report → Q' report) : Carries P' Q' r where
  queued := fun n q hqueue m hm => hp m (h.queued n q hqueue m hm)
  sent := fun trip n report hres =>
    ⟨hq report (h.sent trip n report hres).1, (h.sent trip n report hres).2⟩

theorem Carries.of_receive (h : Carries P Q r) {n : ConnectionId} {m : Dispatch α}
    {rest : Channel (Dispatch α)} (hm : r.receive n = .item m rest) : P m := by
  unfold receive at hm
  split at hm
  · next q hq => exact h.queued n q hq m (Channel.head_mem_of_receive hm)
  · cases hm

end Registry

/-! ### Links and gateways -/

variable {α : Type} {P : Dispatch α → Prop} {Q : TripReport α → Prop}

/-- Every command on its way down satisfies `P`, every report on its way up satisfies `Q`. -/
structure Link.Carries (P : Dispatch α → Prop) (Q : TripReport α → Prop) (l : Link α) : Prop where
  down : ∀ m, .ok (.dispatch m) ∈ l.down.items → P m
  up : ∀ report, .ok (.tripEnded report) ∈ l.up.items → Q report

theorem Link.Carries.imp {P' : Dispatch α → Prop} {Q' : TripReport α → Prop} {l : Link α}
    (h : l.Carries P Q) (hp : ∀ m, P m → P' m) (hq : ∀ report, Q report → Q' report) :
    l.Carries P' Q' where
  down := fun m hm => hp m (h.down m hm)
  up := fun report hm => hq report (h.up report hm)

theorem Link.Carries.leaveAbove {l : Link α} (h : l.Carries P Q) : l.leaveAbove.Carries P Q where
  down := h.down
  up := nofun

theorem Link.Carries.leaveBelow {l : Link α} (h : l.Carries P Q) : l.leaveBelow.Carries P Q where
  down := nofun
  up := h.up

namespace Gateway

/-- A gateway has at most one command or report in its hands. -/
def Carries (P : Dispatch α → Prop) (Q : TripReport α → Prop) : Gateway α → Prop
  | .forwarding _ m => P m
  | .hearing _ (.tripEnded report) => Q report
  | _ => True

theorem Carries.imp {P' : Dispatch α → Prop} {Q' : TripReport α → Prop} {g : Gateway α}
    (h : g.Carries P Q) (hp : ∀ m, P m → P' m) (hq : ∀ report, Q report → Q' report) :
    g.Carries P' Q' := by
  cases g with
  | forwarding owned m => exact hp m h
  | hearing owned frame =>
    cases frame with
    | tripEnded report => exact hq report h
    | _ => trivial
  | _ => trivial

structure Site.Carries (P : Dispatch α → Prop) (Q : TripReport α → Prop) (s : Site α) : Prop where
  registry : s.kernel.registry.Carries P Q
  link : s.link.Carries P Q

/-- What a step of a gateway leaves. -/
structure Leaves (P : Dispatch α → Prop) (Q : TripReport α → Prop) (x : Gateway α × Site α) :
    Prop where
  gateway : x.1.Carries P Q
  site : x.2.Carries P Q

variable {s : Site α} {g : Gateway α}

theorem Site.Carries.withRegistry (h : s.Carries P Q) {r : Registry α} (hr : r.Carries P Q) :
    (s.withRegistry r).Carries P Q :=
  ⟨hr, h.link⟩

theorem Site.Carries.silent (h : s.Carries P Q) {c : Registry.Call α} (hc : c.IsSilent) :
    (s.withRegistry (s.kernel.registry.perform c)).Carries P Q :=
  h.withRegistry (h.registry.perform_silent hc)

theorem Site.Carries.of_call (h : s.Carries P Q) {β : Type} {op : Store.Op α β}
    {result : Except StoreFault β} {kernel : Kernel α} (hc : s.kernel.call op = (result, kernel)) :
    Site.Carries P Q { s with kernel } :=
  ⟨(Kernel.registry_of_call hc).symm ▸ h.registry, h.link⟩

theorem Site.Carries.free (h : s.Carries P Q) (owned : Registration) :
    (s.free owned).Carries P Q := by
  have hreleased : (s.kernel.registry.perform (.release owned)).Carries P Q :=
    h.registry.perform_silent trivial
  have hc : (Registry.Call.dropQueue owned.connection : Registry.Call α).IsSilent := trivial
  exact h.withRegistry (hreleased.perform_silent hc)

theorem leaves_finish (h : s.Carries P Q) (result : Except DeviceFault ScooterId) :
    Leaves P Q (finish s result) :=
  ⟨trivial, h.registry, h.link.leaveAbove⟩

theorem carries_cancel (h : s.Carries P Q) : (g.cancel s).Carries P Q := by
  unfold cancel
  cases g.owned? with
  | none => exact ⟨h.registry, h.link.leaveAbove⟩
  | some owned => exact ⟨(h.free owned).registry, (h.free owned).link.leaveAbove⟩

theorem leaves_send {frame : ServerFrame α} {sent : Site α → Gateway α × Site α}
    {failed : LinkFault → Site α → Gateway α × Site α} {x : Gateway α × Site α}
    (h : send s frame sent failed = some x) (hs : s.Carries P Q)
    (hf : ∀ m, frame = .dispatch m → P m)
    (hsent : ∀ s : Site α, s.Carries P Q → Leaves P Q (sent s))
    (hfailed : ∀ fault, Leaves P Q (failed fault s)) : Leaves P Q x := by
  unfold send at h
  split at h
  · next down hsend =>
    cases h
    refine hsent _ ⟨hs.registry, ?_, hs.link.up⟩
    intro m hm
    rcases Channel.mem_of_sent hsend hm with hm | hm
    · exact hs.link.down m hm
    · cases hm
      exact hf m rfl
  · cases h
    exact hfailed _
  · cases h

/-- What is heard comes off the link. -/
theorem leaves_hear (hs : s.Carries P Q) (owned : Registration) {m : Except LinkFault (DeviceFrame α)}
    (hm : ∀ report, m = .ok (.tripEnded report) → Q report) : Leaves P Q (hear owned s m) := by
  unfold hear
  split
  · next frame =>
    refine ⟨?_, hs⟩
    cases frame with
    | tripEnded report => exact hm report rfl
    | hello scooter => trivial
    | telemetry message => trivial
  · exact ⟨trivial, hs⟩
  · exact ⟨trivial, hs⟩

theorem leaves_greet (hs : s.Carries P Q) (m : Except LinkFault (DeviceFrame α)) :
    Leaves P Q (greet s m) := by
  unfold greet
  split
  · exact ⟨trivial, hs⟩
  · exact ⟨trivial, hs⟩
  · exact ⟨trivial, hs⟩
  · exact leaves_finish hs _

/-- A report goes into the registry as it came. -/
theorem carries_apply {wall : Timestamp} {owned : Registration} {r : Registry α}
    {frame : DeviceFrame α} (hr : r.Carries P Q) (hf : (hearing owned frame).Carries P Q) :
    (apply wall owned r frame).Carries P Q := by
  unfold apply
  split
  · next m =>
    split
    · have hc : (Registry.Call.telemetry wall m).IsSilent := trivial
      exact hr.perform_silent hc
    · exact hr
  · next report =>
    split
    · have hp := @Registry.Carries.perform _ _ (.tripEnded wall report) _ _ hr nofun
      exact hp fun time report' e => by cases e; exact hf
    · exact hr
  · exact hr

/-- The link behind a frame that was received from it. -/
theorem carries_received {up : Channel (Except LinkFault (DeviceFrame α))}
    {m : Except LinkFault (DeviceFrame α)} (hs : s.Carries P Q)
    (h : s.link.up.receive = .item m up) :
    Site.Carries P Q { s with link := { s.link with up } } ∧
      ∀ report, m = .ok (.tripEnded report) → Q report := by
  refine ⟨⟨hs.registry, hs.link.down, fun report hm => ?_⟩, ?_⟩
  · exact hs.link.up report (Channel.mem_of_receive h hm)
  · intro report he
    subst he
    exact hs.link.up report (Channel.head_mem_of_receive h)

theorem carries_of_advance {wall : Timestamp} {x : Gateway α × Site α}
    (h : g.advance wall s = some x) (hg : g.Carries P Q) (hs : s.Carries P Q) : Leaves P Q x := by
  cases g with
  | checking id =>
    simp only [advance] at h
    split at h <;> next hcall => cases h; exact ⟨trivial, hs.of_call hcall⟩
  | listing =>
    simp only [advance] at h
    split at h <;> next hcall => cases h; exact ⟨trivial, hs.of_call hcall⟩
  | looking owned =>
    simp only [advance] at h
    split at h <;> next hcall => cases h; exact ⟨trivial, hs.of_call hcall⟩
  | registering id =>
    have hc : (Registry.Call.register wall id : Registry.Call α).IsSilent := trivial
    have hsilent := hs.silent hc
    simp only [advance] at h
    split at h
    · next owned registry hreg =>
      cases h
      simp only [Registry.perform, hreg] at hsilent
      exact ⟨trivial, hsilent⟩
    · cases h
      exact ⟨trivial, hs⟩
  | choosing candidates =>
    have hc : (Registry.Call.registerFirstFree wall candidates : Registry.Call α).IsSilent := trivial
    have hsilent := hs.silent hc
    simp only [advance] at h
    split at h
    · next owned registry hreg =>
      cases h
      simp only [Registry.perform, hreg] at hsilent
      exact ⟨trivial, hsilent⟩
    · cases h
      exact ⟨trivial, hs⟩
  | locating owned scooter =>
    cases h
    exact ⟨trivial, hs⟩
  | welcoming owned state =>
    refine leaves_send h hs ?_ (fun _ hs => ⟨trivial, hs⟩) fun _ => ⟨trivial, hs⟩
    intro m hm
    cases hm
  | forwarding owned command =>
    refine leaves_send h hs ?_ (fun _ hs => ⟨trivial, hs⟩) fun _ => ⟨trivial, hs⟩
    intro m he
    cases he
    exact hg
  | hearing owned frame =>
    cases h
    exact ⟨trivial, hs.withRegistry (carries_apply hs.registry hg)⟩
  | refusing fault =>
    simp only [advance] at h
    refine leaves_send h hs ?_ (fun _ hs => leaves_finish hs _) fun _ => leaves_finish hs _
    intro m hm
    cases hm
  | leaving owned result =>
    cases h
    exact leaves_finish (hs.free owned) _
  | greeting _ => cases h
  | serving _ => cases h
  | finished _ => cases h

/-- **A gateway makes up neither commands nor reports.** -/
theorem carries_gateway_step {now : Millis} {wall : Timestamp} {c : Choice}
    {x : Gateway α × Site α} (h : g.step now wall s c = some x) (hg : g.Carries P Q)
    (hs : s.Carries P Q) : Leaves P Q x := by
  unfold step at h
  split at h
  · exact carries_of_advance h hg hs
  · rename_i owned
    split at h
    · next command rest hreceive =>
      cases h
      refine ⟨hs.registry.of_receive hreceive, ?_⟩
      have hc : (Registry.Call.take owned.connection : Registry.Call α).IsSilent := trivial
      have hsilent := hs.silent hc
      simp only [Registry.perform, hreceive] at hsilent
      exact hsilent
    · cases h
      exact ⟨trivial, hs⟩
    · cases h
  · split at h
    · next hreceive =>
      cases h
      obtain ⟨hsite, hm⟩ := carries_received hs hreceive
      exact leaves_hear hsite _ hm
    · cases h
      exact ⟨trivial, hs⟩
    · cases h
  · split at h
    · next hreceive =>
      cases h
      exact leaves_greet (carries_received hs hreceive).1 _
    · cases h
      exact leaves_finish hs _
    · cases h
  · split at h
    · cases h
      exact ⟨trivial, hs⟩
    · cases h
  · cases h

end Gateway
end ScooterFleet
