import ScooterFleet.Device.Run
import ScooterFleet.Proofs.Fleet.Carriage
import ScooterFleet.Proofs.Gateway.Conduct

/-!
# The two ends of a link

What a gateway that serves its slot and a device that is attached do to the link between them, and what
they become.

* `Channel.Holds` — a channel with a bound, which does not break: when it takes a message, and when a
  sender waits;
* `Gateway.Pumps` / `pumps_of_step` — **every step of a gateway** that serves;
* `Device.Drives` / `drives_of_step` — **every step of a device** that is attached.
-/

namespace ScooterFleet

variable {α : Type}

/-! ### Channels with a bound -/

namespace Channel

variable {μ : Type} {c c' : Channel μ} {m : μ} {k : Nat}

/-- A channel that holds so many messages, and does not break. -/
structure Holds (c : Channel μ) (k : Nat) : Prop where
  capacity : c.capacity = some k
  fuse : c.fuse = none

theorem send_of_holds (h : c.Holds k) (m : μ) :
    c.send m = if c.closed then .failed .closed
      else if k ≤ c.items.length then .waits
      else .sent { c with items := c.items ++ [m] } := by
  obtain ⟨items, capacity, ended, closed, fuse⟩ := c
  obtain ⟨rfl, rfl⟩ := h
  simp [send, isFull]

/-- What is sent finds the channel open. -/
theorem holds_of_sent (h : c.Holds k) (hs : c.send m = .sent c') : c'.Holds k ∧ c.closed = false := by
  rw [send_of_holds h] at hs
  split at hs
  · cases hs
  · next hclosed =>
    split at hs
    · cases hs
    · cases hs
      exact ⟨⟨h.capacity, h.fuse⟩, by simpa using hclosed⟩

theorem holds_of_receive (h : c.Holds k) (hr : c.receive = .item m c') : c'.Holds k := by
  unfold receive at hr
  split at hr
  · cases hr
    exact ⟨h.capacity, h.fuse⟩
  · split at hr <;> cases hr

/-- What is sent into an open channel with room comes last. -/
theorem send_of_room {items : List μ} (h : items.length < k) (m : μ) :
    (⟨items, some k, false, false, none⟩ : Channel μ).send m =
      .sent ⟨items ++ [m], some k, false, false, none⟩ := by
  have hroom : ¬ k ≤ items.length := by omega
  rw [send_of_holds ⟨rfl, rfl⟩]
  simp only [Bool.false_eq_true, if_false, hroom]

/-- A message waits where the channel is full, and only there. -/
theorem waits_iff (h : c.Holds k) : c.send m = .waits ↔ c.closed = false ∧ k ≤ c.items.length := by
  rw [send_of_holds h]
  cases c.closed with
  | true => simp
  | false => by_cases hk : k ≤ c.items.length <;> simp [hk]

end Channel

/-! ### Steps of the ends -/

namespace Gateway

open Registry

/-- The gateway serves this slot. -/
def Serves (owned : Registration) : Gateway α → Prop
  | .serving g => g = owned
  | .forwarding g _ => g = owned
  | .hearing g _ => g = owned
  | _ => False

/-- The commands that the gateway has taken and not sent yet. -/
def inHand : Gateway α → Nat
  | .forwarding _ _ => 1
  | _ => 0

/-- A step of a gateway that serves a slot. -/
inductive Pumps (owned : Registration) (s : Site α) : Gateway α → Gateway α → Site α → Prop
  | takes {command : Dispatch α} {rest : Channel (Dispatch α)}
      (queue : s.kernel.registry.receive owned.connection = .item command rest) :
      Pumps owned s (.serving owned) (.forwarding owned command)
        (s.withRegistry (s.kernel.registry.leave owned.connection rest))
  | hears {m : Except LinkFault (DeviceFrame α)} {up : Channel (Except LinkFault (DeviceFrame α))}
      {g' : Gateway α} (inbound : s.link.up.receive = .item m up)
      (next : g' = .serving owned ∨ (∃ frame, g' = .hearing owned frame) ∨
        ∃ result, g' = .leaving owned result) :
      Pumps owned s (.serving owned) g' { s with link := { s.link with up } }
  | sends {command : Dispatch α} {down : Channel (Except LinkFault (ServerFrame α))}
      (sent : s.link.down.send (.ok (.dispatch command)) = .sent down) :
      Pumps owned s (.forwarding owned command) (.serving owned) { s with link := { s.link with down } }
  | applies {frame : DeviceFrame α} {wall : Timestamp} :
      Pumps owned s (.hearing owned frame) (.serving owned)
        (s.withRegistry (apply wall owned s.kernel.registry frame))
  | ends {g : Gateway α} {result : Except DeviceFault Unit} : Pumps owned s g (.leaving owned result) s

theorem pumps_of_hear {owned : Registration} {s : Site α} {m : Except LinkFault (DeviceFrame α)}
    {up : Channel (Except LinkFault (DeviceFrame α))} (h : s.link.up.receive = .item m up) :
    Pumps owned s (.serving owned) (hear owned { s with link := { s.link with up } } m).1
      (hear owned { s with link := { s.link with up } } m).2 := by
  unfold hear
  split
  · exact .hears h (.inr (.inl ⟨_, rfl⟩))
  · exact .hears h (.inl rfl)
  · exact .hears h (.inr (.inr ⟨_, rfl⟩))

theorem pumps_of_step {owned : Registration} {s : Site α} {g : Gateway α} {c : Choice}
    {now : Millis} {wall : Timestamp} {x : Gateway α × Site α} (h : g.step now wall s c = some x)
    (hg : g.Serves owned) : Pumps owned s g x.1 x.2 := by
  cases g with
  | serving owned' =>
    cases hg
    cases c with
    | command =>
      simp only [step] at h
      split at h
      · next command rest hreceive =>
        cases h
        exact .takes hreceive
      · cases h
        exact .ends
      · cases h
    | inbound =>
      simp only [step] at h
      split at h
      · next m up hreceive =>
        cases h
        exact pumps_of_hear hreceive
      · cases h
        exact .ends
      · cases h
    | proceed | expiry => cases h
  | forwarding owned' command =>
    cases hg
    cases c with
    | proceed =>
      rcases send_cases h with ⟨down, hsend, rfl⟩ | ⟨fault, -, rfl⟩
      · exact .sends hsend
      · exact .ends
    | command | inbound | expiry => cases h
  | hearing owned' frame =>
    cases hg
    cases c with
    | proceed =>
      cases h
      exact .applies
    | command | inbound | expiry => cases h
  | _ => exact hg.elim

/-- What is heard leaves the sessions and the queues. -/
theorem apply_leaves (wall : Timestamp) (owned : Registration) (r : Registry α) (frame : DeviceFrame α) :
    (apply wall owned r frame).sessions = r.sessions ∧
      (apply wall owned r frame).queues = r.queues := by
  cases frame with
  | hello scooter => exact ⟨rfl, rfl⟩
  | telemetry m =>
    by_cases hm : m.scooter = owned.scooter
    · simp only [apply, hm, if_true]
      exact ⟨rfl, rfl⟩
    · simp only [apply, hm, if_false, and_self]
  | tripEnded report =>
    by_cases hm : report.scooter = owned.scooter
    · simp only [apply, hm, if_true]
      show (r.perform (.tripEnded wall report)).sessions = r.sessions ∧
        (r.perform (.tripEnded wall report)).queues = r.queues
      rcases perform_tripEnded r wall report with ⟨h, -⟩ | ⟨p, -, -, h⟩
      · rw [h]
        exact ⟨rfl, rfl⟩
      · rw [h]
        exact ⟨rfl, rfl⟩
    · simp only [apply, hm, if_false, and_self]

end Gateway

namespace Device

/-- The device is attached, and goes on. -/
def IsAttached : Device α → Prop
  | .running _ _ => True
  | .sending _ _ _ _ _ => True
  | _ => False

/-- A step of a device that is attached. -/
inductive Drives (l : Link α) : Device α → Choice → Device α → Link α → Prop
  | receives {session : Session α} {due : Millis} {m : Except LinkFault (ServerFrame α)}
      {down : Channel (Except LinkFault (ServerFrame α))} {d' : Device α}
      (inbound : l.down.receive = .item m down) (attached : d'.IsAttached) :
      Drives l (.running session due) .receive d' { l with down }
  | ticks {session : Session α} {due : Millis} {d' : Device α} (attached : d'.IsAttached) :
      Drives l (.running session due) .tick d' l
  | sends {session : Session α} {frame : DeviceFrame α} {more : List (DeviceFrame α)} {due : Millis}
      {outcome : Option Outcome} {up : Channel (Except LinkFault (DeviceFrame α))} {d' : Device α}
      (sent : l.up.send (.ok frame) = .sent up) (attached : d'.IsAttached) :
      Drives l (.sending session frame more due outcome) .send d' { l with up }
  | ends {d : Device α} {c : Choice} {result : Except (SessionFault α) SessionEnd} {l' : Link α}
      (before : l' = l ∨
        (∃ m down, l.down.receive = .item m down ∧ l' = { l with down }) ∨
        ∃ frame up, l.up.send (.ok frame) = .sent up ∧ l' = { l with up }) :
      Drives l d c (.finished result) l'.leaveBelow

/-- What follows a tick is more to come, or the end. -/
theorem settle_cases (l : Link α) (session : Session α) (due : Millis) (outcome : Option Outcome) :
    settle l session due outcome = (.running session due, l) ∨
      settle l session due outcome = finish l (.ok .discharged) := by
  unfold settle
  split
  · exact .inr rfl
  · exact .inl rfl

variable [Coordinate α]

theorem drives_of_hear {l : Link α} {session : Session α} {due now : Millis}
    {m : Except LinkFault (ServerFrame α)} {down : Channel (Except LinkFault (ServerFrame α))}
    (h : l.down.receive = .item m down) :
    Drives l (.running session due) .receive (hear now { l with down } session due m).1
      (hear now { l with down } session due m).2 := by
  have hends : ∀ result, Drives l (.running session due) .receive
      (finish { l with down } result).1 (finish { l with down } result).2 :=
    fun result => .ends (.inr (.inl ⟨m, down, h, rfl⟩))
  unfold hear
  split
  · exact .receives h trivial
  · exact hends _
  · split
    · split
      · exact .receives h trivial
      · exact hends _
    · exact .receives h trivial
  · exact .receives h trivial

theorem drives_of_move (l : Link α) (session : Session α) (due : Millis) :
    Drives l (.running session due) .tick (move l session due).1 (move l session due).2 := by
  simp only [move]
  split
  · exact .ticks trivial
  · rcases settle_cases l session.tick.session (due + session.profile.interval)
      session.tick.outcome with he | he <;> rw [he]
    · exact .ticks trivial
    · exact .ends (.inl rfl)

theorem drives_of_step {l : Link α} {d : Device α} {c : Choice} {now : Millis}
    {x : Device α × Link α} (h : d.step now l c = some x) (hd : d.IsAttached) :
    Drives l d c x.1 x.2 := by
  cases d with
  | running session due =>
    cases c with
    | receive =>
      simp only [step] at h
      split at h
      · next m down hreceive =>
        cases h
        exact drives_of_hear hreceive
      · cases h
        exact .ends (.inl rfl)
      · cases h
    | tick =>
      simp only [step] at h
      split at h
      · cases h
        exact drives_of_move l session due
      · cases h
    | send => cases h
  | sending session frame more due outcome =>
    cases c with
    | send =>
      simp only [step] at h
      split at h
      · next up hsend =>
        split at h
        · cases h
          exact .sends hsend trivial
        · cases h
          rcases settle_cases { l with up } session due outcome with he | he <;> rw [he]
          · exact .sends hsend trivial
          · exact .ends (.inr (.inr ⟨frame, up, hsend, rfl⟩))
      · cases h
        exact .ends (.inl rfl)
      · cases h
    | receive | tick => cases h
  | _ => exact hd.elim

end Device

end ScooterFleet
