import ScooterFleet.Proofs.Gateway.Commands
import ScooterFleet.Proofs.Gateway.Intake

/-!
# Commands are sent in order, and to the end

From its claim on, a connection has three places for the commands that were accepted for it: what it sent,
what it holds in its hands, and what waits in its queue.

* `Books` / `books_step` / `books_call` — **together these are what was accepted, in its order**, until
  the connection leaves; what it sent stays in front;
* `Quiet` / `Drains` / `drains_step` — a connection whose session was removed, with a device that is
  attached and silent: each of its steps brings it nearer to its end, and it leaves nothing;
* `commands_sent` — both for all runs, from the first step of a connection on.
-/

namespace ScooterFleet
namespace Gateway

open Registry

variable {α : Type} {owned : Registration}

/-! ### Steps -/

/-- The command that was received and is not sent yet. -/
def held : Gateway α → List (Dispatch α)
  | .forwarding _ command => [command]
  | _ => []

/-- The connection has claimed this slot and does not leave yet. -/
def Keeps (owned : Registration) : Gateway α → Prop
  | .looking g => g = owned
  | .locating g _ => g = owned
  | .welcoming g _ => g = owned
  | g => g.Serves owned

/-- The connection leaves, or has left. -/
def IsGoing : Gateway α → Prop
  | .leaving _ _ => True
  | .finished _ => True
  | _ => False

theorem owned_of_keeps {g : Gateway α} (h : g.Keeps owned) : g.owned? = some owned := by
  cases g <;> first | exact congrArg some h | exact h.elim

theorem keeps_of_serves {g : Gateway α} (h : g.Serves owned) : g.Keeps owned := by
  cases g <;> first | exact h | exact h.elim

/-- The commands that a connection has not sent yet. -/
def backlog (owned : Registration) (g : Gateway α) (r : Registry α) : List (Dispatch α) :=
  g.held ++ r.commands owned.connection

/-- What a step of a connection does with its commands. -/
inductive Handles (owned : Registration) (s : Site α) (g : Gateway α) (x : Gateway α × Site α) : Prop
  | goes (keeps : x.1.Keeps owned) (tenant : Tenant x.2.kernel.registry owned)
      (balance : backlog owned g s.kernel.registry =
        sentBy s x ++ backlog owned x.1 x.2.kernel.registry)
  | leaves {result : Except DeviceFault Unit} (gateway : x.1 = .leaving owned result)
      (idle : sentBy s x = [])

section Steps

variable {now : Millis} {wall : Timestamp} {s : Site α} {g : Gateway α} {choice : Choice}
  {x : Gateway α × Site α}

/-- A step that sends nothing. -/
theorem handles_of_idle (keeps : x.1.Keeps owned) (tenant : Tenant x.2.kernel.registry owned)
    (backlogs : backlog owned g s.kernel.registry = backlog owned x.1 x.2.kernel.registry)
    (idle : sentBy s x = []) : Handles owned s g x :=
  .goes keeps tenant (by rw [backlogs, idle]; rfl)

/-- A step beside the commands. -/
theorem handles_of_same (keeps : x.1.Keeps owned) (tenant : Tenant s.kernel.registry owned)
    (registry : x.2.kernel.registry = s.kernel.registry) (same : x.1.held = g.held)
    (idle : sentBy s x = []) : Handles owned s g x :=
  handles_of_idle keeps (registry ▸ tenant) (by rw [backlog, backlog, same, registry]) idle

theorem handles_of_pumps {g' : Gateway α} {s' : Site α} (tenant : Tenant s.kernel.registry owned)
    (h : Pumps owned s g g' s') : Handles owned s g (g', s') := by
  cases h with
  | @takes command rest queue =>
    obtain ⟨tenant', hcommands⟩ := tenant.receive queue
    exact handles_of_idle rfl tenant' hcommands (sentBy_of_same rfl)
  | @hears m up g' inbound next =>
    rcases next with rfl | ⟨frame, rfl⟩ | ⟨result, rfl⟩
    · exact handles_of_same rfl tenant rfl rfl (sentBy_of_same rfl)
    · exact handles_of_same rfl tenant rfl rfl (sentBy_of_same rfl)
    · exact .leaves rfl (sentBy_of_same rfl)
  | @sends command down sent =>
    refine .goes rfl tenant ?_
    rw [sentBy_of_sent sent rfl rfl]
    rfl
  | @applies frame wall =>
    obtain ⟨hsessions, hqueues⟩ := apply_leaves wall owned s.kernel.registry frame
    obtain ⟨calls, -, hcalls⟩ := conducts_apply wall s.kernel.registry owned frame
    have hfresh := hcalls ▸ fresh_le_run s.kernel.registry calls
    obtain ⟨tenant', hcommands⟩ :=
      tenant.aside hsessions hfresh (congrArg (Table.get? · owned.connection) hqueues)
    have hbacklog := (hcommands.trans (List.append_nil _)).symm
    exact handles_of_idle rfl tenant' hbacklog (sentBy_of_same rfl)
  | ends => exact .leaves rfl (sentBy_of_same rfl)

/-- **A step sends the first of what was not sent, or nothing.** -/
theorem handles_of_step (keeps : g.Keeps owned) (tenant : Tenant s.kernel.registry owned)
    (h : g.step now wall s choice = some x) : Handles owned s g x := by
  have hidle := @sentBy_of_step _ _ _ _ _ _ _ h
  cases g with
  | looking g =>
    cases keeps
    cases choice with
    | proceed =>
      simp only [step, advance] at h
      split at h <;> next hcall =>
        cases h
        first
          | exact handles_of_same rfl tenant (Kernel.registry_of_call hcall) rfl (hidle fun _ _ he => by cases he)
          | exact .leaves rfl (hidle fun _ _ he => by cases he)
    | _ => cases h
  | locating g scooter =>
    cases keeps
    cases choice with
    | proceed =>
      cases h
      exact handles_of_same rfl tenant rfl rfl (hidle fun _ _ he => by cases he)
    | _ => cases h
  | welcoming g state =>
    cases keeps
    cases choice with
    | proceed =>
      rcases send_cases h with ⟨down, -, rfl⟩ | ⟨fault, -, rfl⟩
      · exact handles_of_same rfl tenant rfl rfl (hidle fun _ _ he => by cases he)
      · exact .leaves rfl (hidle fun _ _ he => by cases he)
    | _ => cases h
  | serving | forwarding | hearing => exact handles_of_pumps tenant (pumps_of_step h keeps)
  | _ => exact keeps.elim

theorem IsGoing.step (going : g.IsGoing) (h : g.step now wall s choice = some x) :
    x.1.IsGoing ∧ sentBy s x = [] := by
  refine ⟨?_, sentBy_of_step h fun owned command he => by rw [he] at going; exact going⟩
  cases g with
  | leaving owned result =>
    cases choice with
    | proceed =>
      cases h
      trivial
    | _ => cases h
  | finished result => cases choice <;> cases h
  | _ => exact going.elim

end Steps

/-! ### The books of a connection -/

/-- What was accepted for a connection, against what it sent and what it has. -/
inductive Books (owned : Registration) (sent accepted : List (Dispatch α)) (g : Gateway α)
    (r : Registry α) : Prop
  | kept (keeps : g.Keeps owned) (tenant : Tenant r owned)
      (balance : accepted = sent ++ backlog owned g r)
  | closed (going : g.IsGoing) (front : sent <+: accepted)

theorem Books.front {sent accepted : List (Dispatch α)} {g : Gateway α} {r : Registry α}
    (h : Books owned sent accepted g r) : sent <+: accepted := by
  cases h with
  | kept keeps tenant balance => exact balance ▸ List.prefix_append _ _
  | closed going front => exact front

theorem books_step {now : Millis} {wall : Timestamp} {s : Site α} {g : Gateway α} {choice : Choice}
    {x : Gateway α × Site α} {sent accepted : List (Dispatch α)}
    (h : Books owned sent accepted g s.kernel.registry) (step : g.step now wall s choice = some x) :
    Books owned (sent ++ sentBy s x) accepted x.1 x.2.kernel.registry := by
  cases h with
  | kept keeps tenant balance =>
    cases handles_of_step keeps tenant step with
    | goes keeps' tenant' balance' =>
      exact .kept keeps' tenant' (by rw [balance, balance', List.append_assoc])
    | leaves gateway idle =>
      refine .closed (gateway ▸ trivial) ?_
      rw [idle, List.append_nil, balance]
      exact List.prefix_append _ _
  | closed going front =>
    obtain ⟨going', idle⟩ := going.step step
    exact .closed going' (by rwa [idle, List.append_nil])

theorem books_call {r : Registry α} {g : Gateway α} {sent accepted : List (Dispatch α)} {c : Call α}
    (h : Books owned sent accepted g r)
    (others : g.owned? = some owned → ¬ c.Receives owned.connection) :
    Books owned sent (accepted ++ (r.accepted? owned c).toList) g (r.perform c) := by
  cases h with
  | kept keeps tenant balance =>
    obtain ⟨tenant', hcommands⟩ := tenant.orders (others (owned_of_keeps keeps))
    refine .kept keeps tenant' ?_
    rw [balance, backlog, backlog, hcommands, List.append_assoc, List.append_assoc]
  | closed going front => exact .closed going (front.trans (List.prefix_append _ _))

/-- **The books of a connection are right at any time.** -/
theorem books_run {s s' : Scene α} {events : List (Event α)} (own : s.OwnQueue events)
    (start : Books owned [] [] s.gateway s.registry) (run : s.run events = some s') :
    Books owned (s.sent events) (s.accepted owned events) s'.gateway s'.registry := by
  induction events using List.reverseRecOn generalizing s' with
  | nil =>
    cases run
    exact start
  | append_singleton events e ih =>
    rw [Scene.run_snoc] at run
    obtain ⟨s₁, hrun, hstep⟩ := Option.bind_eq_some_iff.mp run
    rw [Scene.OwnQueue, Scene.trail_snoc hrun, List.forall_mem_append, List.forall_mem_singleton]
      at own
    have books := ih own.1 hrun
    rw [Scene.sent, Scene.accepted, Scene.log_snoc _ hrun, Scene.log_snoc _ hrun]
    cases e with
    | step choice =>
      obtain ⟨x, hx, rfl, hsends⟩ := Scene.step_eq_some hstep
      rw [hsends]
      show Books owned _ (_ ++ []) x.1 x.2.kernel.registry
      rw [List.append_nil]
      exact books_step books hx
    | call c =>
      cases hstep
      show Books owned (_ ++ []) _ s₁.gateway (s₁.registry.perform c)
      rw [List.append_nil]
      exact books_call books (own.2 owned)
    | world now wall store link =>
      cases hstep
      show Books owned (_ ++ []) (_ ++ []) s₁.gateway s₁.registry
      rw [List.append_nil, List.append_nil]
      exact books

/-- The books since the first step, for the slot that the connection has claimed. -/
theorem books_of_claims {hub : Hub α} {h : List (Call α)} {s₀ s : Scene α} {events : List (Event α)}
    (free : s₀.owned? = none) (history : s₀.registry = after hub h) (own : s₀.OwnQueue events)
    (run : s₀.run events = some s) {before back : List (Event α)} {choice : Choice}
    (split : events = before ++ .step choice :: back) (claims : Claims s₀ before choice owned) :
    Books owned (s₀.sent events) (s₀.accepted owned events) s.gateway s.registry := by
  subst split
  obtain ⟨s₁, s₂, c, hrun, hfree, hstep, grant, hregistry⟩ := claims
  obtain ⟨x, hx, hs₂, hsends⟩ := Scene.step_eq_some hstep
  obtain ⟨h', hh'⟩ := Scene.history_of_run history hrun
  have hrun₂ : s₀.run (before ++ [.step choice]) = some s₂ := by
    rw [Scene.run_snoc, hrun]
    exact hstep
  have hsplit : before ++ .step choice :: back = (before ++ [.step choice]) ++ back := by simp
  rw [hsplit] at own run ⊢
  rw [Scene.run_append, hrun₂] at run
  -- before the claim, nothing was sent, and nothing was ordered of a number to come
  obtain ⟨hnumber, -⟩ := connection_of_grant grant
  have hsent : s₀.sent (before ++ [.step choice]) = [] := by
    rcases unsent_or_claimed free hrun with ⟨-, hnone⟩ | ⟨-, late⟩
    · have hidle : sentBy s₁.site x = [] := by
        refine sentBy_of_step hx fun owned' command hg => ?_
        rw [Scene.owned?, hg] at hfree
        cases hfree
      rw [Scene.sent, Scene.log_snoc _ hrun, ← Scene.sent, hnone, hsends, hidle]
      rfl
    · exact absurd late (not_isLate_of_step hx hfree)
  have haccepted : s₀.accepted owned (before ++ [.step choice]) = [] := by
    have hnone := Scene.accepted_of_future history hrun (Nat.le_of_eq hnumber.symm)
    rw [Scene.accepted, Scene.log_snoc _ hrun, ← Scene.accepted, hnone]
    rfl
  have hlooking : s₂.gateway = .looking owned := by
    have hregistry' : x.2.kernel.registry = s₁.registry.perform c := by
      rw [← hregistry, hs₂]
      rfl
    have numbers : ∀ id g, s₁.registry.owner id = some g → g.connection < s₁.registry.fresh := by
      rw [hh']
      exact fun id g => connection_lt_fresh hub h'
    rw [hs₂]
    exact looking_of_claim hx hfree (holds_of_grant hx hfree numbers grant hregistry')
  have htenant : Tenant s₂.registry owned := by
    rw [hregistry]
    rw [hh'] at grant ⊢
    exact (registered_of_grant grant).tenant
  have hempty : s₂.registry.commands owned.connection = [] := by
    obtain ⟨time, id, rfl, hperform⟩ := claim_of_grant grant
    have hqueues : s₂.registry.queues = s₁.registry.queues.insert s₁.registry.fresh .unbounded := by
      rw [hregistry, hperform]
      rfl
    rw [commands_insert hqueues, if_pos hnumber.symm]
    rfl
  have hstart : Books owned [] [] s₂.gateway s₂.registry := by
    rw [hlooking]
    exact .kept rfl htenant (by rw [backlog, hempty]; rfl)
  have hbooks := books_run (own.after hrun₂) hstart run
  rw [Scene.sent, Scene.accepted, Scene.log_append _ hrun₂, Scene.log_append _ hrun₂, ← Scene.sent,
    ← Scene.accepted, hsent, haccepted]
  exact hbooks

/-! ### Connections that drain -/

/-- The device is attached and silent, and what is sent to it does not fail. -/
def Quiet (l : Link α) : Prop :=
  l.up.receive = .waits ∧ ∀ frame fault, l.down.send frame ≠ .failed fault

/-- Nothing is on its way up, and frames go down. -/
def isOpen (l : Link α) : Bool :=
  l.up.items.isEmpty && !l.up.ended && !l.up.closed && l.down.fuse.isNone && !l.down.closed

theorem quiet_of_isOpen {l : Link α} (h : isOpen l = true) : Quiet l := by
  simp only [isOpen, Bool.and_eq_true, List.isEmpty_iff, Bool.not_eq_true', Option.isNone_iff_eq_none]
    at h
  obtain ⟨⟨⟨⟨hitems, hended⟩, hclosed⟩, hfuse⟩, hdown⟩ := h
  refine ⟨by simp [Channel.receive, hitems, hended, hclosed], fun frame fault hfailed => ?_⟩
  simp only [Channel.send, hfuse, hdown, Bool.false_eq_true, if_false] at hfailed
  split at hfailed <;> cases hfailed

/-- The greatest number of steps until a connection without a session has left. -/
def labor (owned : Registration) (g : Gateway α) (r : Registry α) : Nat :=
  match g with
  | .serving _ => 2 * (r.commands owned.connection).length + 1
  | .forwarding _ _ => 2 * (r.commands owned.connection).length + 2
  | .hearing _ _ => 2 * (r.commands owned.connection).length + 2
  | _ => 0

theorem labor_le {g : Gateway α} (serves : g.Serves owned) (r : Registry α) :
    0 < labor owned g r ∧ labor owned g r ≤ 2 * (backlog owned g r).length + 2 := by
  rcases serves_iff.mp serves with rfl | ⟨command, rfl⟩ | ⟨frame, rfl⟩ <;>
    simp only [labor, backlog, held, List.length_append, List.length_cons, List.length_nil] <;> omega

theorem isFull_of_waits {μ : Type} {c : Channel μ} {m : μ} (h : c.send m = .waits) :
    c.isFull = true := by
  unfold Channel.send at h
  split at h
  · cases h
  · split at h
    · cases h
    · split at h
      · next hfull => exact hfull
      · cases h

section Quiet

variable {now : Millis} {wall : Timestamp} {s : Site α} {g : Gateway α} {choice : Choice}
  {x : Gateway α × Site α}

/-- A step that is taken while all is quiet: it brings the end nearer, or it is the end. -/
theorem toils_of_step (quiet : Quiet s.link) (serves : g.Serves owned)
    (tenant : Tenant s.kernel.registry owned) (h : g.step now wall s choice = some x) :
    x.1.Serves owned ∧ labor owned x.1 x.2.kernel.registry + 1 = labor owned g s.kernel.registry ∨
      x.1 = .leaving owned (.ok ()) ∧ backlog owned g s.kernel.registry = [] := by
  rcases serves_iff.mp serves with rfl | ⟨command, rfl⟩ | ⟨frame, rfl⟩
  · cases choice with
    | command =>
      simp only [step] at h
      split at h
      · next command rest hreceive =>
        cases h
        obtain ⟨-, hcommands⟩ := tenant.receive hreceive
        refine .inl ⟨rfl, ?_⟩
        show 2 * ((s.kernel.registry.leave owned.connection rest).commands
          owned.connection).length + 2 + 1 = 2 * (s.kernel.registry.commands owned.connection).length + 1
        rw [hcommands, List.length_cons]
        omega
      · next hreceive =>
        cases h
        exact .inr ⟨rfl, tenant.nil_of_ended hreceive⟩
      · cases h
    | inbound =>
      simp only [step, quiet.1] at h
      cases h
    | proceed | expiry => cases h
  · cases choice with
    | proceed =>
      rcases send_cases h with ⟨down, -, rfl⟩ | ⟨fault, hfailed, -⟩
      · exact .inl ⟨rfl, rfl⟩
      · exact absurd hfailed (quiet.2 _ fault)
    | command | inbound | expiry => cases h
  · cases choice with
    | proceed =>
      cases h
      obtain ⟨-, hqueues⟩ := apply_leaves wall owned s.kernel.registry frame
      refine .inl ⟨rfl, ?_⟩
      show 2 * ((apply wall owned s.kernel.registry frame).commands owned.connection).length + 1 + 1 =
        2 * (s.kernel.registry.commands owned.connection).length + 2
      rw [commands_congr hqueues]
    | command | inbound | expiry => cases h

/-- With room for a frame, a connection without a session can go on. -/
theorem can_step (room : s.link.down.isFull = false) (serves : g.Serves owned)
    (tenant : Tenant s.kernel.registry owned)
    (removed : s.kernel.registry.owner owned.scooter ≠ some owned) (now : Millis) (wall : Timestamp) :
    ∃ choice x, g.step now wall s choice = some x := by
  rcases serves_iff.mp serves with rfl | ⟨command, rfl⟩ | ⟨frame, rfl⟩
  · refine ⟨.command, ?_⟩
    have hready := tenant.receive_ne_waits removed
    simp only [step]
    cases hreceive : s.kernel.registry.receive owned.connection with
    | item command rest => exact ⟨_, rfl⟩
    | ended => exact ⟨_, rfl⟩
    | waits => exact absurd hreceive hready
  · refine ⟨.proceed, ?_⟩
    show ∃ x, send s (.dispatch command) _ _ = some x
    unfold send
    cases hsend : s.link.down.send (.ok (.dispatch command)) with
    | sent down => exact ⟨_, rfl⟩
    | failed fault => exact ⟨_, rfl⟩
    | waits => exact absurd (isFull_of_waits hsend) (by simp [room])
  · exact ⟨.proceed, _, rfl⟩

end Quiet

/-- What a connection does after its session was removed. -/
inductive Drains (owned : Registration) (sent accepted : List (Dispatch α)) (spent total : Nat)
    (g : Gateway α) (r : Registry α) : Prop
  | working (serves : g.Serves owned) (tenant : Tenant r owned)
      (balance : accepted = sent ++ backlog owned g r) (toil : spent + labor owned g r = total)
  | returned (done : g = .leaving owned (.ok ()) ∨ g = .finished (.ok owned.scooter))
      (all : sent = accepted)

theorem drains_step {now : Millis} {wall : Timestamp} {s : Site α} {g : Gateway α} {choice : Choice}
    {x : Gateway α × Site α} {sent accepted : List (Dispatch α)} {spent total : Nat}
    (h : Drains owned sent accepted spent total g s.kernel.registry) (quiet : Quiet s.link)
    (step : g.step now wall s choice = some x) :
    Drains owned (sent ++ sentBy s x) accepted (spent + 1) total x.1 x.2.kernel.registry := by
  cases h with
  | working serves tenant balance toil =>
    have handles := handles_of_step (keeps_of_serves serves) tenant step
    rcases toils_of_step quiet serves tenant step with ⟨serves', hlabor⟩ | ⟨hleaving, hnil⟩
    · cases handles with
      | goes keeps tenant' balance' =>
        refine .working serves' tenant' ?_ (by omega)
        rw [balance, balance', List.append_assoc]
      | leaves gateway idle =>
        rw [gateway] at serves'
        exact serves'.elim
    · cases handles with
      | goes keeps tenant' balance' =>
        rw [hleaving] at keeps
        exact keeps.elim
      | leaves gateway idle =>
        exact .returned (.inl hleaving) (by rw [idle, balance, hnil])
  | returned done all =>
    rcases done with rfl | rfl
    · cases choice with
      | proceed =>
        cases step
        have hidle : sentBy s (finish (s.free owned) (.ok owned.scooter)) = [] := sentBy_of_same rfl
        exact .returned (.inr rfl) (by
          show sent ++ sentBy s (finish (s.free owned) (.ok owned.scooter)) = accepted
          rw [hidle, List.append_nil, all])
      | _ => cases step
    · cases choice <;> cases step

/-- What others call adds nothing for a connection without a session. -/
theorem drains_call {r : Registry α} {g : Gateway α} {sent accepted : List (Dispatch α)}
    {spent total : Nat} {c : Call α} (h : Drains owned sent accepted spent total g r)
    (removed : r.owner owned.scooter ≠ some owned)
    (others : g.owned? = some owned → ¬ c.Receives owned.connection) :
    Drains owned sent accepted spent total g (r.perform c) := by
  cases h with
  | working serves tenant balance toil =>
    obtain ⟨tenant', hcommands⟩ := tenant.orders (others (owned_of_keeps (keeps_of_serves serves)))
    have hsame : (r.perform c).commands owned.connection = r.commands owned.connection := by
      rw [hcommands, accepted?_of_removed removed]
      exact List.append_nil _
    refine .working serves tenant' ?_ ?_
    · rw [balance, backlog, backlog, hsame]
    · rw [← toil]
      show spent + labor owned g (r.perform c) = spent + labor owned g r
      unfold labor
      rw [hsame]
  | returned done all => exact .returned done all

/-- An event is a step of the connection. -/
def Event.isStep : Event α → Bool
  | .step _ => true
  | _ => false

/-- **A connection without a session drains.**  By induction over the run, from its end. -/
theorem drains_run {s s' : Scene α} {back : List (Event α)} {sent accepted : List (Dispatch α)}
    {total : Nat} (own : s.OwnQueue back) (quiet : ∀ x ∈ s.trail back, Quiet x.1.site.link)
    (removed : Removed s.registry owned)
    (start : Drains owned sent accepted 0 total s.gateway s.registry) (run : s.run back = some s') :
    Removed s'.registry owned ∧ s.accepted owned back = [] ∧
      Drains owned (sent ++ s.sent back) accepted (back.countP Event.isStep) total s'.gateway
        s'.registry := by
  induction back using List.reverseRecOn generalizing s' with
  | nil =>
    cases run
    exact ⟨removed, rfl, (List.append_nil sent).symm ▸ start⟩
  | append_singleton events e ih =>
    rw [Scene.run_snoc] at run
    obtain ⟨s₁, hrun, hstep⟩ := Option.bind_eq_some_iff.mp run
    rw [Scene.OwnQueue, Scene.trail_snoc hrun, List.forall_mem_append, List.forall_mem_singleton]
      at own
    rw [Scene.trail_snoc hrun, List.forall_mem_append, List.forall_mem_singleton] at quiet
    obtain ⟨hremoved, hnone, hdrains⟩ := ih own.1 quiet.1 hrun
    rw [Scene.accepted, Scene.sent, Scene.log_snoc _ hrun, Scene.log_snoc _ hrun, ← Scene.accepted,
      ← Scene.sent, hnone, ← List.append_assoc, List.countP_append]
    cases e with
    | step choice =>
      obtain ⟨x, hx, rfl, hsends⟩ := Scene.step_eq_some hstep
      obtain ⟨calls, -, hregistry⟩ := conduct_of_step hx
      have hremoved' : Removed x.2.kernel.registry owned := hregistry ▸ hremoved.run calls
      refine ⟨hremoved', rfl, ?_⟩
      rw [hsends]
      exact drains_step hdrains quiet.2 hx
    | call c =>
      cases hstep
      refine ⟨hremoved.perform c, ?_, ?_⟩
      · show [] ++ (s₁.registry.accepted? owned c).toList = []
        rw [accepted?_of_removed hremoved.gone]
        rfl
      · show Drains owned (_ ++ []) _ _ _ s₁.gateway (s₁.registry.perform c)
        rw [List.append_nil]
        exact drains_call hdrains hremoved.gone (own.2 owned)
    | world now wall store link =>
      cases hstep
      refine ⟨hremoved, rfl, ?_⟩
      show Drains owned (_ ++ []) _ _ _ s₁.gateway s₁.registry
      rw [List.append_nil]
      exact hdrains

/-- **The commands that a connection sends.**  Whatever the others call — other connections claim, are
removed, leave and receive, and anybody dispatches and unregisters — and whatever becomes of the clocks,
the store and the link:

* before it claims a slot, the connection sends no command;
* behind its claim, what it has sent is a prefix of the commands that were dispatched, with success, while
  the slot belonged to this very registration;
* when its session was removed while it serves, the device stays attached and silent, and what is sent
  does not fail, then from there on it returns well with everything sent that was accepted, or it still
  serves, after at most two steps for each command that was left to send and one more; and it can go on
  as soon as the link has room;
* a dispatch that is refused names the scooter, and leaves everything as it is. -/
theorem commands_sent (hub : Hub α) (history : List (Call α)) (store : Store α) (link : Link α)
    (now : Millis) (wall : Timestamp) (events : List (Event α)) (s₀ s : Scene α)
    (start : s₀ = .start now wall ⟨⟨after hub history, store⟩, link⟩)
    (run : s₀.run events = some s) (own : s₀.OwnQueue events) :
    (¬ HasClaimed s₀ events → s₀.sent events = []) ∧
    (∀ before choice back owned, events = before ++ .step choice :: back →
      Claims s₀ before choice owned → s₀.sent events <+: s₀.accepted owned events) ∧
    (∀ owned, s.gateway.Serves owned → s.registry.owner owned.scooter ≠ some owned →
      ∀ back s', s.run back = some s' → s₀.OwnQueue (events ++ back) →
        (∀ x ∈ s.trail back, Quiet x.1.site.link) →
          (s'.gateway = .leaving owned (.ok ()) ∨ s'.gateway = .finished (.ok owned.scooter)) ∧
              s₀.sent (events ++ back) = s₀.accepted owned (events ++ back) ∨
            s'.gateway.Serves owned ∧
              back.countP Event.isStep ≤
                2 * ((s₀.accepted owned events).length - (s₀.sent events).length) + 1 ∧
              (s'.site.link.down.isFull = false → ∃ choice s'', s'.step (.step choice) = some s'')) ∧
    ∀ id destination trip fault, s.registry.dispatch id destination trip = .error fault →
      fault = .notRegistered id ∧ s.step (.call (.dispatch id destination trip)) = some s := by
  have free : s₀.owned? = none := by rw [start]; rfl
  have registry : s₀.registry = after hub history := by rw [start]; rfl
  refine ⟨?_, ?_, ?_, ?_⟩
  · intro unclaimed
    rcases unsent_or_claimed free run with ⟨-, hnone⟩ | ⟨claimed, -⟩
    · exact hnone
    · exact absurd claimed unclaimed
  · intro before choice back owned split claims
    exact (books_of_claims free registry own run split claims).front
  · intro owned serves removed back s' hback hown quiet
    have hholds : s.owned? = some owned := owned_of_keeps (keeps_of_serves serves)
    obtain ⟨before, choice, rest, owned', split, claims⟩ : HasClaimed s₀ events := by
      rcases unsent_or_claimed free run with ⟨hfree, -⟩ | ⟨claimed, -⟩
      · rw [hholds] at hfree
        cases hfree
      · exact claimed
    cases books_of_claims free registry own run split claims with
    | closed going front =>
      cases hg : s.gateway <;> rw [hg] at serves going <;> first | exact serves.elim | exact going.elim
    | kept keeps tenant balance =>
      obtain rfl : owned' = owned :=
        Option.some.inj ((owned_of_keeps keeps).symm.trans hholds)
      obtain ⟨hpositive, hbound⟩ := labor_le serves s.registry
      have hlength : (s₀.accepted owned' events).length - (s₀.sent events).length =
          (backlog owned' s.gateway s.registry).length := by
        rw [balance, List.length_append, Nat.add_sub_cancel_left]
      obtain ⟨hremoved, hnone, hdrains⟩ := drains_run (hown.after run) quiet ⟨tenant.number, removed⟩
        (.working serves tenant balance (Nat.zero_add _)) hback
      have hsent : s₀.sent (events ++ back) = s₀.sent events ++ s.sent back :=
        Scene.log_append _ run back
      have haccepted : s₀.accepted owned' (events ++ back) = s₀.accepted owned' events := by
        rw [Scene.accepted, Scene.log_append _ run, ← Scene.accepted, ← Scene.accepted, hnone]
        exact List.append_nil _
      rw [hsent, haccepted, hlength]
      cases hdrains with
      | returned done all => exact .inl ⟨done, all⟩
      | working serves' tenant' balance' toil =>
        obtain ⟨hpositive', -⟩ := labor_le serves' s'.registry
        refine .inr ⟨serves', by omega, fun room => ?_⟩
        obtain ⟨choice, x, hx⟩ := can_step room serves' tenant' hremoved.gone s'.now s'.wall
        exact ⟨choice, _, Option.map_eq_some_iff.mpr ⟨x, hx, rfl⟩⟩
  · intro id destination trip fault h
    obtain ⟨hfault, hsame⟩ := dispatch_refused h
    refine ⟨hfault, ?_⟩
    show some { s with site := s.site.withRegistry (s.registry.perform _) } = some s
    rw [hsame]
    rfl

/-- A device that says hello for scooter 1, and is silent. -/
def silentVisit : Scene Int :=
  .start 0 ⟨2024, 5, 1, 12, 0, 0, 0, 0⟩
    ⟨⟨after (.create 8) [], .seeded [⟨1, "Segway", ⟨0, 0⟩, 80, none⟩] []⟩,
      ⟨⟨[.ok (.hello (some 1))], none, false, false, none⟩, .unbounded⟩⟩

/-- It gets two commands; then its session is removed, and a newer connection of the same scooter gets and
receives a command of its own. -/
def overtaken : List (Event Int) :=
  [.step .inbound, .step .proceed, .step .proceed, .step .proceed, .step .proceed, .step .proceed,
    .call (.dispatch 1 ⟨3, 4⟩ none), .call (.dispatch 1 ⟨5, 6⟩ none), .call (.unregister 1),
    .call (.register ⟨2024, 5, 1, 12, 0, 0, 0, 0⟩ 1), .call (.dispatch 1 ⟨7, 8⟩ none),
    .call (.take 1)]

/-- The old connection sends what it has. -/
def drainage : List (Event Int) :=
  [.step .command, .step .proceed, .step .command, .step .proceed, .step .command, .step .proceed]

theorem commands_sent_overtaken :
    ∃ s s', silentVisit.run overtaken = some s ∧ s.run drainage = some s' ∧
      s.registry.owner 1 = some ⟨1, 1⟩ ∧ s'.gateway = .finished (.ok 1) ∧
      silentVisit.sent (overtaken ++ drainage) = [⟨1, ⟨3, 4⟩, none⟩, ⟨1, ⟨5, 6⟩, none⟩] ∧
      silentVisit.accepted ⟨1, 1⟩ (overtaken ++ drainage) = [⟨1, ⟨7, 8⟩, none⟩] := by
  obtain ⟨s, run, hserving, howner, hopen, s', run', hfinished⟩ : ∃ s,
      silentVisit.run overtaken = some s ∧ s.gateway = .serving ⟨1, 0⟩ ∧
      s.registry.owner 1 = some ⟨1, 1⟩ ∧
      ((s.trail drainage).all fun x => isOpen x.1.site.link) = true ∧
      ∃ s', s.run drainage = some s' ∧ s'.gateway = .finished (.ok 1) := by
    refine ⟨_, rfl, ?_⟩
    exact ⟨rfl, rfl, rfl, _, rfl, rfl⟩
  have serves : s.gateway.Serves ⟨1, 0⟩ := hserving ▸ rfl
  have removed : s.registry.owner 1 ≠ some ⟨1, 0⟩ := by
    rw [howner]
    decide
  have quiet : ∀ x ∈ s.trail drainage, Quiet x.1.site.link := fun x hx =>
    quiet_of_isOpen (List.all_eq_true.mp hopen x hx)
  obtain ⟨-, -, drains, -⟩ := commands_sent _ [] _ _ _ _ overtaken silentVisit s rfl run (by decide)
  refine ⟨s, s', run, run', howner, hfinished, ?_, rfl⟩
  rcases drains ⟨1, 0⟩ serves removed drainage s' run' (by decide) quiet with ⟨-, all⟩ | ⟨serves', -⟩
  · exact all
  · rw [hfinished] at serves'
    exact serves'.elim

end Gateway
end ScooterFleet
