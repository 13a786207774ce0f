import ScooterFleet.Proofs.Gateway.Farewell
import ScooterFleet.Proofs.Link.Ends
import ScooterFleet.Proofs.Registry.Orders

/-!
# The commands that a connection sends

A scooter's connections come one after the other, and an old one may still send what it has while a newer
one is served.  What others call meanwhile is left open, but the queue of a connection is received by that
connection only.

* `Scene.log` — what is noted of a run, event by event; `sent` and `accepted` are such notes;
* `Scene.OwnQueue` — the queue is received by its own connection only;
* `sentBy_of_step` — a step sends the command that the connection has in its hands, or none;
* `claims_of_step`, `holds_of_grant` — the step with which a connection claims its slot, and the registration
  that it holds from then on;
* `unsent_or_claimed` — **before its claim, a connection has sent nothing.**

What becomes of the commands of a connection that has claimed its slot is in `Proofs.Gateway.Drain`.
-/

namespace ScooterFleet
namespace Gateway

open Registry

variable {α : Type}

/-! ### Notes of a run -/

/-- The command in a frame. -/
def dispatch? : Except LinkFault (ServerFrame α) → Option (Dispatch α)
  | .ok (.dispatch command) => some command
  | _ => none

/-- The commands that a step puts on the link. -/
def sentBy (s : Site α) (x : Gateway α × Site α) : List (Dispatch α) :=
  (x.2.link.down.items.drop s.link.down.items.length).filterMap dispatch?

namespace Scene

/-- What is noted of the events of a run, each in the state before it. -/
def log {β : Type} (note : Scene α → Event α → List β) : Scene α → List (Event α) → List β
  | _, [] => []
  | s, e :: events => note s e ++ (s.step e).elim [] fun s' => log note s' events

/-- The commands that an event sends over the connection. -/
def sends (s : Scene α) : Event α → List (Dispatch α)
  | .step choice => (s.gateway.step s.now s.wall s.site choice).elim [] (sentBy s.site)
  | _ => []

/-- The command that an event orders of a registration. -/
def accepts (owned : Registration) (s : Scene α) : Event α → List (Dispatch α)
  | .call c => (s.registry.accepted? owned c).toList
  | _ => []

/-- The commands that were sent over the connection. -/
def sent (s : Scene α) (events : List (Event α)) : List (Dispatch α) := s.log sends events

/-- The commands that were dispatched, with success, while the slot belonged to this registration. -/
def accepted (owned : Registration) (s : Scene α) (events : List (Event α)) : List (Dispatch α) :=
  s.log (accepts owned) events

/-- The events of a run, each with the state before it. -/
def trail (s : Scene α) (events : List (Event α)) : List (Scene α × Event α) :=
  s.log (fun s e => [(s, e)]) events

/-- An event that leaves the commands of the connection to the connection. -/
def Spares (s : Scene α) : Event α → Prop
  | .call c => ∀ owned ∈ s.owned?, ¬ c.Receives owned.connection
  | _ => True

instance (s : Scene α) : (e : Event α) → Decidable (s.Spares e)
  | .call c => inferInstanceAs (Decidable (∀ owned ∈ s.owned?, ¬ c.Receives owned.connection))
  | .step _ | .world _ _ _ _ => inferInstanceAs (Decidable True)

/-- Nobody but the connection itself receives its commands. -/
def OwnQueue (s : Scene α) (events : List (Event α)) : Prop :=
  ∀ x ∈ s.trail events, x.1.Spares x.2

instance (s : Scene α) (events : List (Event α)) : Decidable (s.OwnQueue events) :=
  inferInstanceAs (Decidable (∀ x ∈ s.trail events, x.1.Spares x.2))

theorem log_append {β : Type} (note : Scene α → Event α → List β) {s s' : Scene α}
    {events : List (Event α)} (run : s.run events = some s') (events' : List (Event α)) :
    s.log note (events ++ events') = s.log note events ++ s'.log note events' := by
  induction events generalizing s with
  | nil =>
    cases run
    rfl
  | cons e events ih =>
    obtain ⟨s₁, hstep, hrun⟩ := Option.bind_eq_some_iff.mp run
    have hcons : ∀ l, s.log note (e :: l) = note s e ++ s₁.log note l := by
      intro l
      rw [log, hstep]
      rfl
    rw [List.cons_append, hcons, hcons, ih hrun, List.append_assoc]

theorem log_snoc {β : Type} (note : Scene α → Event α → List β) {s s' : Scene α}
    {events : List (Event α)} (run : s.run events = some s') (e : Event α) :
    s.log note (events ++ [e]) = s.log note events ++ note s' e := by
  have hone : s'.log note [e] = note s' e := by
    show note s' e ++ (s'.step e).elim [] (fun s'' => s''.log note []) = note s' e
    cases s'.step e <;> exact List.append_nil _
  rw [log_append note run, hone]

theorem run_append (s : Scene α) (events events' : List (Event α)) :
    s.run (events ++ events') = (s.run events).bind fun s' => s'.run events' :=
  List.foldlM_append

theorem trail_append {s s' : Scene α} {events : List (Event α)} (run : s.run events = some s')
    (events' : List (Event α)) : s.trail (events ++ events') = s.trail events ++ s'.trail events' :=
  log_append _ run events'

theorem trail_snoc {s s' : Scene α} {events : List (Event α)} (run : s.run events = some s')
    (e : Event α) : s.trail (events ++ [e]) = s.trail events ++ [(s', e)] :=
  log_snoc _ run e

theorem OwnQueue.after {s s' : Scene α} {events events' : List (Event α)}
    (h : s.OwnQueue (events ++ events')) (run : s.run events = some s') : s'.OwnQueue events' := by
  intro x hx
  refine h x ?_
  rw [trail_append run]
  exact List.mem_append_right _ hx

/-- A step of the connection, as a step of the gateway. -/
theorem step_eq_some {s s' : Scene α} {choice : Choice} (h : s.step (.step choice) = some s') :
    ∃ x, s.gateway.step s.now s.wall s.site choice = some x ∧
      s' = { s with gateway := x.1, site := x.2 } ∧ s.sends (.step choice) = sentBy s.site x := by
  obtain ⟨x, hx, rfl⟩ := Option.map_eq_some_iff.mp h
  refine ⟨x, hx, rfl, ?_⟩
  rw [sends, hx]
  rfl

end Scene

/-! ### What goes down -/

theorem sentBy_of_same {s : Site α} {x : Gateway α × Site α}
    (h : x.2.link.down.items = s.link.down.items) : sentBy s x = [] := by
  rw [sentBy, h, List.drop_length]
  rfl

theorem sentBy_of_sent {s : Site α} {x : Gateway α × Site α} {frame : ServerFrame α}
    {down : Channel (Except LinkFault (ServerFrame α))} {ms : List (Dispatch α)}
    (h : s.link.down.send (.ok frame) = .sent down) (hx : x.2.link.down.items = down.items)
    (frames : [.ok frame].filterMap dispatch? = ms) : sentBy s x = ms := by
  have hitems : x.2.link.down.items = s.link.down.items ++ [.ok frame] :=
    hx.trans (Channel.items_of_sent h)
  rw [sentBy, hitems, List.drop_left, frames]

/-- Only a connection that forwards a command sends one. -/
theorem sentBy_of_step {now : Millis} {wall : Timestamp} {s : Site α} {g : Gateway α}
    {choice : Choice} {x : Gateway α × Site α} (h : g.step now wall s choice = some x)
    (idle : ∀ owned command, g ≠ .forwarding owned command) : sentBy s x = [] := by
  unfold step at h
  split at h
  · cases g with
    | forwarding owned command => exact absurd rfl (idle owned command)
    | welcoming owned state =>
      rcases send_cases h with ⟨down, hsend, rfl⟩ | ⟨fault, -, rfl⟩
      · exact sentBy_of_sent hsend rfl rfl
      · exact sentBy_of_same rfl
    | refusing fault =>
      simp only [advance] at h
      rcases send_cases h with ⟨down, hsend, rfl⟩ | ⟨fault', -, rfl⟩
      · exact sentBy_of_sent hsend rfl rfl
      · exact sentBy_of_same rfl
    | checking id | listing | looking owned | registering id | choosing candidates =>
      simp only [advance] at h
      split at h <;> cases h <;> exact sentBy_of_same rfl
    | locating owned scooter =>
      cases h
      exact sentBy_of_same rfl
    | hearing owned frame =>
      cases h
      exact sentBy_of_same rfl
    | leaving owned result =>
      cases h
      exact sentBy_of_same rfl
    | greeting _ | serving _ | finished _ => cases h
  · split at h <;> cases h <;> exact sentBy_of_same rfl
  · split at h
    · cases h
      refine sentBy_of_same ?_
      unfold hear
      split <;> rfl
    · cases h
      exact sentBy_of_same rfl
    · cases h
  · split at h
    · cases h
      refine sentBy_of_same ?_
      unfold greet
      split <;> rfl
    · cases h
      exact sentBy_of_same rfl
    · cases h
  · split at h <;> cases h
    exact sentBy_of_same rfl
  · cases h

/-! ### Before a claim -/

/-- A connection looks up the scooter that it has claimed. -/
theorem looking_of_claim {now : Millis} {wall : Timestamp} {s : Site α} {g : Gateway α}
    {choice : Choice} {x : Gateway α × Site α} {owned : Registration}
    (h : g.step now wall s choice = some x) (free : g.owned? = none)
    (holds : x.1.owned? = some owned) : x.1 = .looking owned := by
  unfold step at h
  split at h
  · cases g with
    | registering id | choosing candidates =>
      simp only [advance] at h
      split at h <;> cases h <;> cases holds
      rfl
    | checking id | listing =>
      simp only [advance] at h
      split at h <;> cases h <;> cases holds
    | refusing fault =>
      simp only [advance] at h
      rcases send_cases h with ⟨down, -, rfl⟩ | ⟨fault', -, rfl⟩ <;> cases holds
    | greeting _ | finished _ => cases h
    | _ => cases free
  · cases free
  · cases free
  · split at h
    · cases h
      unfold greet at holds
      split at holds <;> cases holds
    · cases h
      cases holds
    · cases h
  · split at h <;> cases h
    cases holds
  · cases h

/-- A step behind which a connection has a slot claims it. -/
theorem claims_of_step {now : Millis} {wall : Timestamp} {s : Site α} {g : Gateway α}
    {choice : Choice} {x : Gateway α × Site α} {owned : Registration}
    (h : g.step now wall s choice = some x) (free : g.owned? = none)
    (holds : x.1.owned? = some owned) :
    ∃ c, s.kernel.registry.granted? c = some owned ∧
      x.2.kernel.registry = s.kernel.registry.perform c := by
  obtain ⟨calls, conduct, hregistry⟩ := conduct_of_step h
  generalize x.1 = g' at conduct holds
  cases conduct with
  | outside before after unserved =>
    rw [after] at holds
    cases holds
  | @claims _ _ c owned' before grant after =>
    rw [after] at holds
    cases holds
    exact ⟨c, grant, hregistry⟩
  | idles before after | serves before after own =>
    rw [free] at before
    cases before
  | frees => cases free

/-- The registration that a step was granted is the connection's. -/
theorem holds_of_grant {now : Millis} {wall : Timestamp} {s : Site α} {g : Gateway α}
    {choice : Choice} {x : Gateway α × Site α} {owned : Registration} {c : Call α}
    (h : g.step now wall s choice = some x) (free : g.owned? = none)
    (numbers : ∀ id g, s.kernel.registry.owner id = some g → g.connection < s.kernel.registry.fresh)
    (grant : s.kernel.registry.granted? c = some owned)
    (registry : x.2.kernel.registry = s.kernel.registry.perform c) : x.1.owned? = some owned := by
  obtain ⟨hnumber, hfresh⟩ := connection_of_grant grant
  cases holds : x.1.owned? with
  | none =>
    obtain ⟨calls, conduct, hregistry⟩ := conduct_of_step h
    generalize x.1 = g' at conduct holds
    have hsame : x.2.kernel.registry = s.kernel.registry := by
      cases conduct with
      | outside before after unserved => exact hregistry
      | claims before grant after | idles before after | serves before after own =>
        rw [after] at holds
        cases holds
      | frees => cases free
    rw [← registry, hsame, hnumber] at hfresh
    exact absurd hfresh (Nat.lt_irrefl _)
  | some owned' =>
    obtain ⟨c', grant', hregistry'⟩ := claims_of_step h free holds
    have hmine : (s.kernel.registry.perform c').owner owned.scooter = some owned := by
      rw [← hregistry', registry]
      exact owner_perform_iff.mpr (.inl ⟨grant, rfl⟩)
    rcases owner_perform_iff.mp hmine with ⟨grant'', -⟩ | ⟨hold, -⟩
    · rw [← grant', grant'']
    · exact absurd (numbers _ _ hold) (Nat.not_lt.mpr (Nat.le_of_eq hnumber.symm))

/-- Whatever happens, the registry has a history. -/
theorem Scene.history_of_run {hub : Hub α} {h : List (Call α)} {s₀ s : Scene α}
    {events : List (Event α)} (history : s₀.registry = after hub h) (run : s₀.run events = some s) :
    ∃ h', s.registry = after hub h' := by
  induction events using List.reverseRecOn generalizing s with
  | nil =>
    cases run
    exact ⟨h, history⟩
  | append_singleton events e ih =>
    rw [Scene.run_snoc] at run
    obtain ⟨s', hrun, hstep⟩ := Option.bind_eq_some_iff.mp run
    obtain ⟨h', hh'⟩ := ih hrun
    cases e with
    | step choice =>
      obtain ⟨x, hx, rfl, -⟩ := Scene.step_eq_some hstep
      obtain ⟨calls, -, hregistry⟩ := conduct_of_step hx
      refine ⟨h' ++ calls, hregistry.trans ?_⟩
      rw [after_append, ← hh']
      rfl
    | call c =>
      cases hstep
      exact ⟨h' ++ [c], by rw [after_snoc, ← hh']; rfl⟩
    | world now wall store link =>
      cases hstep
      exact ⟨h', hh'⟩

/-- Nothing is ordered of a registration before its number is given out. -/
theorem Scene.accepted_of_future {hub : Hub α} {h : List (Call α)} {s₀ s : Scene α}
    {events : List (Event α)} {owned : Registration} (history : s₀.registry = after hub h)
    (run : s₀.run events = some s) (future : s.registry.fresh ≤ owned.connection) :
    s₀.accepted owned events = [] := by
  induction events using List.reverseRecOn generalizing s with
  | nil => rfl
  | append_singleton events e ih =>
    rw [Scene.run_snoc] at run
    obtain ⟨s', hrun, hstep⟩ := Option.bind_eq_some_iff.mp run
    have hfresh : s'.registry.fresh ≤ s.registry.fresh := by
      cases e with
      | step choice =>
        obtain ⟨x, hx, rfl, -⟩ := Scene.step_eq_some hstep
        obtain ⟨calls, -, hregistry⟩ := conduct_of_step hx
        show s'.site.kernel.registry.fresh ≤ x.2.kernel.registry.fresh
        exact hregistry ▸ fresh_le_run _ calls
      | call c =>
        cases hstep
        exact fresh_le_perform s'.registry c
      | world now wall store link =>
        cases hstep
        exact Nat.le_refl _
    have hfuture := Nat.le_trans hfresh future
    rw [Scene.accepted, Scene.log_snoc _ hrun, ← Scene.accepted, ih hrun hfuture, List.nil_append]
    cases e with
    | call c =>
      obtain ⟨h', hh'⟩ := Scene.history_of_run history hrun
      have hnot : s'.registry.owner owned.scooter ≠ some owned := by
        intro held
        rw [hh'] at held hfuture
        exact absurd (connection_lt_fresh hub h' held) (Nat.not_lt.mpr hfuture)
      show (s'.registry.accepted? owned c).toList = []
      rw [accepted?_of_removed hnot]
      rfl
    | step | world => rfl

/-- A connection that has a slot, or has come to its end. -/
def IsLate (g : Gateway α) : Prop := g.owned? ≠ none ∨ g.result? ≠ none

theorem not_isLate_of_step {now : Millis} {wall : Timestamp} {s : Site α} {g : Gateway α}
    {choice : Choice} {x : Gateway α × Site α} (h : g.step now wall s choice = some x)
    (free : g.owned? = none) : ¬ g.IsLate := by
  rintro (held | done)
  · exact held free
  · cases g with
    | finished result => cases choice <;> cases h
    | _ => exact done rfl

theorem IsLate.step {now : Millis} {wall : Timestamp} {s : Site α} {g : Gateway α} {choice : Choice}
    {x : Gateway α × Site α} (late : g.IsLate) (h : g.step now wall s choice = some x) :
    x.1.IsLate := by
  have held : g.owned? ≠ none := fun free => not_isLate_of_step h free late
  obtain ⟨calls, conduct, -⟩ := conduct_of_step h
  generalize x.1 = g' at conduct ⊢
  cases conduct with
  | outside before after unserved => exact absurd before held
  | claims before grant after | idles before after | serves before after own =>
    exact .inl fun hnone => by rw [after] at hnone; cases hnone
  | frees => exact .inr nofun

/-- The connection has claimed a slot in this run. -/
def HasClaimed (s₀ : Scene α) (events : List (Event α)) : Prop :=
  ∃ before choice back owned, events = before ++ .step choice :: back ∧
    Claims s₀ before choice owned

theorem HasClaimed.snoc {s₀ : Scene α} {events : List (Event α)} (h : HasClaimed s₀ events)
    (e : Event α) : HasClaimed s₀ (events ++ [e]) := by
  obtain ⟨before, choice, back, owned, split, claims⟩ := h
  exact ⟨before, choice, back ++ [e], owned, by rw [split]; simp, claims⟩

/-- Until a connection claims a slot, it sends no command. -/
theorem unsent_or_claimed {s₀ s : Scene α} (free : s₀.owned? = none) {events : List (Event α)}
    (run : s₀.run events = some s) :
    s.owned? = none ∧ s₀.sent events = [] ∨ HasClaimed s₀ events ∧ s.gateway.IsLate := by
  induction events using List.reverseRecOn generalizing s with
  | nil =>
    cases run
    exact .inl ⟨free, rfl⟩
  | append_singleton events e ih =>
    rw [Scene.run_snoc] at run
    obtain ⟨s', hrun, hstep⟩ := Option.bind_eq_some_iff.mp run
    have hsent : s₀.sent (events ++ [e]) = s₀.sent events ++ s'.sends e :=
      Scene.log_snoc Scene.sends hrun e
    cases e with
    | step choice =>
      have hscene := hstep
      obtain ⟨x, hx, rfl, hsends⟩ := Scene.step_eq_some hstep
      rcases ih hrun with ⟨hfree, hnone⟩ | ⟨claimed, late⟩
      · have hidle : s'.sends (.step choice) = [] := by
          rw [hsends]
          refine sentBy_of_step hx fun owned command hg => ?_
          rw [Scene.owned?, hg] at hfree
          cases hfree
        cases hholds : x.1.owned? with
        | none => exact .inl ⟨hholds, by rw [hsent, hnone, hidle]; rfl⟩
        | some owned =>
          have hlate : x.1.IsLate := .inl fun h => by rw [hholds] at h; cases h
          obtain ⟨c, grant, hregistry⟩ := claims_of_step hx hfree hholds
          exact .inr ⟨⟨events, choice, [], owned, rfl, s', _, c, hrun, hfree, hscene, grant,
            hregistry⟩, hlate⟩
      · exact .inr ⟨claimed.snoc _, late.step hx⟩
    | call c =>
      cases hstep
      rcases ih hrun with ⟨hfree, hnone⟩ | ⟨claimed, late⟩
      · exact .inl ⟨hfree, by rw [hsent, hnone]; rfl⟩
      · exact .inr ⟨claimed.snoc _, late⟩
    | world now wall store link =>
      cases hstep
      rcases ih hrun with ⟨hfree, hnone⟩ | ⟨claimed, late⟩
      · exact .inl ⟨hfree, by rw [hsent, hnone]; rfl⟩
      · exact .inr ⟨claimed.snoc _, late⟩

end Gateway
end ScooterFleet
