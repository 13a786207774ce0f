import ScooterFleet.Proofs.Gateway.Company
import ScooterFleet.Proofs.Link.Ends

/-!
# What a connection makes of what comes up

A connection that serves takes what its source gives, whatever that is, until the source is at its end or
broken.  It passes on the reports of its own scooter and goes over everything else.

* `Input` — what a source gives: a frame, a fault, or nothing more; `Input.verdict?` — how it ends the
  connection; `Input.own?` — the report that counts;
* `Works` / `works_of_step` — what a step of a serving connection takes, and what it does;
* `Intake` — **all runs** of a connection that serves, at any times, on any link, while others call;
* `Account` / `account_of_intake` — the run: the registry has what was done to it, and of what came up,
  the own reports were passed on, in their order.
-/

namespace ScooterFleet

open Registry

variable {α : Type}

/-! ### What comes up -/

/-- What a source of frames gives next: a frame or a fault, and nothing where it is at its end. -/
abbrev Input (α : Type) := Option (Except LinkFault (DeviceFrame α))

/-- What comes up a link next, if it is there already. -/
def Link.input? (l : Link α) : Option (Input α) :=
  match l.up.receive with
  | .item m _ => some (some m)
  | .ended => some none
  | .waits => none

namespace Input

/-- How a connection ends by this, if it does. -/
def verdict? : Input α → Option (Except DeviceFault Unit)
  | none => some (.ok ())
  | some (.ok _) => none
  | some (.error (.encoding _)) => none
  | some (.error fault) => some (.error (.link fault))

/-- The report that counts for this registration. -/
def own? (owned : Registration) : Input α → Option (DeviceFrame α)
  | some (.ok (.telemetry m)) => if m.scooter = owned.scooter then some (.telemetry m) else none
  | some (.ok (.tripEnded report)) =>
    if report.scooter = owned.scooter then some (.tripEnded report) else none
  | _ => none

/-- What a serving connection does next about this. -/
def reaction (owned : Registration) : Input α → Gateway α
  | none => .leaving owned (.ok ())
  | some (.ok frame) => .hearing owned frame
  | some (.error (.encoding _)) => .serving owned
  | some (.error fault) => .leaving owned (.error (.link fault))

end Input

open Input

/-! ### Connections at work -/

namespace Gateway

/-- A connection that serves waits, or does something about a command or a frame. -/
theorem serves_iff {owned : Registration} {g : Gateway α} : g.Serves owned ↔
    g = .serving owned ∨ (∃ command, g = .forwarding owned command) ∨
      ∃ frame, g = .hearing owned frame := by
  cases g <;> simp [Serves]

/-- The call that passes a report on, if it counts. -/
def report? (wall : Timestamp) (owned : Registration) : DeviceFrame α → Option (Call α)
  | .telemetry m => if m.scooter = owned.scooter then some (.telemetry wall m) else none
  | .tripEnded report =>
    if report.scooter = owned.scooter then some (.tripEnded wall report) else none
  | .hello _ => none

/-- What a connection at work does to the registry on its way from state to state. -/
def acts (wall : Timestamp) : Gateway α → Gateway α → List (Act α)
  | .serving owned, .forwarding _ _ => [.own (.take owned.connection)]
  | .forwarding _ _, .leaving _ (.error (.link fault)) => [.unsent fault]
  | .hearing owned frame, _ => ((report? wall owned frame).map Act.own).toList
  | _, _ => []

/-- What a connection takes from its link in this way to go on. -/
def taken (link : Link α) (choice : Choice) : List (Input α) :=
  if choice = .inbound then link.input?.toList else []

/-- A step of a connection at work: what it took from its source, and what it did to the registry. -/
inductive Works (owned : Registration) (r : Registry α) :
    Gateway α → Gateway α → List (Input α) → List (Act α) → Registry α → Prop
  | hears (x : Input α) : Works owned r (.serving owned) (reaction owned x) [x] [] r
  | takes (command : Dispatch α) :
    Works owned r (.serving owned) (.forwarding owned command) [] [.own (.take owned.connection)]
      (r.perform (.take owned.connection))
  /-- Its session was removed. -/
  | removed (removed : r.receive owned.connection = .ended) :
    Works owned r (.serving owned) (.leaving owned (.ok ())) [] [] r
  | sends (command : Dispatch α) : Works owned r (.forwarding owned command) (.serving owned) [] [] r
  | fails (command : Dispatch α) (fault : LinkFault) :
    Works owned r (.forwarding owned command) (.leaving owned (.error (.link fault))) []
      [.unsent fault] r
  | applies (wall : Timestamp) (frame : DeviceFrame α) :
    Works owned r (.hearing owned frame) (.serving owned) []
      ((report? wall owned frame).map Act.own).toList (apply wall owned r frame)

section Steps

variable {now : Millis} {wall : Timestamp} {s : Site α} {g : Gateway α} {x : Gateway α × Site α}
  {owned : Registration}

theorem hear_eq (owned : Registration) (s : Site α) (m : Except LinkFault (DeviceFrame α)) :
    hear owned s m = (reaction owned (some m), s) := by
  cases m with
  | ok frame => rfl
  | error fault => cases fault <;> rfl

theorem acts_reaction (wall : Timestamp) (owned : Registration) (y : Input α) :
    acts wall (.serving owned) (reaction owned y) = [] := by
  unfold reaction
  split <;> rfl

/-- **Every step of a connection at work is one of these.** -/
theorem works_of_step {choice : Gateway.Choice} (work : g.Serves owned)
    (h : g.step now wall s choice = some x) :
    Works owned s.kernel.registry g x.1 (taken s.link choice) (acts wall g x.1)
      x.2.kernel.registry := by
  rcases serves_iff.mp work with rfl | ⟨command, rfl⟩ | ⟨frame, rfl⟩
  · cases choice with
    | proceed | expiry => cases h
    | command =>
      simp only [step] at h
      split at h
      · next command rest hreceive =>
        cases h
        have hregistry : s.kernel.registry.leave owned.connection rest =
            s.kernel.registry.perform (.take owned.connection) := by
          simp [perform, hreceive]
        simp only [Site.withRegistry, hregistry]
        exact .takes command
      · next hreceive =>
        cases h
        exact .removed hreceive
      · cases h
    | inbound =>
      simp only [step] at h
      split at h
      · next m up hreceive =>
        cases h
        have htaken : taken s.link .inbound = [some m] := by
          simp [taken, Link.input?, hreceive]
        rw [htaken, hear_eq, acts_reaction]
        exact .hears (some m)
      · next hreceive =>
        cases h
        have htaken : taken s.link .inbound = [none] := by
          simp [taken, Link.input?, hreceive]
        rw [htaken]
        exact .hears none
      · cases h
  · cases choice with
    | proceed =>
      rcases send_cases h with ⟨down, -, rfl⟩ | ⟨fault, -, rfl⟩
      · exact .sends command
      · exact .fails command fault
    | command | inbound | expiry => cases h
  · cases choice with
    | proceed =>
      cases h
      exact .applies wall frame
    | command | inbound | expiry => cases h

end Steps

theorem apply_eq (wall : Timestamp) (owned : Registration) (r : Registry α) (frame : DeviceFrame α) :
    apply wall owned r frame = r.enactAll ((report? wall owned frame).map Act.own).toList := by
  cases frame with
  | hello scooter => rfl
  | telemetry m =>
    simp only [apply, report?]
    split <;> rfl
  | tripEnded report =>
    simp only [apply, report?]
    split <;> rfl

theorem Works.registry_eq {owned : Registration} {r r' : Registry α} {g g' : Gateway α}
    {xs : List (Input α)} {acts : List (Act α)} (h : Works owned r g g' xs acts r') :
    r' = r.enactAll acts := by
  cases h with
  | applies wall frame => exact apply_eq wall owned r frame
  | hears | takes | removed | sends | fails => rfl

theorem isOwn_of_report? {wall : Timestamp} {owned : Registration} {frame : DeviceFrame α}
    {c : Call α} (h : report? wall owned frame = some c) : c.IsOwn owned := by
  cases frame with
  | hello scooter => cases h
  | telemetry m =>
    obtain ⟨hm, rfl⟩ : m.scooter = owned.scooter ∧ Call.telemetry wall m = c := by
      simpa [report?] using h
    exact hm
  | tripEnded report =>
    obtain ⟨hm, rfl⟩ : report.scooter = owned.scooter ∧ Call.tripEnded wall report = c := by
      simpa [report?] using h
    exact hm

theorem Works.isOwn {owned : Registration} {r r' : Registry α} {g g' : Gateway α}
    {xs : List (Input α)} {acts : List (Act α)} (h : Works owned r g g' xs acts r') {c : Call α}
    (hc : .own c ∈ acts) : c.IsOwn owned := by
  cases h with
  | takes command =>
    obtain rfl : c = .take owned.connection := by simpa using hc
    rfl
  | applies wall frame =>
    have hreport : report? wall owned frame = some c := by simpa using hc
    exact isOwn_of_report? hreport
  | fails command fault => simp at hc
  | hears | removed | sends => cases hc

end Gateway

open Gateway

/-! ### Runs -/

/-- The runs of a connection from where it begins to serve: what came up so far, what was done to the
registry, and where the connection is.  It takes any of its steps, at any time, on any link and store;
others make any calls that leave it its session, and viewers come, go and receive as they like. -/
inductive Intake (owned : Registration) (r₀ : Registry α) :
    List (Input α) → List (Act α) → Gateway α → Registry α → Prop
  | start : Intake owned r₀ [] [] (.serving owned) r₀
  | goes {xs : List (Input α)} {acts : List (Act α)} {g : Gateway α} {r : Registry α} {now : Millis}
      {wall : Timestamp} {store : Store α} {link : Link α} {choice : Gateway.Choice}
      {next : Gateway α × Gateway.Site α} (run : Intake owned r₀ xs acts g r) (work : g.Serves owned)
      (step : g.step now wall ⟨⟨r, store⟩, link⟩ choice = some next) :
      Intake owned r₀ (xs ++ taken link choice) (acts ++ g.acts wall next.1) next.1
        next.2.kernel.registry
  | others {xs : List (Input α)} {acts : List (Act α)} {g : Gateway α} {r : Registry α} (c : Call α)
      (run : Intake owned r₀ xs acts g r) (work : g.Serves owned) (spares : c.Spares r owned) :
      Intake owned r₀ xs (acts ++ [.other c]) g (r.perform c)
  | views {xs : List (Input α)} {acts : List (Act α)} {g : Gateway α} {r : Registry α}
      (change : Hub α → Hub α) (run : Intake owned r₀ xs acts g r) (work : g.Serves owned) :
      Intake owned r₀ xs (acts ++ [.viewers change]) g { r with hub := change r.hub }

/-- How a connection ended: by what came up last, or by a command that it could not send. -/
inductive EndedBy (xs : List (Input α)) (acts : List (Act α)) : Except DeviceFault Unit → Prop
  | input {front : List (Input α)} {x : Input α} {result : Except DeviceFault Unit}
      (came : xs = front ++ [x]) (before : ∀ y ∈ front, verdict? y = none)
      (last : verdict? x = some result) (sent : ∀ fault, .unsent fault ∉ acts) :
      EndedBy xs acts result
  | unsent {front : List (Act α)} {fault : LinkFault} (done : acts = front ++ [.unsent fault])
      (before : ∀ fault, .unsent fault ∉ front) (open_ : ∀ y ∈ xs, verdict? y = none) :
      EndedBy xs acts (.error (.link fault))

/-- Whether a connection has ended, and how. -/
inductive Standing (owned : Registration) (xs : List (Input α)) (acts : List (Act α)) :
    Gateway α → Prop
  | working {g : Gateway α} (work : g.Serves owned) (open_ : ∀ y ∈ xs, verdict? y = none)
      (sent : ∀ fault, .unsent fault ∉ acts) : Standing owned xs acts g
  | left {result : Except DeviceFault Unit} (ended : EndedBy xs acts result) :
      Standing owned xs acts (.leaving owned result)

/-- The report that is heard but not passed on yet. -/
def pending (owned : Registration) : Gateway α → List (DeviceFrame α)
  | .hearing _ frame => (own? owned (some (.ok frame))).toList
  | _ => []

/-- What is known of a run. -/
structure Account (owned : Registration) (r₀ : Registry α) (xs : List (Input α)) (acts : List (Act α))
    (g : Gateway α) (r : Registry α) : Prop where
  registered : Registered r owned
  /-- The registry has what was done to it. -/
  registry : r = r₀.enactAll acts
  /-- The reports that count were passed on in their order. -/
  passed : acts.filterMap Act.report? ++ pending owned g = xs.filterMap (own? owned)
  /-- The connection has called for nobody else. -/
  own : ∀ c, .own c ∈ acts → c.IsOwn owned
  standing : Standing owned xs acts g

theorem report?_of_report? {wall : Timestamp} {owned : Registration} (frame : DeviceFrame α) :
    ((report? wall owned frame).map Act.own).toList.filterMap Act.report? =
      (own? owned (some (.ok frame))).toList := by
  cases frame with
  | hello scooter => rfl
  | telemetry m =>
    simp only [report?, own?]
    split <;> rfl
  | tripEnded report =>
    simp only [report?, own?]
    split <;> rfl

theorem pending_reaction (owned : Registration) (x : Input α) :
    pending owned (reaction owned x) = (own? owned x).toList := by
  match x with
  | none | some (.ok _) | some (.error (.encoding _)) | some (.error .closed)
  | some (.error (.transport _)) => rfl

theorem filterMap_snoc {β γ : Type} (f : β → Option γ) (xs : List β) (x : β) :
    (xs ++ [x]).filterMap f = xs.filterMap f ++ (f x).toList := by
  rw [List.filterMap_append]
  cases hf : f x with
  | none => rw [List.filterMap_cons_none hf]; rfl
  | some y => rw [List.filterMap_cons_some hf]; rfl

theorem reaction_of_verdict {owned : Registration} {x : Input α} {result : Except DeviceFault Unit}
    (h : verdict? x = some result) : reaction owned x = .leaving owned result := by
  match x with
  | none | some (.error .closed) | some (.error (.transport _)) =>
    cases h
    rfl
  | some (.ok _) | some (.error (.encoding _)) => cases h

theorem serves_reaction {owned : Registration} {x : Input α} (h : verdict? x = none) :
    (reaction owned x).Serves owned := by
  match x with
  | none | some (.error .closed) | some (.error (.transport _)) => cases h
  | some (.ok _) | some (.error (.encoding _)) => rfl

namespace Gateway.Works

variable {owned : Registration} {r r' : Registry α} {g g' : Gateway α} {xs : List (Input α)}
  {acts : List (Act α)}

/-- What is heard is passed on, or will be. -/
theorem passed (h : Works owned r g g' xs acts r') :
    acts.filterMap Act.report? ++ pending owned g' = pending owned g ++ xs.filterMap (own? owned) := by
  cases h with
  | hears x =>
    rw [pending_reaction]
    exact (filterMap_snoc (own? owned) [] x).symm
  | applies wall frame =>
    rw [report?_of_report?]
    rfl
  | takes | removed | sends | fails => rfl

theorem registered (h : Works owned r g g' xs acts r') (hr : Registered r owned) :
    Registered r' owned := by
  cases h with
  | takes command => exact hr.perform (spares_of_own rfl)
  | applies wall frame =>
    rw [apply_eq]
    cases hc : report? wall owned frame with
    | none => exact hr
    | some c => exact hr.perform (spares_of_own (isOwn_of_report? hc))
  | hears | removed | sends | fails => exact hr

/-- **One step**: a connection that is registered goes on working, or ends by what came or by a
command. -/
theorem standing {xs₀ : List (Input α)} {acts₀ : List (Act α)} (h : Works owned r g g' xs acts r')
    (hr : Registered r owned) (open_ : ∀ y ∈ xs₀, verdict? y = none)
    (sent : ∀ fault, .unsent fault ∉ acts₀) : Standing owned (xs₀ ++ xs) (acts₀ ++ acts) g' := by
  cases h with
  | hears x =>
    rw [List.append_nil]
    cases hx : verdict? x with
    | none =>
      refine .working (serves_reaction hx) ?_ sent
      intro y hy
      rcases List.mem_append.mp hy with hy | hy
      · exact open_ y hy
      · exact List.mem_singleton.mp hy ▸ hx
    | some result =>
      rw [reaction_of_verdict hx]
      exact .left (.input rfl open_ hx sent)
  | takes command =>
    rw [List.append_nil]
    refine .working rfl open_ fun fault hf => ?_
    rcases List.mem_append.mp hf with hf | hf
    · exact sent fault hf
    · simp at hf
  | removed removed => exact absurd removed hr.queue.receive_ne_ended
  | sends command =>
    rw [List.append_nil, List.append_nil]
    exact .working rfl open_ sent
  | fails command fault =>
    rw [List.append_nil]
    exact .left (.unsent rfl sent open_)
  | applies wall frame =>
    rw [List.append_nil]
    refine .working rfl open_ fun fault hf => ?_
    rcases List.mem_append.mp hf with hf | hf
    · exact sent fault hf
    · simp at hf

end Gateway.Works

namespace Account

variable {owned : Registration} {r₀ r r' : Registry α} {xs ys : List (Input α)}
  {acts acts' : List (Act α)} {g g' : Gateway α}

theorem working (h : Account owned r₀ xs acts g r) (work : g.Serves owned) :
    (∀ y ∈ xs, verdict? y = none) ∧ ∀ fault, .unsent fault ∉ acts := by
  cases h.standing with
  | working _ open_ sent => exact ⟨open_, sent⟩
  | left ended => exact work.elim

theorem start (registered : Registered r₀ owned) : Account owned r₀ [] [] (.serving owned) r₀ where
  registered := registered
  registry := rfl
  passed := rfl
  own := nofun
  standing := .working rfl nofun nofun

/-- A connection that ends has passed on all that it heard. -/
theorem ended {result : Except DeviceFault Unit}
    (h : Account owned r₀ xs acts (.leaving owned result) r) :
    EndedBy xs acts result ∧ acts.filterMap Act.report? = xs.filterMap (own? owned) := by
  refine ⟨?_, by simpa [pending] using h.passed⟩
  cases h.standing with
  | working work _ _ => exact work.elim
  | left ended => exact ended

/-- Somebody else does something. -/
theorem aside (h : Account owned r₀ xs acts g r) (work : g.Serves owned) {a : Act α}
    (registered : Registered (r.enact a) owned) (silent : a.report? = none)
    (other : ∀ c, a ≠ .own c) (sent : ∀ fault, a ≠ .unsent fault) :
    Account owned r₀ xs (acts ++ [a]) g (r.enact a) := by
  obtain ⟨hopen, hsent⟩ := h.working work
  refine ⟨registered, by rw [enactAll_snoc, ← h.registry], ?_, ?_, .working work hopen ?_⟩
  · rw [filterMap_snoc, silent]
    simpa using h.passed
  · intro c hc
    rcases List.mem_append.mp hc with hc | hc
    · exact h.own c hc
    · exact absurd (List.mem_singleton.mp hc).symm (other c)
  · intro fault hf
    rcases List.mem_append.mp hf with hf | hf
    · exact hsent fault hf
    · exact sent fault (List.mem_singleton.mp hf).symm

/-- The connection does something. -/
theorem goes (h : Account owned r₀ xs acts g r) (work : g.Serves owned)
    (move : Works owned r g g' ys acts' r') :
    Account owned r₀ (xs ++ ys) (acts ++ acts') g' r' := by
  obtain ⟨hopen, hsent⟩ := h.working work
  refine ⟨move.registered h.registered, ?_, ?_, ?_, move.standing h.registered hopen hsent⟩
  · rw [enactAll_append, ← h.registry]
    exact move.registry_eq
  · calc
      (acts ++ acts').filterMap Act.report? ++ pending owned g'
        = acts.filterMap Act.report? ++ (acts'.filterMap Act.report? ++ pending owned g') := by
          rw [List.filterMap_append, List.append_assoc]
      _ = acts.filterMap Act.report? ++ pending owned g ++ ys.filterMap (own? owned) := by
          rw [move.passed, List.append_assoc]
      _ = (xs ++ ys).filterMap (own? owned) := by rw [h.passed, List.filterMap_append]
  · intro c hc
    rcases List.mem_append.mp hc with hc | hc
    · exact h.own c hc
    · exact move.isOwn hc

end Account

/-- **The run**: the registry has what was done to it, and of what came up, the reports that count were
passed on. -/
theorem account_of_intake {owned : Registration} {r₀ r : Registry α} {xs : List (Input α)}
    {acts : List (Act α)} {g : Gateway α} (registered : Registered r₀ owned)
    (h : Intake owned r₀ xs acts g r) : Account owned r₀ xs acts g r := by
  induction h with
  | start => exact .start registered
  | goes run work step ih => exact ih.goes work (works_of_step work step)
  | others c run work spares ih =>
    exact ih.aside work (a := Act.other c) (ih.registered.perform spares) rfl nofun nofun
  | views change run work ih =>
    obtain ⟨owner, alone, number, queue⟩ := ih.registered
    exact ih.aside work (a := Act.viewers change) ⟨owner, alone, number, queue⟩ rfl nofun nofun

end ScooterFleet
