import Mathlib.Data.Option.Basic
import ScooterFleet.Proofs.Fleet.Run
import ScooterFleet.Proofs.Hub.Holder
import ScooterFleet.Proofs.Hub.Indifference

/-!
# A fleet and its viewers

What happens to a fleet is told to the hub as a history of its operations: whoever publishes, every
viewer that looks, comes or goes.  The hub of a fleet is the hub after this history.

* `Event` / `follow` — all that may happen: any move of the fleet, any operation of viewers, and a bus
  that begins to fail or works again; what is not enabled changes nothing;
* `shown` / `history` — what happens to the hub meanwhile;
* `Alike` / `alike_follow` — **two fleets that differ in their hub, their bus and one task go on in the
  same way**, and show their hubs the same;
* `hub_follow` — the hub has this history.
-/

namespace ScooterFleet

variable {α : Type}

/-- What a step of a task does to the hub. -/
def Task.shown (hub : Hub α) : Task α → Choice → List (Hub.Op α)
  | .gateway _ g, .gateway c => g.shown c
  | .feed f, .feed .message => [.receive f.viewer]
  | .bridge viewer .listening, .bridge =>
    match hub.receive viewer with
    | .item _ _ => [.receive viewer]
    | _ => [.drop viewer]
  | _, _ => []

/-- The move is one of this task, or ends it. -/
def Move.isOf (b : TaskId) : Move α → Bool
  | .act id _ | .cancel id => id = b
  | _ => false

/-- The move leaves this viewer to its bridge, and lets no other bridge to the bus join.  Viewers come and
go by operations of the hub, one by one. -/
def Move.Leaves (i : ViewerId) : Move α → Prop
  | .watch _ => False
  | .join (.bridge _ _) _ => False
  | .join (.feed f) _ => f.viewer ≠ i
  | _ => True

/-- The task of this number keeps to its place: the bridge has its own number and viewer, and nobody else
has either. -/
def Task.Suits (b : TaskId) (i : ViewerId) (id : TaskId) : Task α → Prop
  | .bridge viewer _ => id = b ∧ viewer = i
  | .feed f => id ≠ b ∧ f.viewer ≠ i
  | _ => id ≠ b

namespace System

/-- What happens to a fleet. -/
inductive Event (α : Type) where
  | move (m : Move α)
  /-- Somebody subscribes, looks, goes or publishes. -/
  | hub (op : Hub.Op α)
  /-- The bus fails from now on, or works again. -/
  | bus (failing : Bool)

/-- What a move does to the hub. -/
def shownBy (s : System α) : Move α → List (Hub.Op α)
  | .act id c =>
    match s.tasks.get? id with
    | some t => t.shown s.registry.hub c
    | none => []
  | .call c => c.shown
  | .cancel id =>
    match s.tasks.get? id with
    | some (.bridge viewer _) => [.drop viewer]
    | some (.feed f) => [.drop f.viewer]
    | _ => []
  | _ => []

variable [Coordinate α]

/-- The system behind an event.  What is not enabled changes nothing. -/
def follow (s : System α) : Event α → System α
  | .move m => (s.move? m).getD s
  | .hub op => s.withHub (s.registry.hub.perform op)
  | .bus failing => { s with bus.failing := failing }

def followAll (s : System α) (es : List (Event α)) : System α := es.foldl follow s

/-- What an event does to the hub. -/
def shown (s : System α) : Event α → List (Hub.Op α)
  | .move m => if (s.move? m).isSome then s.shownBy m else []
  | .hub op => [op]
  | .bus _ => []

/-- What happens to the hub in the course of some events. -/
def history (s : System α) : List (Event α) → List (Hub.Op α)
  | [] => []
  | e :: es => s.shown e ++ (s.follow e).history es

@[simp] theorem followAll_snoc (s : System α) (es : List (Event α)) (e : Event α) :
    s.followAll (es ++ [e]) = (s.followAll es).follow e :=
  List.foldl_append

theorem history_snoc (s : System α) (es : List (Event α)) (e : Event α) :
    s.history (es ++ [e]) = s.history es ++ (s.followAll es).shown e := by
  induction es generalizing s with
  | nil => simp [history, followAll]
  | cons e' es ih =>
    rw [List.cons_append, history, ih, history, List.append_assoc]
    rfl

/-! ### Fleets that are alike -/

/-- The same system with this hub, another bus and another task of this number. -/
def Alike (b : TaskId) (hub : Hub α) (s s' : System α) : Prop :=
  ∃ bus tasks, s' = { s.withHub hub with bus, tasks } ∧ ∀ id, id ≠ b → tasks.get? id = s.tasks.get? id

omit [Coordinate α] in
theorem get?_insert_congr {b id : TaskId} {tasks tasks' : Table TaskId (Task α)} (t : Task α)
    (h : ∀ id, id ≠ b → tasks'.get? id = tasks.get? id) :
    ∀ j, j ≠ b → (tasks'.insert id t).get? j = (tasks.insert id t).get? j := by
  intro j hj
  rw [Table.get?_insert, Table.get?_insert, h j hj]

theorem rel_bind {β γ δ : Type} {R : γ → δ → Prop} (o : Option β) {f : β → Option γ}
    {f' : β → Option δ} (h : ∀ x, Option.Rel R (f x) (f' x)) :
    Option.Rel R (o.bind f) (o.bind f') := by
  cases o with
  | none => exact .none
  | some x => exact h x

/-- The bridge of this number is the only one, and nobody else has its viewer. -/
structure Tended (b : TaskId) (i : ViewerId) (s : System α) : Prop where
  begun : b < s.fresh
  suits : ∀ id t, s.tasks.get? id = some t → t.Suits b i id

section Act

variable {b id : TaskId} {s s' : System α} {hub : Hub α}

theorem alike_device (h : Alike b hub s s') (link : LinkId) (d : Device α) (c : Device.Choice) :
    Option.Rel (Alike b hub) (s.stepDevice id link d c) (s'.stepDevice id link d c) := by
  obtain ⟨bus, tasks, rfl, htasks⟩ := h
  refine rel_bind (s.links.get? link) fun l => rel_bind (d.step s.now l c) fun x => ?_
  exact .some ⟨bus, tasks.insert id _, rfl, get?_insert_congr _ htasks⟩

omit [Coordinate α] in
theorem alike_gateway (h : Alike b hub s s') (link : LinkId) (g : Gateway α) (c : Gateway.Choice) :
    Option.Rel (Alike b (hub.performAll (g.shown c))) (s.stepGateway id link g c)
      (s'.stepGateway id link g c) := by
  obtain ⟨bus, tasks, rfl, htasks⟩ := h
  refine rel_bind (s.links.get? link) fun l => ?_
  show Option.Rel _ ((g.step s.now s.wall ⟨s.kernel, l⟩ c).bind _)
    ((g.step s.now s.wall (Gateway.Site.withHub ⟨s.kernel, l⟩ hub) c).bind _)
  rw [Gateway.step_withHub, Option.bind_map]
  refine rel_bind _ fun x => ?_
  exact .some ⟨bus, tasks.insert id _, rfl, get?_insert_congr _ htasks⟩

theorem alike_rental (h : Alike b hub s s') (r : Rental α) (c : Rental.Choice) :
    Option.Rel (Alike b hub) (s.stepRental id r c) (s'.stepRental id r c) := by
  obtain ⟨bus, tasks, rfl, htasks⟩ := h
  show Option.Rel _ ((r.step s.moment s.terms s.kernel c).bind _)
    ((r.step s.moment s.terms (s.kernel.withHub hub) c).bind _)
  rw [Rental.step_withHub, Option.bind_map]
  refine rel_bind _ fun x => ?_
  exact .some ⟨bus, tasks.insert id _, rfl, get?_insert_congr _ htasks⟩

omit [Coordinate α] in
theorem alike_waiter (h : Alike b hub s s') (t : Ticket) (idle : Millis) (w : Waiter α)
    (c : Wait.Choice) :
    Option.Rel (Alike b hub) (s.stepWaiter id t idle w c) (s'.stepWaiter id t idle w c) := by
  obtain ⟨bus, tasks, rfl, htasks⟩ := h
  show Option.Rel _ ((w.step s.now idle s.registry t c).bind _)
    ((w.step s.now idle (s.registry.withHub hub) t c).bind _)
  rw [Waiter.step_withHub, Option.bind_map]
  refine rel_bind _ fun x => ?_
  exact .some ⟨bus, tasks.insert id _, rfl, get?_insert_congr _ htasks⟩

omit [Coordinate α] in
theorem alike_reporter (h : Alike b hub s s') (r : Reporter) :
    Option.Rel (Alike b hub) (s.stepReporter id r) (s'.stepReporter id r) := by
  obtain ⟨bus, tasks, rfl, htasks⟩ := h
  show Option.Rel _ ((r.step s.now s.kernel s.broker s.gauges s.bus).bind _)
    ((r.step s.now (s.kernel.withHub hub) s.broker s.gauges bus).bind _)
  unfold Reporter.step
  split
  · -- the reports differ, and so do the buses
    exact .some ⟨_, tasks.insert id _, rfl, get?_insert_congr _ htasks⟩
  · exact .none

omit [Coordinate α] in
theorem alike_feed (h : Alike b hub s s') (f : Feed α) (c : Feed.Choice)
    (seen : hub.viewers.get? f.viewer = s.registry.hub.viewers.get? f.viewer) :
    Option.Rel (Alike b (hub.performAll (Task.shown s.registry.hub (.feed f) (.feed c)))) (s.stepFeed id f c)
      (s'.stepFeed id f c) := by
  obtain ⟨bus, tasks, rfl, htasks⟩ := h
  have hreceive : hub.receive f.viewer = s.registry.hub.receive f.viewer := by
    unfold Hub.receive
    rw [seen]
  cases c with
  | message =>
    show Option.Rel _ ((f.step s.now s.registry.hub .message).bind _)
      ((f.step s.now hub .message).bind _)
    show Option.Rel (Alike b (hub.take? f.viewer).2) _ _
    simp only [Feed.step, Hub.take?, hreceive]
    cases s.registry.hub.receive f.viewer with
    | item m rest => exact .some ⟨bus, tasks.insert id _, rfl, get?_insert_congr _ htasks⟩
    | ended => exact .none
    | waits => exact .none
  | comment =>
    show Option.Rel _ ((f.step s.now s.registry.hub .comment).bind _)
      ((f.step s.now hub .comment).bind _)
    simp only [Feed.step]
    split
    · exact .some ⟨bus, tasks.insert id _, rfl, get?_insert_congr _ htasks⟩
    · exact .none

/-- **A task other than the one left open goes on in the same way.** -/
theorem alike_step {i : ViewerId} (h : Alike b hub s s') (c : Choice) (other : id ≠ b)
    (tended : Tended b i s)
    (seen : ∀ j, j ≠ i → hub.viewers.get? j = s.registry.hub.viewers.get? j) :
    Option.Rel (Alike b (hub.performAll (s.shownBy (.act id c)))) (s.step id c) (s'.step id c) := by
  have htask : s'.tasks.get? id = s.tasks.get? id := by
    obtain ⟨bus, tasks, rfl, htasks⟩ := h
    exact htasks id other
  cases ht : s.tasks.get? id with
  | none =>
    simp only [step, htask, ht]
    exact .none
  | some t =>
    have hshown : s.shownBy (.act id c) = t.shown s.registry.hub c := by simp only [shownBy, ht]
    rw [hshown]
    simp only [step, htask, ht]
    cases t with
    | device link d =>
      cases c with
      | device c => exact alike_device h link d c
      | _ => exact .none
    | gateway link g =>
      cases c with
      | gateway c => exact alike_gateway h link g c
      | _ => exact .none
    | rental r =>
      cases c with
      | rental c => exact alike_rental h r c
      | _ => exact .none
    | waiter ticket idle w =>
      cases c with
      | waiter c => exact alike_waiter h ticket idle w c
      | _ => exact .none
    | bridge viewer g => exact absurd (tended.suits id _ ht).1 other
    | reporter r =>
      cases c with
      | reporter => exact alike_reporter h r
      | _ => exact .none
    | feed f =>
      cases c with
      | feed c => exact alike_feed h f c (seen _ (tended.suits id _ ht).2)
      | _ => exact .none

/-! ### Moves -/

omit [Coordinate α] in
theorem get?_erase_congr {b : TaskId} {tasks tasks' : Table TaskId (Task α)} (id : TaskId)
    (h : ∀ id, id ≠ b → tasks'.get? id = tasks.get? id) :
    ∀ j, j ≠ b → (tasks'.erase id).get? j = (tasks.erase id).get? j := by
  intro j hj
  rw [Table.get?_erase, Table.get?_erase, h j hj]

omit [Coordinate α] in
theorem alike_cancel {i : ViewerId} (h : Alike b hub s s') (tended : Tended b i s) (other : id ≠ b) :
    Alike b (hub.performAll (s.shownBy (.cancel id))) (s.cancel id) (s'.cancel id) := by
  have htask : s'.tasks.get? id = s.tasks.get? id := by
    obtain ⟨bus, tasks, rfl, htasks⟩ := h
    exact htasks id other
  obtain ⟨bus, tasks, rfl, htasks⟩ := h
  have herase := get?_erase_congr id htasks
  cases ht : s.tasks.get? id with
  | none =>
    have ht' := htask.trans ht
    simp only [cancel, shownBy, ht, ht']
    exact ⟨bus, tasks.erase id, rfl, herase⟩
  | some t =>
    have ht' := htask.trans ht
    simp only [cancel, shownBy, ht, ht']
    cases t with
    | device link d => exact ⟨bus, tasks.erase id, rfl, herase⟩
    | gateway link g =>
      cases hl : s.links.get? link with
      | none =>
        simp only [withHub, withRegistry, hl]
        exact ⟨bus, tasks.erase id, rfl, herase⟩
      | some l =>
        simp only [withHub, withRegistry, hl]
        exact ⟨bus, tasks.erase id, congrArg (fun site : Gateway.Site α =>
          { s with kernel := site.kernel, bus, tasks := tasks.erase id }.setLink link site.link)
          (Gateway.cancel_withHub ⟨s.kernel, l⟩ hub g), herase⟩
    | rental r =>
      exact ⟨bus, tasks.erase id, congrArg (fun kernel : Kernel α =>
        { s with kernel, bus, tasks := tasks.erase id }) (Rental.cancel_withHub s.kernel hub r), herase⟩
    | waiter ticket idle w =>
      exact ⟨bus, tasks.erase id, congrArg (fun registry : Registry α =>
        { s with bus, tasks := tasks.erase id }.withRegistry registry)
        (Registry.abandon_withHub s.registry hub ticket), herase⟩
    | bridge viewer g => exact absurd (tended.suits id _ ht).1 other
    | reporter r => exact ⟨bus, tasks.erase id, rfl, herase⟩
    | feed f => exact ⟨bus, tasks.erase id, rfl, herase⟩

/-- **A move of the others is the same in both fleets.** -/
theorem alike_move {i : ViewerId} {m : Move α} (h : Alike b hub s s') (tended : Tended b i s)
    (seen : ∀ j, j ≠ i → hub.viewers.get? j = s.registry.hub.viewers.get? j)
    (leaves : m.Leaves i) (other : m.isOf b = false) :
    Option.Rel (Alike b (hub.performAll (s.shownBy m))) (s.move? m) (s'.move? m) := by
  cases m with
  | act id c =>
    have hid : id ≠ b := by simpa [Move.isOf] using other
    exact alike_step h c hid tended seen
  | clock now wall =>
    obtain ⟨bus, tasks, rfl, htasks⟩ := h
    show Option.Rel _ (if s.now ≤ now then _ else _) (if s.now ≤ now then _ else _)
    split
    · exact .some ⟨bus, tasks, rfl, htasks⟩
    · exact .none
  | rent request =>
    obtain ⟨bus, tasks, rfl, htasks⟩ := h
    exact .some ⟨bus, _, rfl, get?_insert_congr _ htasks⟩
  | attach requested profile link =>
    obtain ⟨bus, tasks, rfl, htasks⟩ := h
    exact .some ⟨bus, _, rfl, get?_insert_congr _ (get?_insert_congr _ htasks)⟩
  | join t bystander =>
    obtain ⟨bus, tasks, rfl, htasks⟩ := h
    exact .some ⟨bus, _, rfl, get?_insert_congr _ htasks⟩
  | call c =>
    obtain ⟨bus, tasks, rfl, htasks⟩ := h
    exact .some ⟨bus, tasks, congrArg (fun registry : Registry α =>
      { s with bus, tasks }.withRegistry registry) (Registry.perform_withHub s.registry hub c), htasks⟩
  | watch hub' => exact leaves.elim
  | cancel id =>
    have hid : id ≠ b := by simpa [Move.isOf] using other
    exact .some (alike_cancel h tended hid)

/-! ### Events -/

/-- The event leaves this viewer to its bridge. -/
def Event.Leaves (i : ViewerId) : Event α → Prop
  | .move m => m.Leaves i
  | .hub op => op.isOf i = false
  | .bus _ => True

/-- The event is about the bridge of this number, or its bus. -/
def Event.isOf (b : TaskId) : Event α → Bool
  | .move m => m.isOf b
  | .hub _ => false
  | .bus _ => true

omit [Coordinate α] in
theorem shownBy_congr {i : ViewerId} {m : Move α} (h : Alike b hub s s') (tended : Tended b i s)
    (other : m.isOf b = false) : s'.shownBy m = s.shownBy m := by
  obtain ⟨bus, tasks, rfl, htasks⟩ := h
  cases m with
  | act id c =>
    have hid : id ≠ b := by simpa [Move.isOf] using other
    simp only [shownBy, htasks id hid]
    cases ht : s.tasks.get? id with
    | none => rfl
    | some t =>
      cases t with
      | bridge viewer g => exact absurd (tended.suits id _ ht).1 hid
      | gateway link g => cases c <;> rfl
      | feed f => rcases c with _ | _ | _ | _ | _ | _ | _ | _ <;> rfl
      | _ => rfl
  | cancel id =>
    have hid : id ≠ b := by simpa [Move.isOf] using other
    simp only [shownBy, htasks id hid]
  | _ => rfl

/-- **What happens to the others is the same in both fleets, and so is what it shows the hub.** -/
theorem alike_follow {i : ViewerId} {e : Event α} (h : Alike b hub s s') (tended : Tended b i s)
    (seen : ∀ j, j ≠ i → hub.viewers.get? j = s.registry.hub.viewers.get? j)
    (leaves : e.Leaves i) (other : e.isOf b = false) :
    Alike b (hub.performAll (s.shown e)) (s.follow e) (s'.follow e) ∧ s'.shown e = s.shown e := by
  cases e with
  | move m =>
    have hm := alike_move h tended seen leaves other
    have hshown := shownBy_congr h tended other
    simp only [shown, follow, hshown]
    cases hs : s.move? m with
    | none =>
      rw [hs] at hm
      cases hs' : s'.move? m with
      | none => exact ⟨h, rfl⟩
      | some s₁' => rw [hs'] at hm; cases hm
    | some s₁ =>
      rw [hs] at hm
      cases hs' : s'.move? m with
      | none => rw [hs'] at hm; cases hm
      | some s₁' =>
        rw [hs'] at hm
        cases hm with
        | some hm => exact ⟨hm, rfl⟩
  | hub op =>
    obtain ⟨bus, tasks, rfl, htasks⟩ := h
    exact ⟨⟨bus, tasks, rfl, htasks⟩, rfl⟩
  | bus failing => cases other

omit [Coordinate α] in
theorem Alike.refl (b : TaskId) (s : System α) : Alike b s.registry.hub s s :=
  ⟨s.bus, s.tasks, rfl, fun _ _ => rfl⟩

omit [Coordinate α] in
theorem Alike.hub_eq (h : Alike b hub s s') : s'.registry.hub = hub := by
  obtain ⟨bus, tasks, rfl, -⟩ := h
  rfl

/-- What happens to the others does to the hub what it shows. -/
theorem hub_follow {i : ViewerId} {e : Event α} (tended : Tended b i s) (leaves : e.Leaves i)
    (other : e.isOf b = false) :
    (s.follow e).registry.hub = s.registry.hub.performAll (s.shown e) :=
  (alike_follow (.refl b s) tended (fun _ _ => rfl) leaves other).1.hub_eq

end Act

end System
end ScooterFleet
