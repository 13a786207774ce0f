import ScooterFleet.Proofs.Bus.Account

/-!
# Two courses of one fleet

A fleet may take two courses in which the same happens to everybody but the bridge: the bus fails at
other times, or the bridge has its turns at other times.

* `follow_withFailing` / `exists_withFailing_followAll` — **a bus that fails changes nothing else**;
* `Twins` / `twins_followAll` — **the turns of the bridge change nothing but the bridge, its queue and
  its bus**: each course is compared with the one in which the bridge is never heard of.
-/

namespace ScooterFleet

variable {α : Type}

namespace System

/-! ### A bus that fails -/

/-- The same system with a bus that fails, or works. -/
def withFailing (s : System α) (failing : Bool) : System α := { s with bus.failing := failing }

def Event.isSwitch : Event α → Bool
  | .bus _ => true
  | _ => false

section Switch

variable (s : System α) (failing : Bool)

theorem cancel_withFailing (id : TaskId) :
    (s.withFailing failing).cancel id = (s.cancel id).withFailing failing := by
  have htask : (s.withFailing failing).tasks.get? id = s.tasks.get? id := rfl
  unfold cancel
  rw [htask]
  cases s.tasks.get? id with
  | none => rfl
  | some t =>
    cases t with
    | gateway link g =>
      have hlink : (s.withFailing failing).links.get? link = s.links.get? link := rfl
      simp only [hlink]
      cases s.links.get? link <;> rfl
    | _ => rfl

theorem stepGateway_withFailing (id : TaskId) (link : LinkId) (g : Gateway α) (c : Gateway.Choice) :
    (s.withFailing failing).stepGateway id link g c =
      (s.stepGateway id link g c).map (·.withFailing failing) := by
  simp only [stepGateway, withFailing]
  cases s.links.get? link with
  | none => rfl
  | some l =>
    show (g.step s.now s.wall ⟨s.kernel, l⟩ c).bind _ =
      ((g.step s.now s.wall ⟨s.kernel, l⟩ c).bind _).map _
    cases g.step s.now s.wall ⟨s.kernel, l⟩ c <;> rfl

theorem stepWaiter_withFailing (id : TaskId) (ticket : Ticket) (idle : Millis) (w : Waiter α)
    (c : Wait.Choice) : (s.withFailing failing).stepWaiter id ticket idle w c =
      (s.stepWaiter id ticket idle w c).map (·.withFailing failing) := by
  have hregistry : (s.withFailing failing).registry = s.registry := rfl
  simp only [stepWaiter, hregistry]
  simp only [withFailing]
  cases w.step s.now idle s.registry ticket c <;> rfl

/-- A bridge goes on whether its message was taken or not. -/
theorem stepBridge_withFailing (id : TaskId) (viewer : ViewerId) (g : Bridge α) :
    (s.withFailing failing).stepBridge id viewer g =
      (s.stepBridge id viewer g).map (·.withFailing failing) := by
  have hregistry : (s.withFailing failing).registry = s.registry := rfl
  cases g with
  | listening =>
    simp only [stepBridge, Bridge.step, hregistry]
    cases s.registry.hub.receive viewer <;> rfl
  | publishing m | finished => rfl

theorem stepReporter_withFailing (id : TaskId) (r : Reporter) :
    (s.withFailing failing).stepReporter id r = (s.stepReporter id r).map (·.withFailing failing) := by
  simp only [stepReporter, Reporter.step, withFailing]
  by_cases hdue : r.due ≤ s.now
  · simp only [hdue, if_true]
    rfl
  · simp only [hdue, if_false]
    rfl

theorem stepFeed_withFailing (id : TaskId) (f : Feed α) (c : Feed.Choice) :
    (s.withFailing failing).stepFeed id f c = (s.stepFeed id f c).map (·.withFailing failing) := by
  have hregistry : (s.withFailing failing).registry = s.registry := rfl
  simp only [stepFeed, hregistry]
  simp only [withFailing]
  cases f.step s.now s.registry.hub c <;> rfl

variable [Coordinate α]

theorem stepDevice_withFailing (id : TaskId) (link : LinkId) (d : Device α) (c : Device.Choice) :
    (s.withFailing failing).stepDevice id link d c =
      (s.stepDevice id link d c).map (·.withFailing failing) := by
  simp only [stepDevice, withFailing]
  cases s.links.get? link with
  | none => rfl
  | some l =>
    show (d.step s.now l c).bind _ = ((d.step s.now l c).bind _).map _
    cases d.step s.now l c <;> rfl

theorem stepRental_withFailing (id : TaskId) (r : Rental α) (c : Rental.Choice) :
    (s.withFailing failing).stepRental id r c = (s.stepRental id r c).map (·.withFailing failing) := by
  have hmoment : (s.withFailing failing).moment = s.moment := rfl
  simp only [stepRental, hmoment]
  simp only [withFailing]
  cases r.step s.moment s.terms s.kernel c <;> rfl

theorem step_withFailing (id : TaskId) (c : Choice) :
    (s.withFailing failing).step id c = (s.step id c).map (·.withFailing failing) := by
  have htask : (s.withFailing failing).tasks.get? id = s.tasks.get? id := rfl
  unfold step
  rw [htask]
  split
  · exact stepDevice_withFailing s failing id _ _ _
  · exact stepGateway_withFailing s failing id _ _ _
  · exact stepRental_withFailing s failing id _ _
  · exact stepWaiter_withFailing s failing id _ _ _ _
  · exact stepBridge_withFailing s failing id _ _
  · exact stepReporter_withFailing s failing id _
  · exact stepFeed_withFailing s failing id _ _
  · rfl

theorem move?_withFailing (m : Move α) :
    (s.withFailing failing).move? m = (s.move? m).map (·.withFailing failing) := by
  cases m with
  | act id c => exact step_withFailing s failing id c
  | cancel id => exact congrArg some (cancel_withFailing s failing id)
  | clock now wall =>
    simp only [move?, withFailing]
    by_cases hnow : s.now ≤ now
    · simp only [hnow, if_true]
      rfl
    · simp only [hnow, if_false]
      rfl
  | _ => rfl

/-- **Whether the bus fails makes no difference to what happens.** -/
theorem follow_withFailing {e : Event α} (h : e.isSwitch = false) :
    (s.withFailing failing).follow e = (s.follow e).withFailing failing := by
  cases e with
  | move m =>
    simp only [follow, move?_withFailing]
    cases s.move? m <;> rfl
  | hub op => rfl
  | bus failing => cases h

/-- **A fleet whose bus never changes differs in nothing else.** -/
theorem exists_withFailing_followAll (es : List (Event α)) :
    ∃ failing, s.followAll es = (s.followAll (es.filter fun e => !e.isSwitch)).withFailing failing := by
  induction es using List.reverseRecOn with
  | nil => exact ⟨s.bus.failing, rfl⟩
  | append_singleton es e ih =>
    obtain ⟨failing, ih⟩ := ih
    rw [followAll_snoc, ih, List.filter_append]
    cases he : e.isSwitch with
    | true =>
      cases e with
      | bus failing' => exact ⟨failing', by simp [Event.isSwitch]; rfl⟩
      | _ => cases he
    | false =>
      refine ⟨failing, ?_⟩
      rw [List.filter_singleton, he, follow_withFailing _ _ he]
      simp

end Switch

/-! ### The turns of a bridge -/

variable {buffer : Nat} {b : TaskId} {i : ViewerId} {s s' : System α} {ops ops' : List (Hub.Op α)}

/-- Two fleets with these hubs behind them that differ in a bridge, and in what its holder does. -/
structure Twins (buffer : Nat) (b : TaskId) (i : ViewerId) (ops ops' : List (Hub.Op α))
    (s s' : System α) : Prop where
  tended : Tended b i s
  tended' : Tended b i s'
  hub : s.registry.hub = Hub.after buffer ops
  hub' : s'.registry.hub = Hub.after buffer ops'
  alike : Alike b s'.registry.hub s s'
  history : (ops.filter fun op => !op.isOf i) = ops'.filter fun op => !op.isOf i

/-- The other viewers have the same in their queues. -/
theorem Twins.seen (h : Twins buffer b i ops ops' s s') (j : ViewerId) (hj : j ≠ i) :
    s'.registry.hub.viewers.get? j = s.registry.hub.viewers.get? j := by
  rw [h.hub, h.hub', Hub.seat_after, Hub.seat_after, Hub.turns?_congr hj h.history]

variable [Coordinate α] {e : Event α}

/-- The same happens to both. -/
theorem Twins.both (h : Twins buffer b i ops ops' s s') (leaves : e.Leaves i)
    (other : e.isOf b = false) :
    Twins buffer b i (ops ++ s.shown e) (ops' ++ s'.shown e) (s.follow e) (s'.follow e) := by
  have htends := tends_follow h.tended leaves
  have htends' := tends_follow h.tended' leaves
  obtain ⟨halike, hshown⟩ := alike_follow h.alike h.tended h.seen leaves other
  rw [← halike.hub_eq] at halike
  exact {
    tended := htends.tended h.tended
    tended' := htends'.tended h.tended'
    hub := by rw [Hub.after_append, ← h.hub, htends.hub_eq]
    hub' := by rw [Hub.after_append, ← h.hub', htends'.hub_eq]
    alike := halike
    history := by rw [List.filter_append, List.filter_append, h.history, hshown] }

omit [Coordinate α] in
theorem Alike.trans {s'' : System α} {hub hub' : Hub α} (h : Alike b hub s s')
    (h' : Alike b hub' s' s'') : Alike b hub' s s'' := by
  obtain ⟨bus, tasks, rfl, htasks⟩ := h
  obtain ⟨bus', tasks', rfl, htasks'⟩ := h'
  exact ⟨bus', tasks', rfl, fun id hid => (htasks' id hid).trans (htasks id hid)⟩

/-- Something happens to one of the bridges, or to its bus. -/
theorem Twins.one (h : Twins buffer b i ops ops' s s') (leaves : e.Leaves i) (own : e.isOf b = true) :
    Twins buffer b i ops (ops' ++ s'.shown e) s (s'.follow e) := by
  have htends := tends_follow h.tended' leaves
  have hnothing : ((s'.shown e).filter fun op => !op.isOf i) = [] := by
    rw [List.filter_eq_nil_iff]
    intro op hop
    simp [htends.shown_own own op hop]
  exact {
    tended := h.tended
    tended' := htends.tended h.tended'
    hub := h.hub
    hub' := by rw [Hub.after_append, ← h.hub', htends.hub_eq]
    alike := h.alike.trans (htends.alike own)
    history := by rw [List.filter_append, hnothing, List.append_nil, h.history] }

/-- **The course of a fleet, and the one in which the bridge is never heard of.** -/
theorem twins_followAll (tended : Tended b i s) (hub : s.registry.hub = Hub.after buffer ops)
    {es : List (Event α)} (leaves : ∀ e ∈ es, e.Leaves i) :
    Twins buffer b i (ops ++ s.history (es.filter fun e => !e.isOf b)) (ops ++ s.history es)
      (s.followAll (es.filter fun e => !e.isOf b)) (s.followAll es) := by
  induction es using List.reverseRecOn with
  | nil =>
    rw [List.filter_nil, history, List.append_nil]
    exact ⟨tended, tended, hub, hub, .refl b s, rfl⟩
  | append_singleton es e ih =>
    rw [List.forall_mem_append] at leaves
    have htwins := ih leaves.1
    have hleaves : e.Leaves i := leaves.2 e (List.mem_singleton_self e)
    rw [List.filter_append, List.filter_singleton, history_snoc, followAll_snoc]
    cases hof : e.isOf b with
    | true =>
      have hone := htwins.one hleaves hof
      simpa [List.append_assoc] using hone
    | false =>
      have hboth := htwins.both hleaves hof
      simpa [history_snoc, List.append_assoc] using hboth

end System
end ScooterFleet
