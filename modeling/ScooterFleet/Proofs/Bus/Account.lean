import ScooterFleet.Proofs.Bus.Duty

/-!
# The account of a bridge

What was accepted for the viewer of a bridge was handed to the bus, or is with the bridge, or is still
queued.

* `Account` / `Bridged` — how a bridge stands: serving, done or cancelled;
* `Bridged.step` — **every event keeps the account**, by cases on what the bridge sees of it;
* `Bridged.prefix_accepted` / `Bridged.sum` — the account, read off the system;
* `labor_step` — a turn of the bridge brings it on, unless everything is with the bus.
-/

namespace ScooterFleet

variable {α : Type}

/-- The message that a bridge has taken and not yet handed over. -/
def Bridge.inFlight : Bridge α → List (Telemetry α)
  | .publishing m => [m]
  | _ => []

namespace System

/-- What the bridge of this number has taken and not yet handed over. -/
def inFlight (s : System α) (b : TaskId) : List (Telemetry α) :=
  match s.tasks.get? b with
  | some (.bridge _ g) => g.inFlight
  | _ => []

theorem inFlight_of_bridge {s : System α} {b : TaskId} {i : ViewerId} {g : Bridge α}
    (h : s.tasks.get? b = some (.bridge i g)) : s.inFlight b = g.inFlight := by
  simp only [inFlight, h]

/-- How a bridge stands that has handed over these messages, given the history of the hub. -/
inductive Account (buffer : Nat) (i : ViewerId) (ops : List (Hub.Op α)) (handed : List (Telemetry α)) :
    Option (Task α) → Prop
  | serving {g : Bridge α} {c : Channel (Telemetry α)}
      (there : (Hub.after buffer ops).viewers.get? i = some c) (busy : g ≠ .finished)
      (sum : handed ++ g.inFlight = Hub.received buffer i ops) :
      Account buffer i ops handed (some (.bridge i g))
  | done (gone : (Hub.after buffer ops).viewers.get? i = none)
      (all : handed = Hub.accepted buffer i ops) :
      Account buffer i ops handed (some (.bridge i .finished))
  | cancelled (gone : (Hub.after buffer ops).viewers.get? i = none)
      (some : handed <+: Hub.accepted buffer i ops) : Account buffer i ops handed none

/-- A bridge between a hub with this history and the bus, which had these positions before. -/
structure Bridged (buffer : Nat) (b : TaskId) (i : ViewerId) (earlier : List (Telemetry α))
    (ops : List (Hub.Op α)) (s : System α) : Prop where
  tended : Tended b i s
  hub : s.registry.hub = Hub.after buffer ops
  joined : Hub.turns? i ops ≠ none
  account : ∃ handed, s.bus.positions = earlier ++ handed ∧
    Account buffer i ops handed (s.tasks.get? b)

variable {buffer : Nat} {b : TaskId} {i : ViewerId} {earlier handed : List (Telemetry α)}
  {ops more : List (Hub.Op α)} {s s' : System α} {e : Event α}

/-! ### What happens to the account -/

/-- The others do not touch the account. -/
theorem Account.append_others {t : Option (Task α)} (joined : Hub.turns? i ops ≠ none)
    (h : Account buffer i ops handed t) (others : ∀ op ∈ more, op.isOf i = false) :
    Account buffer i (ops ++ more) handed t := by
  cases h with
  | serving there busy sum =>
    obtain ⟨c', hc'⟩ := Hub.exists_append_of_others there others
    exact .serving hc' busy (by rw [Hub.received_append_of_others buffer others, sum])
  | done gone all =>
    exact .done (Hub.absent_append joined gone more)
      (by rw [(Hub.account_of_absent joined gone more).2, all])
  | cancelled gone some =>
    exact .cancelled (Hub.absent_append joined gone more)
      (by rwa [(Hub.account_of_absent joined gone more).2])

/-- The bridge takes the message that it finds. -/
theorem Account.takes {m : Telemetry α} {rest : Channel (Telemetry α)}
    (h : Account buffer i ops handed (some (.bridge i .listening)))
    (found : (Hub.after buffer ops).receive i = .item m rest) :
    Account buffer i (ops ++ [.receive i]) handed (some (.bridge i (.publishing m))) := by
  cases h with
  | serving there busy sum =>
    have hheard : (Hub.after buffer ops).heard? i (.receive i) = some m := by
      simp only [Hub.heard?, if_true, Hub.take?, found]
    have hrest : (Hub.after buffer (ops ++ [.receive i])).viewers.get? i = some rest := by
      rw [Hub.after_snoc]
      show ((Hub.after buffer ops).take? i).2.viewers.get? i = some rest
      simp only [Hub.take?, found]
      exact Table.get?_insert_self _ _ _
    refine .serving hrest (by intro h; cases h) ?_
    rw [Hub.received, Hub.along_snoc, ← Hub.received, hheard, ← sum]
    simp [Bridge.inFlight]

/-- The bridge hands over what it has. -/
theorem Account.hands {m : Telemetry α}
    (h : Account buffer i ops handed (some (.bridge i (.publishing m)))) :
    Account buffer i ops (handed ++ [m]) (some (.bridge i .listening)) := by
  cases h with
  | serving there busy sum =>
    exact .serving there (by intro h; cases h) ((List.append_nil _).trans sum)

/-- A bridge that finds nothing has handed over everything. -/
theorem Account.eq_accepted (h : Account buffer i ops handed (some (.bridge i .listening)))
    (found : ∀ m rest, (Hub.after buffer ops).receive i ≠ .item m rest) :
    handed = Hub.accepted buffer i ops := by
  cases h with
  | @serving _ c there busy sum =>
    have hempty : c.items = [] := by
      cases hitems : c.items with
      | nil => rfl
      | cons m items =>
        have hreceive : (Hub.after buffer ops).receive i = .item m { c with items } := by
          simp only [Hub.receive, there, Channel.receive, hitems]
        exact absurd hreceive (found _ _)
    rw [← Hub.received_append_items there, hempty, List.append_nil, ← sum]
    exact (List.append_nil _).symm

theorem Account.prefix_accepted {t : Option (Task α)} (h : Account buffer i ops handed t) :
    handed <+: Hub.accepted buffer i ops := by
  cases h with
  | serving there busy sum =>
    exact (List.prefix_append handed _).trans (sum ▸ Hub.received_prefix_accepted buffer i ops)
  | done gone all => exact all ▸ List.prefix_rfl
  | cancelled gone some => exact some

/-- **Every event keeps the account.** -/
theorem Bridged.step (h : Bridged buffer b i earlier ops s) (tends : Tends b i s e more s') :
    Bridged buffer b i earlier (ops ++ more) s' := by
  obtain ⟨handed, hpositions, haccount⟩ := h.account
  refine {
    tended := tends.tended h.tended
    hub := by rw [Hub.after_append, ← h.hub, tends.hub_eq]
    joined := Hub.joined_append h.joined more
    account := ?_ }
  cases tends with
  | apart other spares others hub =>
    exact ⟨handed, by rw [spares.positions, hpositions],
      spares.task ▸ haccount.append_others h.joined others⟩
  | switches | rests idle => exact ⟨handed, hpositions, by rwa [List.append_nil]⟩
  | takes task found =>
    rw [task] at haccount
    rw [h.hub] at found
    exact ⟨handed, hpositions, by
      simpa only [setTask, Table.get?_insert_self] using haccount.takes found⟩
  | @hands m task =>
    rw [task] at haccount
    refine ⟨handed ++ [m], ?_, by
      simpa only [setTask, Table.get?_insert_self, List.append_nil] using haccount.hands⟩
    show (s.bus.publish (.telemetry m)).2.positions = _
    rw [Bus.positions_publish_telemetry, hpositions, List.append_assoc]
  | ends task found =>
    rw [task] at haccount
    rw [h.hub] at found
    have hall := haccount.eq_accepted fun m rest hitem => by
      rw [found] at hitem
      cases hitem
    refine ⟨handed, hpositions, ?_⟩
    simp only [setTask, Table.get?_insert_self]
    exact .done (Hub.absent_drop h.joined) (by rw [Hub.accepted_drop, hall])
  | gone task =>
    refine ⟨handed, hpositions, ?_⟩
    show Account buffer i (ops ++ []) handed ((s.tasks.erase b).get? b)
    rwa [Table.get?_erase_self, ← task, List.append_nil]
  | goes task =>
    refine ⟨handed, hpositions, ?_⟩
    show Account buffer i (ops ++ [.drop i]) handed ((s.tasks.erase b).get? b)
    rw [Table.get?_erase_self]
    exact .cancelled (Hub.absent_drop h.joined) (by
      rw [Hub.accepted_drop]
      exact haccount.prefix_accepted)

/-! ### The account, read off the system -/

theorem Bridged.prefix_accepted (h : Bridged buffer b i earlier ops s) :
    ∃ handed, s.bus.positions = earlier ++ handed ∧ handed <+: Hub.accepted buffer i ops := by
  obtain ⟨handed, hpositions, haccount⟩ := h.account
  exact ⟨handed, hpositions, haccount.prefix_accepted⟩

/-- **What was accepted was handed over, or is with the bridge, or is queued.** -/
theorem Bridged.sum (h : Bridged buffer b i earlier ops s) (running : s.tasks.get? b ≠ none) :
    s.bus.positions ++ s.inFlight b ++ s.registry.hub.queued i =
      earlier ++ Hub.accepted buffer i ops := by
  obtain ⟨handed, hpositions, haccount⟩ := h.account
  obtain ht | ⟨g, ht⟩ := h.tended.bridge
  · exact absurd ht running
  · rw [ht] at haccount
    rw [inFlight_of_bridge ht, hpositions, h.hub]
    cases haccount with
    | serving there busy sum =>
      rw [Hub.queued_eq there, ← Hub.received_append_items there, ← sum]
      simp only [List.append_assoc]
    | done gone all =>
      have hqueued : (Hub.after buffer ops).queued i = [] := by simp only [Hub.queued, gone]
      rw [hqueued, all]
      simp [Bridge.inFlight]

/-! ### Getting on -/

/-- A bridge that is not cancelled stays. -/
theorem Tends.running (tends : Tends b i s e more s') (uncancelled : e ≠ .move (.cancel b))
    (running : s.tasks.get? b ≠ none) : s'.tasks.get? b ≠ none := by
  cases tends with
  | apart other spares others hub => rwa [spares.task]
  | switches | rests idle => exact running
  | takes task found | hands task | ends task found =>
    simp only [setTask, Table.get?_insert_self]
    exact Option.some_ne_none _
  | gone task | goes task => exact absurd rfl uncancelled

/-- What a bridge has done: two steps for each message. -/
def labor (s : System α) (b : TaskId) : Nat := 2 * s.bus.positions.length + (s.inFlight b).length

/-- Nothing that a bridge has done is undone. -/
theorem Tends.positions_prefix (tends : Tends b i s e more s') :
    s.bus.positions <+: s'.bus.positions := by
  cases tends with
  | apart other spares others hub => exact spares.positions ▸ List.prefix_rfl
  | hands task =>
    show s.bus.positions <+: (s.bus.publish _).2.positions
    rw [Bus.positions_publish_telemetry]
    exact List.prefix_append _ _
  | _ => exact List.prefix_rfl

/-- A bridge that is done, or finds nothing, has handed over everything. -/
theorem Bridged.all_handed (h : Bridged buffer b i earlier ops s)
    (idle : s.tasks.get? b = some (.bridge i .finished) ∨
      s.tasks.get? b = some (.bridge i .listening) ∧ ∀ m rest, s.registry.hub.receive i ≠ .item m rest) :
    s.bus.positions = earlier ++ Hub.accepted buffer i ops := by
  obtain ⟨handed, hpositions, haccount⟩ := h.account
  rw [hpositions]
  congr 1
  rcases idle with ht | ⟨ht, hnothing⟩
  · rw [ht] at haccount
    cases haccount with
    | serving there busy sum => exact absurd rfl busy
    | done gone all => exact all
  · rw [ht] at haccount
    rw [h.hub] at hnothing
    exact haccount.eq_accepted hnothing

/-- **A turn of the bridge brings it on, unless it has handed over everything.** -/
theorem labor_step (h : Bridged buffer b i earlier ops s) (tends : Tends b i s e more s')
    (uncancelled : e ≠ .move (.cancel b)) (running : s.tasks.get? b ≠ none) :
    s.labor b + (if e.isTurn b then 1 else 0) ≤ s'.labor b ∨
      s'.bus.positions = earlier ++ Hub.accepted buffer i (ops ++ more) := by
  have hturn : (Event.move (Move.act (α := α) b .bridge)).isTurn b = true := by simp [Event.isTurn]
  cases tends with
  | apart other spares others hub =>
    refine .inl ?_
    have hflight : s'.inFlight b = s.inFlight b := by simp only [inFlight, spares.task]
    rw [Event.isTurn_of_others other, labor, labor, spares.positions, hflight]
    exact Nat.le_refl _
  | switches => exact .inl (Nat.le_refl _)
  | @rests c idle =>
    by_cases hc : c = .bridge
    · refine .inr ?_
      rw [List.append_nil]
      obtain ht | ht | ⟨ht, hwaits⟩ := idle hc
      · exact absurd ht running
      · exact h.all_handed (.inl ht)
      · refine h.all_handed (.inr ⟨ht, fun m rest hitem => ?_⟩)
        rw [hwaits] at hitem
        cases hitem
    · refine .inl ?_
      have hother : (Event.move (Move.act (α := α) b c)).isTurn b = false := by
        cases c <;> first | exact absurd rfl hc | rfl
      rw [hother]
      exact Nat.le_refl _
  | @takes m rest task found =>
    refine .inl ?_
    have hflight : ((s.withHub (s.registry.hub.leave i rest)).setTask b
        (.bridge i (.publishing m))).inFlight b = [m] := by
      rw [inFlight_of_bridge (Table.get?_insert_self _ _ _)]
      rfl
    rw [hturn, labor, labor, hflight, inFlight_of_bridge task]
    exact Nat.le_refl _
  | @hands m task =>
    refine .inl ?_
    have hdone : ({ s with bus := (s.bus.publish (.telemetry m)).2 }.setTask b
        (.bridge i .listening)).bus.positions = s.bus.positions ++ [m] :=
      Bus.positions_publish_telemetry _ _
    rw [hturn, labor, labor, hdone, inFlight_of_bridge task, List.length_append]
    simp only [Bridge.inFlight, List.length_singleton, if_true]
    omega
  | ends task found =>
    refine .inr ?_
    rw [Hub.accepted_drop]
    refine h.all_handed (.inr ⟨task, fun m rest hitem => ?_⟩)
    rw [found] at hitem
    cases hitem
  | gone task | goes task => exact absurd rfl uncancelled

end System
end ScooterFleet
