import ScooterFleet.Proofs.Bus.Event

/-!
# What a bridge does

A bridge takes a message from the queue of its viewer, hands it to the bus, and listens again.

* `Spares` / `spares_of_others` — the others leave the bridge and its record on the bus as they are;
* `Tends` / `tends_follow` — **everything that may happen, as the bridge sees it**;
* `Tends.tended` / `Tends.hub_eq` — the bridge keeps to its place, and the hub has the history;
* `Tends.alike` — what the bridge does changes nothing for the others.
-/

namespace ScooterFleet

variable {α : Type}

def Notice.position? : Notice α → Option (Telemetry α)
  | .telemetry m => some m
  | .health _ => none

/-- The positions that were handed to the bus, oldest first. -/
def Bus.positions (bus : Bus (Notice α)) : List (Telemetry α) :=
  bus.messages.filterMap Notice.position?

@[simp] theorem Bus.positions_publish_telemetry (bus : Bus (Notice α)) (m : Telemetry α) :
    (bus.publish (.telemetry m)).2.positions = bus.positions ++ [m] :=
  List.filterMap_append

@[simp] theorem Bus.positions_publish_health (bus : Bus (Notice α)) (report : Health) :
    (bus.publish (.health report)).2.positions = bus.positions := by
  simp [positions, publish, List.filterMap_append, Notice.position?]

namespace System

/-- It is the turn of this bridge. -/
def Event.isTurn (b : TaskId) : Event α → Bool
  | .move (.act id .bridge) => id = b
  | _ => false

theorem Event.isTurn_of_others {b : TaskId} {e : Event α} (other : e.isOf b = false) :
    e.isTurn b = false := by
  cases e with
  | move m =>
    cases m with
    | act id c => cases c <;> first | exact other | rfl
    | _ => rfl
  | _ => rfl

variable {b : TaskId} {i : ViewerId} {s s' : System α}

/-! ### The others -/

/-- The bridge, its place and its record are as before. -/
structure Spares (b : TaskId) (i : ViewerId) (s s' : System α) : Prop where
  task : s'.tasks.get? b = s.tasks.get? b
  positions : s'.bus.positions = s.bus.positions
  tended : Tended b i s'

theorem Tended.congr (tended : Tended b i s) (tasks : s'.tasks = s.tasks) (fresh : s'.fresh = s.fresh) :
    Tended b i s' where
  begun := fresh ▸ tended.begun
  suits := by
    rw [tasks]
    exact tended.suits

theorem Tended.insert (tended : Tended b i s) {id : TaskId} {t : Task α} (suits : t.Suits b i id)
    (tasks : s'.tasks = s.tasks.insert id t) (fresh : s.fresh ≤ s'.fresh) : Tended b i s' where
  begun := Nat.lt_of_lt_of_le tended.begun fresh
  suits := by
    intro id' t' ht'
    rw [tasks, Table.get?_insert] at ht'
    split at ht'
    · next hid =>
      cases ht'
      exact hid ▸ suits
    · exact tended.suits id' t' ht'

theorem Tended.erase (tended : Tended b i s) {id : TaskId} (tasks : s'.tasks = s.tasks.erase id)
    (fresh : s'.fresh = s.fresh) : Tended b i s' where
  begun := fresh ▸ tended.begun
  suits := by
    intro id' t' ht'
    rw [tasks, Table.get?_erase] at ht'
    split at ht'
    · cases ht'
    · exact tended.suits id' t' ht'

/-- Another task goes on, or joins. -/
theorem Spares.of_insert (tended : Tended b i s) {id : TaskId} (other : id ≠ b) {t : Task α}
    (suits : t.Suits b i id) (tasks : s'.tasks = s.tasks.insert id t)
    (positions : s'.bus.positions = s.bus.positions) (fresh : s.fresh ≤ s'.fresh) : Spares b i s s' where
  task := by rw [tasks, Table.get?_insert_of_ne _ _ other]
  positions := positions
  tended := tended.insert suits tasks fresh

theorem Spares.of_eq (tended : Tended b i s) (tasks : s'.tasks = s.tasks) (bus : s'.bus = s.bus)
    (fresh : s'.fresh = s.fresh) : Spares b i s s' where
  task := by rw [tasks]
  positions := by rw [bus]
  tended := tended.congr tasks fresh

theorem Spares.trans {s'' : System α} (h : Spares b i s s') (h' : Spares b i s' s'') : Spares b i s s'' where
  task := h'.task.trans h.task
  positions := h'.positions.trans h.positions
  tended := h'.tended

theorem spares_spawn (tended : Tended b i s) {t : Task α} (suits : t.Suits b i s.fresh) :
    Spares b i s (s.spawn t).2 :=
  .of_insert tended (Nat.ne_of_gt tended.begun) suits rfl rfl (Nat.le_succ _)

theorem bus_cancel (s : System α) (id : TaskId) : (s.cancel id).bus = s.bus := by
  unfold cancel
  split
  · rfl
  · dsimp only
    split <;> rfl
  all_goals rfl

variable [Coordinate α]

theorem spares_step (tended : Tended b i s) {id : TaskId} {c : Choice} (other : id ≠ b)
    (h : s.step id c = some s') : Spares b i s s' := by
  unfold step at h
  split at h
  · simp only [stepDevice, Option.bind_eq_bind, Option.bind_eq_some_iff, Prod.exists, Option.pure_def,
      Option.some.injEq] at h
    obtain ⟨l, -, d, l', -, rfl⟩ := h
    exact .of_insert tended other (by exact other) rfl rfl (Nat.le_refl _)
  · simp only [stepGateway, Option.bind_eq_bind, Option.bind_eq_some_iff, Prod.exists, Option.pure_def,
      Option.some.injEq] at h
    obtain ⟨l, -, g, site, -, rfl⟩ := h
    exact .of_insert tended other (by exact other) rfl rfl (Nat.le_refl _)
  · simp only [stepRental, Option.bind_eq_bind, Option.bind_eq_some_iff, Prod.exists, Option.pure_def,
      Option.some.injEq] at h
    obtain ⟨r, k, -, rfl⟩ := h
    exact .of_insert tended other (by exact other) rfl rfl (Nat.le_succ _)
  · simp only [stepWaiter, Option.bind_eq_bind, Option.bind_eq_some_iff, Prod.exists, Option.pure_def,
      Option.some.injEq] at h
    obtain ⟨w, r, -, rfl⟩ := h
    exact .of_insert tended other (by exact other) rfl rfl (Nat.le_refl _)
  · next viewer g htask => exact absurd (tended.suits id _ htask).1 other
  · simp only [stepReporter, Option.bind_eq_bind, Option.bind_eq_some_iff, Prod.exists, Option.pure_def,
      Option.some.injEq] at h
    obtain ⟨r, k, bus, hstep, rfl⟩ := h
    unfold Reporter.step at hstep
    split at hstep
    · cases hstep
      exact .of_insert tended other (by exact other) rfl (Bus.positions_publish_health _ _)
        (Nat.le_refl _)
    · cases hstep
  · next f c htask =>
    simp only [stepFeed, Option.bind_eq_bind, Option.bind_eq_some_iff, Prod.exists, Option.pure_def,
      Option.some.injEq] at h
    obtain ⟨f', hub, hstep, rfl⟩ := h
    have hviewer : f'.viewer = f.viewer := by
      cases c with
      | message =>
        simp only [Feed.step] at hstep
        split at hstep <;> cases hstep
        rfl
      | comment =>
        simp only [Feed.step] at hstep
        split at hstep <;> cases hstep
        rfl
    have hsuits : (Task.feed f').Suits b i id := ⟨other, hviewer ▸ (tended.suits id _ htask).2⟩
    exact .of_insert tended other hsuits rfl rfl (Nat.le_refl _)
  · cases h

theorem spares_move (tended : Tended b i s) {m : Move α} (leaves : m.Leaves i) (other : m.isOf b = false)
    (h : s.move? m = some s') : Spares b i s s' := by
  have hfresh : s.fresh ≠ b := Nat.ne_of_gt tended.begun
  cases m with
  | act id c => exact spares_step tended (by simpa [Move.isOf] using other) h
  | clock now wall =>
    simp only [move?] at h
    split at h <;> cases h
    exact .of_eq tended rfl rfl rfl
  | rent request =>
    cases h
    exact spares_spawn tended hfresh
  | attach requested profile link =>
    cases h
    have hlink : Spares b i s (s.open_ link).2 := {
      task := rfl
      positions := rfl
      tended := ⟨Nat.lt_succ_of_lt tended.begun, tended.suits⟩ }
    have hgateway := spares_spawn (t := .gateway s.fresh (.start s.now)) hlink.tended
      (Nat.ne_of_gt hlink.tended.begun)
    have hdevice := spares_spawn (t := .device s.fresh (.offering requested profile)) hgateway.tended
      (Nat.ne_of_gt hgateway.tended.begun)
    exact (hlink.trans hgateway).trans hdevice
  | join t bystander =>
    cases h
    refine spares_spawn tended ?_
    cases t with
    | bridge viewer g => exact leaves.elim
    | feed f => exact ⟨hfresh, leaves⟩
    | device link d | gateway link g | rental r => exact bystander.elim
    | waiter ticket idle w | reporter r => exact hfresh
  | call c =>
    cases h
    exact .of_eq tended rfl rfl rfl
  | watch hub => exact leaves.elim
  | cancel id =>
    cases h
    have hid : id ≠ b := by simpa [Move.isOf] using other
    obtain ⟨htasks, hfresh⟩ := tasks_of_cancels (cancels_cancel s id)
    exact {
      task := by rw [htasks, Table.get?_erase_of_ne _ hid]
      positions := by rw [bus_cancel]
      tended := tended.erase htasks hfresh }

/-- **What is not about the bridge leaves it and its record as they are.** -/
theorem spares_of_others (tended : Tended b i s) {e : Event α} (leaves : e.Leaves i)
    (other : e.isOf b = false) : Spares b i s (s.follow e) := by
  cases e with
  | move m =>
    simp only [follow]
    cases h : s.move? m with
    | none => exact .of_eq tended rfl rfl rfl
    | some s' => exact spares_move tended leaves other h
  | hub op => exact .of_eq tended rfl rfl rfl
  | bus failing => cases other

omit [Coordinate α] in
/-- Nobody else takes from the viewer of the bridge, or lets it go. -/
theorem others_shownBy (tended : Tended b i s) {m : Move α} (other : m.isOf b = false) :
    ∀ op ∈ s.shownBy m, op.isOf i = false := by
  have hnone : ∀ op ∈ ([] : List (Hub.Op α)), op.isOf i = false := List.forall_mem_nil _
  cases m with
  | act id c =>
    have hid : id ≠ b := by simpa [Move.isOf] using other
    simp only [shownBy]
    cases ht : s.tasks.get? id with
    | none => exact hnone
    | some t =>
      cases t with
      | bridge viewer g => exact absurd (tended.suits id _ ht).1 hid
      | gateway link g =>
        cases c with
        | gateway c =>
          simp only [Task.shown, Gateway.shown]
          split
          · split
            · exact fun op h => by cases List.mem_singleton.mp h; rfl
            · exact hnone
          · exact hnone
        | _ => exact hnone
      | feed f =>
        have hviewer : f.viewer ≠ i := (tended.suits id _ ht).2
        rcases c with _ | _ | _ | _ | _ | _ | _ | _
        case feed.message =>
          intro op h
          cases List.mem_singleton.mp h
          simpa [Hub.Op.isOf] using hviewer
        all_goals exact hnone
      | _ => exact hnone
  | call c =>
    cases c with
    | telemetry time m => exact fun op h => by cases List.mem_singleton.mp h; rfl
    | _ => exact hnone
  | cancel id =>
    have hid : id ≠ b := by simpa [Move.isOf] using other
    simp only [shownBy]
    split
    · next viewer g ht => exact absurd (tended.suits id _ ht).1 hid
    · next f ht =>
      have hviewer : f.viewer ≠ i := (tended.suits id _ ht).2
      intro op h
      cases List.mem_singleton.mp h
      simpa [Hub.Op.isOf] using hviewer
    · exact hnone
  | _ => exact hnone

theorem others_shown (tended : Tended b i s) {e : Event α} (leaves : e.Leaves i)
    (other : e.isOf b = false) : ∀ op ∈ s.shown e, op.isOf i = false := by
  cases e with
  | move m =>
    simp only [shown]
    split
    · exact others_shownBy tended other
    · exact List.forall_mem_nil _
  | hub op =>
    intro op' h
    cases List.mem_singleton.mp h
    exact leaves
  | bus failing => cases other

/-! ### The bridge -/

/-- What may happen, as the bridge of this number sees it: what is shown to the hub, and the system that
is left. -/
inductive Tends (b : TaskId) (i : ViewerId) (s : System α) :
    Event α → List (Hub.Op α) → System α → Prop
  | apart {e : Event α} {ops : List (Hub.Op α)} {s' : System α} (other : e.isOf b = false)
      (spares : Spares b i s s') (others : ∀ op ∈ ops, op.isOf i = false)
      (hub : s'.registry.hub = s.registry.hub.performAll ops) : Tends b i s e ops s'
  | switches {failing : Bool} : Tends b i s (.bus failing) [] { s with bus.failing := failing }
  /-- The bridge is to do what it cannot do, or has nothing to do. -/
  | rests {c : Choice} (idle : c = .bridge → s.tasks.get? b = none ∨
        s.tasks.get? b = some (.bridge i .finished) ∨
        s.tasks.get? b = some (.bridge i .listening) ∧ s.registry.hub.receive i = .waits) :
      Tends b i s (.move (.act b c)) [] s
  | takes {m : Telemetry α} {rest : Channel (Telemetry α)}
      (task : s.tasks.get? b = some (.bridge i .listening))
      (found : s.registry.hub.receive i = .item m rest) :
      Tends b i s (.move (.act b .bridge)) [.receive i]
        ((s.withHub (s.registry.hub.leave i rest)).setTask b (.bridge i (.publishing m)))
  | hands {m : Telemetry α} (task : s.tasks.get? b = some (.bridge i (.publishing m))) :
      Tends b i s (.move (.act b .bridge)) []
        ({ s with bus := (s.bus.publish (.telemetry m)).2 }.setTask b (.bridge i .listening))
  | ends (task : s.tasks.get? b = some (.bridge i .listening))
      (found : s.registry.hub.receive i = .ended) :
      Tends b i s (.move (.act b .bridge)) [.drop i]
        ((s.withHub (s.registry.hub.drop i)).setTask b (.bridge i .finished))
  /-- The bridge is cancelled; this may happen again. -/
  | gone (task : s.tasks.get? b = none) :
      Tends b i s (.move (.cancel b)) [] { s with tasks := s.tasks.erase b }
  | goes {g : Bridge α} (task : s.tasks.get? b = some (.bridge i g)) :
      Tends b i s (.move (.cancel b)) [.drop i]
        ({ s with tasks := s.tasks.erase b }.withHub (s.registry.hub.drop i))

section Bridge

omit [Coordinate α]

/-- The task of this number is the bridge, if it is there. -/
theorem Tended.bridge (tended : Tended b i s) :
    s.tasks.get? b = none ∨ ∃ g, s.tasks.get? b = some (.bridge i g) := by
  cases ht : s.tasks.get? b with
  | none => exact .inl rfl
  | some t =>
    have hsuits := tended.suits b t ht
    cases t with
    | bridge viewer g => exact .inr ⟨g, by rw [hsuits.2]⟩
    | feed f => exact absurd rfl hsuits.1
    | _ => exact absurd rfl hsuits

variable {e : Event α} {ops : List (Hub.Op α)}

/-- The bridge keeps to its place. -/
theorem Tends.tended (h : Tends b i s e ops s') (tended : Tended b i s) : Tended b i s' := by
  have hsuits : ∀ g : Bridge α, (Task.bridge i g).Suits b i b := fun _ => ⟨rfl, rfl⟩
  cases h with
  | apart other spares others hub => exact spares.tended
  | switches => exact tended.congr rfl rfl
  | rests idle => exact tended
  | takes task found | hands task | ends task found =>
    exact tended.insert (hsuits _) rfl (Nat.le_refl _)
  | gone task | goes task => exact tended.erase rfl rfl

/-- What is shown to the hub happens to it. -/
theorem Tends.hub_eq (h : Tends b i s e ops s') :
    s'.registry.hub = s.registry.hub.performAll ops := by
  cases h with
  | apart other spares others hub => exact hub
  | takes task found =>
    show s.registry.hub.leave i _ = (s.registry.hub.take? i).2
    simp only [Hub.take?, found]
  | _ => rfl

/-- What the bridge does changes it, its hub and its bus, and nothing else. -/
theorem Tends.alike (h : Tends b i s e ops s') (own : e.isOf b = true) :
    Alike b s'.registry.hub s s' := by
  cases h with
  | apart other spares others hub => rw [other] at own; cases own
  | switches | rests idle => exact ⟨_, s.tasks, rfl, fun _ _ => rfl⟩
  | takes task found | hands task | ends task found =>
    exact ⟨_, s.tasks.insert b _, rfl, fun _ hid => Table.get?_insert_of_ne _ _ hid.symm⟩
  | gone task | goes task =>
    exact ⟨_, s.tasks.erase b, rfl, fun _ hid => Table.get?_erase_of_ne _ hid.symm⟩

/-- To the hub, the bridge does what the holder of its viewer does. -/
theorem Tends.shown_own (h : Tends b i s e ops s') (own : e.isOf b = true) :
    ∀ op ∈ ops, op.isOf i = true := by
  cases h with
  | apart other spares others hub => rw [other] at own; cases own
  | switches | rests idle | hands task | gone task => exact List.forall_mem_nil _
  | takes task found | ends task found | goes task =>
    intro op h
    cases List.mem_singleton.mp h
    simp [Hub.Op.isOf]

end Bridge

/-- The turn of a bridge. -/
theorem tends_turn (tended : Tended b i s) :
    Tends b i s (.move (.act b .bridge)) (s.shown (.move (.act b .bridge)))
      (s.follow (.move (.act b .bridge))) := by
  obtain ht | ⟨g, ht⟩ := tended.bridge
  · have hmove : s.move? (.act b .bridge) = none := by simp only [move?, step, ht]
    simp only [shown, follow, hmove]
    exact .rests fun _ => .inl ht
  · have hmove : s.move? (.act b .bridge) = s.stepBridge b i g := by simp only [move?, step, ht]
    have hshown : s.shownBy (.act b .bridge) = (Task.bridge i g).shown s.registry.hub .bridge := by
      simp only [shownBy, ht]
    simp only [shown, follow, hmove, hshown]
    cases g with
    | finished => exact .rests fun _ => .inr (.inl ht)
    | publishing m => exact .hands ht
    | listening =>
      cases hr : s.registry.hub.receive i with
      | item m rest =>
        simp only [stepBridge, Bridge.step, Task.shown, hr]
        exact .takes ht hr
      | ended =>
        simp only [stepBridge, Bridge.step, Task.shown, hr]
        exact .ends ht hr
      | waits =>
        simp only [stepBridge, Bridge.step, hr]
        exact .rests fun _ => .inr (.inr ⟨ht, hr⟩)

/-- A bridge has no other choice. -/
theorem Tended.not_enabled (tended : Tended b i s) {c : Choice} (hc : c ≠ .bridge) :
    s.move? (.act b c) = none := by
  obtain ht | ⟨g, ht⟩ := tended.bridge
  · simp only [move?, step, ht]
  · cases c with
    | bridge => exact absurd rfl hc
    | _ => simp only [move?, step, ht]

/-- The end of a bridge. -/
theorem tends_cancel (tended : Tended b i s) :
    Tends b i s (.move (.cancel b)) (s.shown (.move (.cancel b))) (s.follow (.move (.cancel b))) := by
  obtain ht | ⟨g, ht⟩ := tended.bridge
  · have hcancel : s.cancel b = { s with tasks := s.tasks.erase b } := by
      simp only [cancel, ht]
    have hshown : s.shown (.move (.cancel b)) = [] := by
      simp [shown, move?, shownBy, ht]
    rw [hshown]
    show Tends b i s _ _ (s.cancel b)
    rw [hcancel]
    exact .gone ht
  · have hcancel : s.cancel b =
        { s with tasks := s.tasks.erase b }.withHub (s.registry.hub.drop i) := by
      simp only [cancel, ht]
      rfl
    have hshown : s.shown (.move (.cancel b)) = [.drop i] := by
      simp [shown, move?, shownBy, ht]
    rw [hshown]
    show Tends b i s _ _ (s.cancel b)
    rw [hcancel]
    exact .goes ht

/-- **Everything that may happen is one of these.** -/
theorem tends_follow (tended : Tended b i s) {e : Event α} (leaves : e.Leaves i) :
    Tends b i s e (s.shown e) (s.follow e) := by
  cases hof : e.isOf b with
  | false =>
    exact .apart hof (spares_of_others tended leaves hof) (others_shown tended leaves hof)
      (hub_follow tended leaves hof)
  | true =>
    cases e with
    | hub op => cases hof
    | bus failing => exact .switches
    | move m =>
      cases m with
      | act id c =>
        have hid : id = b := by simpa [Event.isOf, Move.isOf] using hof
        subst hid
        by_cases hc : c = .bridge
        · rw [hc]
          exact tends_turn tended
        · simp only [shown, follow, tended.not_enabled hc]
          exact .rests fun h => absurd h hc
      | cancel id =>
        have hid : id = b := by simpa [Event.isOf, Move.isOf] using hof
        subst hid
        exact tends_cancel tended
      | _ => cases hof

end System
end ScooterFleet
