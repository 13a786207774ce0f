import ScooterFleet.Proofs.Bus.Twins
import ScooterFleet.Rehearsal.Acts

/-!
# The bus as a mirror

From the moment a bridge is added to a fleet, the bus gets what is accepted for the bridge's viewer,
whatever else happens, whenever the bridge has its turns and however often the bus fails.

* `System.withBridge` — a bridge is added;
* `Mirror` — a fleet that gets its bridge, and what becomes of it in the course of some events;
* `Mirror.bridged` — **the account of the bridge, in every course**, by induction on it;
* `Mirror.accepted_prefix_handed` — the bridge gets on as it has its turns;
* `telemetry_mirrored` — **the bus mirrors the hub**, and nobody else minds.
-/

namespace ScooterFleet

variable {α : Type}

/-- Adds a bridge with a viewer of its own. -/
def System.withBridge (s : System α) : System α :=
  let (viewer, hub) := s.registry.hub.subscribe
  ((s.withHub hub).spawn (.bridge viewer .listening)).2

theorem Stage.system_attachBus (s : Stage) :
    s.attachBus.system = { s.system with bus := .create }.withBridge := rfl

/-- The texts that the bus has under the topic of telemetry, oldest first. -/
def Bus.telemetry (bus : Bus (Notice Float)) : List String :=
  ((⟨bus.messages.map Notice.toMessage, bus.failing⟩ : Bus BusMessage).byTopic
    "fleet/scooters/telemetry@v1").map (·.payload)

theorem Bus.telemetry_eq (bus : Bus (Notice Float)) :
    bus.telemetry = bus.positions.map (·.toJson.toText) := by
  obtain ⟨messages, failing⟩ := bus
  show ((messages.map Notice.toMessage).filter _).map _ = (messages.filterMap Notice.position?).map _
  induction messages with
  | nil => rfl
  | cons n messages ih =>
    rw [List.map_cons]
    cases n with
    | telemetry m =>
      rw [List.filter_cons_of_pos (by simp [Notice.toMessage, Notice.topic]), List.map_cons, ih]
      rfl
    | health report =>
      rw [List.filter_cons_of_neg (by simp [Notice.toMessage, Notice.topic]), ih]
      rfl

/-- A fleet that gets a bridge, and what had happened to its hub before. -/
structure Mirror (α : Type) where
  ground : System α
  /-- The number of messages that is held for a viewer. -/
  buffer : Nat
  before : List (Hub.Op α)
  hub : ground.registry.hub = Hub.after buffer before
  /-- The next number is not given to a task yet. -/
  numbered : ∀ id t, ground.tasks.get? id = some t → id < ground.fresh
  /-- Nor is the next viewer. -/
  seated : ∀ id f, ground.tasks.get? id = some (.feed f) → f.viewer < ground.registry.hub.fresh
  /-- There is no other bridge to this bus. -/
  alone : ∀ id viewer g, ground.tasks.get? id ≠ some (.bridge viewer g)

namespace Mirror

open ScooterFleet.System

variable (m : Mirror α)

/-- The number of the bridge. -/
def task : TaskId := m.ground.fresh

def viewer : ViewerId := m.ground.registry.hub.fresh

/-- The fleet with its bridge. -/
def start : System α := m.ground.withBridge

section

variable [Coordinate α]

/-- The fleet after some events. -/
def system (es : List (Event α)) : System α := m.start.followAll es

/-- Everything that has happened to the hub. -/
def past (es : List (Event α)) : List (Hub.Op α) := m.before ++ [.subscribe] ++ m.start.history es

/-- The messages that were accepted for the viewer of the bridge. -/
def accepted (es : List (Event α)) : List (Telemetry α) := Hub.accepted m.buffer m.viewer (m.past es)

/-- The positions that the bus got since the bridge was added. -/
def handed (es : List (Event α)) : List (Telemetry α) :=
  (m.system es).bus.positions.drop m.ground.bus.positions.length

def inFlight (es : List (Event α)) : List (Telemetry α) := (m.system es).inFlight m.task

def queued (es : List (Event α)) : List (Telemetry α) := (m.system es).registry.hub.queued m.viewer

end

/-! ### The account of the bridge -/

theorem tended_start : Tended m.task m.viewer m.start where
  begun := Nat.lt_succ_self _
  suits := by
    intro id t ht
    have ht' : (m.ground.tasks.insert m.task (.bridge m.viewer .listening)).get? id = some t := ht
    rw [Table.get?_insert] at ht'
    split at ht'
    · next hid =>
      cases ht'
      exact ⟨hid.symm, rfl⟩
    · have hid : id ≠ m.task := Nat.ne_of_lt (m.numbered id t ht')
      cases t with
      | bridge viewer g => exact absurd ht' (m.alone id viewer g)
      | feed f => exact ⟨hid, Nat.ne_of_lt (m.seated id f ht')⟩
      | _ => exact hid

theorem hub_start : m.start.registry.hub = Hub.after m.buffer (m.before ++ [.subscribe]) := by
  rw [Hub.after_snoc, ← m.hub]
  rfl

theorem turns?_start : Hub.turns? m.viewer (m.before ++ [.subscribe]) = some [] := by
  have hviewer : m.viewer = m.before.countP Hub.Op.isSubscribe := by
    rw [← Hub.fresh_after m.buffer, ← m.hub]
    rfl
  have hnew : Hub.turns? m.viewer m.before = none := by
    cases h : Hub.turns? m.viewer m.before with
    | none => rfl
    | some turns => exact absurd (Hub.lt_of_turns? h) (hviewer ▸ Nat.lt_irrefl _)
  rw [Hub.turns?_snoc_of_none hnew, if_pos ⟨rfl, hviewer.symm⟩]

theorem bridged_start : Bridged m.buffer m.task m.viewer m.ground.bus.positions
    (m.before ++ [.subscribe]) m.start where
  tended := m.tended_start
  hub := m.hub_start
  joined := by
    rw [turns?_start]
    exact Option.some_ne_none _
  account := by
    have hthere : (Hub.after m.buffer (m.before ++ [.subscribe])).viewers.get? m.viewer =
        some (.bounded (max m.buffer 1)) := by
      rw [Hub.seat_after, turns?_start]
      rfl
    have hreceived : Hub.received m.buffer m.viewer (m.before ++ [.subscribe]) = [] := by
      rw [Hub.received_eq_gets, turns?_start]
      rfl
    have htask : m.start.tasks.get? m.task = some (.bridge m.viewer .listening) :=
      Table.get?_insert_self _ _ _
    refine ⟨[], (List.append_nil _).symm, ?_⟩
    rw [htask]
    have hbusy : (Bridge.listening : Bridge α) ≠ .finished := by
      intro h
      cases h
    exact .serving hthere hbusy hreceived.symm

variable [Coordinate α] {es more : List (Event α)}

theorem system_snoc (es : List (Event α)) (e : Event α) :
    m.system (es ++ [e]) = (m.system es).follow e :=
  followAll_snoc _ _ _

theorem past_snoc (es : List (Event α)) (e : Event α) :
    m.past (es ++ [e]) = m.past es ++ (m.system es).shown e := by
  rw [past, history_snoc, ← List.append_assoc]
  rfl

/-- **In every course of events, the bridge keeps its account.** -/
theorem bridged (leaves : ∀ e ∈ es, e.Leaves m.viewer) :
    Bridged m.buffer m.task m.viewer m.ground.bus.positions (m.past es) (m.system es) := by
  induction es using List.reverseRecOn with
  | nil =>
    rw [past, history, List.append_nil]
    exact m.bridged_start
  | append_singleton es e ih =>
    rw [List.forall_mem_append] at leaves
    have hbridged := ih leaves.1
    have htends := tends_follow hbridged.tended (leaves.2 e (List.mem_singleton_self e))
    rw [past_snoc, system_snoc]
    exact hbridged.step htends

/-- A bridge that nobody cancels is there. -/
theorem running (leaves : ∀ e ∈ es, e.Leaves m.viewer) (uncancelled : .move (.cancel m.task) ∉ es) :
    (m.system es).tasks.get? m.task ≠ none := by
  induction es using List.reverseRecOn with
  | nil =>
    have htask : m.start.tasks.get? m.task = some (.bridge m.viewer .listening) :=
      Table.get?_insert_self _ _ _
    rw [system, followAll, List.foldl_nil, htask]
    exact Option.some_ne_none _
  | append_singleton es e ih =>
    rw [List.forall_mem_append] at leaves
    rw [List.mem_append, not_or, List.mem_singleton] at uncancelled
    have htends := tends_follow (m.bridged leaves.1).tended (leaves.2 e (List.mem_singleton_self e))
    rw [system_snoc]
    exact htends.running (Ne.symm uncancelled.2) (ih leaves.1 uncancelled.1)

theorem positions_eq (leaves : ∀ e ∈ es, e.Leaves m.viewer) :
    (m.system es).bus.positions = m.ground.bus.positions ++ m.handed es := by
  obtain ⟨handed, hpositions, -⟩ := (m.bridged leaves).prefix_accepted
  rw [Mirror.handed, hpositions, List.drop_left]

/-- **What the bus got is the beginning of what was accepted.** -/
theorem handed_prefix_accepted (leaves : ∀ e ∈ es, e.Leaves m.viewer) : m.handed es <+: m.accepted es := by
  obtain ⟨handed, hpositions, hprefix⟩ := (m.bridged leaves).prefix_accepted
  rw [Mirror.handed, hpositions, List.drop_left]
  exact hprefix

/-- **The rest is with the bridge, or queued.** -/
theorem handed_append_rest (leaves : ∀ e ∈ es, e.Leaves m.viewer)
    (uncancelled : .move (.cancel m.task) ∉ es) :
    m.handed es ++ m.inFlight es ++ m.queued es = m.accepted es := by
  have hsum := (m.bridged leaves).sum (m.running leaves uncancelled)
  rw [m.positions_eq leaves, List.append_assoc, List.append_assoc] at hsum
  rw [List.append_assoc]
  exact List.append_cancel_left hsum

/-! ### Getting on -/

theorem accepted_prefix_append (es more : List (Event α)) : m.accepted es <+: m.accepted (es ++ more) := by
  induction more using List.reverseRecOn with
  | nil => simp
  | append_singleton more e ih =>
    rw [← List.append_assoc]
    refine ih.trans ?_
    rw [Mirror.accepted, Mirror.accepted, past_snoc]
    exact Hub.accepted_prefix_append _ _ _ _

/-- The work that a bridge has done grows with each of its turns, until the bus has got everything that
was accepted before.  By induction on the further events. -/
theorem labor_or_handed (leaves : ∀ e ∈ es ++ more, e.Leaves m.viewer)
    (uncancelled : .move (.cancel m.task) ∉ es ++ more) :
    (m.system es).labor m.task + more.countP (·.isTurn m.task) ≤ (m.system (es ++ more)).labor m.task ∨
      m.ground.bus.positions.length + (m.accepted es).length ≤
        (m.system (es ++ more)).bus.positions.length := by
  induction more using List.reverseRecOn with
  | nil => exact .inl (by rw [List.append_nil]; exact Nat.le_refl _)
  | append_singleton more e ih =>
    rw [← List.append_assoc] at leaves uncancelled ⊢
    rw [List.forall_mem_append] at leaves
    rw [List.mem_append, not_or, List.mem_singleton] at uncancelled
    have hbridged := m.bridged leaves.1
    have htends := tends_follow hbridged.tended (leaves.2 e (List.mem_singleton_self e))
    have hrunning := m.running leaves.1 uncancelled.1
    rw [system_snoc, List.countP_append, List.countP_singleton]
    obtain hlabor | hhanded := ih leaves.1 uncancelled.1
    · obtain hstep | hall := labor_step hbridged htends (Ne.symm uncancelled.2) hrunning
      · exact .inl (by omega)
      · refine .inr ?_
        rw [hall, List.length_append, ← past_snoc]
        have hmore := (m.accepted_prefix_append es (more ++ [e])).length_le
        rw [← List.append_assoc] at hmore
        exact Nat.add_le_add_left hmore _
    · exact .inr (Nat.le_trans hhanded htends.positions_prefix.length_le)

/-- **After two turns for each message that was queued, and one for the message in flight, the bus has
got them all.** -/
theorem accepted_prefix_handed (leaves : ∀ e ∈ es ++ more, e.Leaves m.viewer)
    (uncancelled : .move (.cancel m.task) ∉ es ++ more)
    (turns : 2 * (m.queued es).length + (m.inFlight es).length ≤ more.countP (·.isTurn m.task)) :
    m.accepted es <+: m.handed (es ++ more) := by
  have hearlier : ∀ e ∈ es, e.Leaves m.viewer := fun e he => leaves e (List.mem_append_left _ he)
  have huncancelled : .move (.cancel m.task) ∉ es := fun h => uncancelled (List.mem_append_left _ h)
  have hsum := congrArg List.length (m.handed_append_rest hearlier huncancelled)
  have hpositions := congrArg List.length (m.positions_eq hearlier)
  have hlater := congrArg List.length (m.positions_eq leaves)
  rw [List.length_append, List.length_append] at hsum
  rw [List.length_append] at hpositions hlater
  have hone : (m.inFlight (es ++ more)).length ≤ 1 := by
    rw [Mirror.inFlight, System.inFlight]
    split
    · next viewer g _ => cases g <;> simp [Bridge.inFlight]
    · exact Nat.zero_le _
  have henough : (m.accepted es).length ≤ (m.handed (es ++ more)).length := by
    obtain hlabor | hhanded := m.labor_or_handed leaves uncancelled
    · rw [labor, labor] at hlabor
      rw [Mirror.inFlight] at hsum turns hone
      omega
    · omega
  exact List.prefix_of_prefix_length_le (m.accepted_prefix_append es more)
    (m.handed_prefix_accepted leaves) henough

/-! ### Nobody minds -/

/-- **Two courses in which the same happens to everybody else end in the same way for everybody
else.**  Each is compared with the course in which the bridge is never heard of. -/
theorem others_of_filter {es' : List (Event α)} (leaves : ∀ e ∈ es, e.Leaves m.viewer)
    (leaves' : ∀ e ∈ es', e.Leaves m.viewer)
    (same : (es'.filter fun e => !e.isOf m.task) = es.filter fun e => !e.isOf m.task) :
    Alike m.task (m.system es').registry.hub (m.system es) (m.system es') ∧
      ((m.past es').filter fun op => !op.isOf m.viewer) =
        (m.past es).filter fun op => !op.isOf m.viewer := by
  have htwins := twins_followAll m.tended_start m.hub_start leaves
  have htwins' := twins_followAll m.tended_start m.hub_start leaves'
  rw [same] at htwins'
  refine ⟨?_, htwins'.history.symm.trans htwins.history⟩
  obtain ⟨bus, tasks, hsystem, htasks⟩ := htwins.alike
  obtain ⟨bus', tasks', hsystem', htasks'⟩ := htwins'.alike
  refine ⟨bus', tasks', ?_, fun id hid => ?_⟩
  · show m.start.followAll es' = _
    rw [hsystem', system, hsystem]
    rfl
  · rw [htasks' id hid, system, hsystem]
    exact (htasks id hid).symm

end Mirror

/-- **The bus gets what is accepted for the viewer of its bridge: in order, each message once, and
nothing else.**  In every course of events after the bridge was added, with any schedule of the bridge
and any pattern of failures of the bus — a slow bus is a bridge that has its turn late:

* the texts that the bus has under the topic of telemetry are those of before and then those of a
  beginning of the messages that the viewer's queue accepted, in the actual history of the hub;
* the rest is in flight or queued, as long as the bridge is not cancelled, and with enough turns the
  bus gets all of it;
* where the bus fails at other times, everything else is the same, the messages on the bus included;
* where the bridge has its turns at other times, or the bus fails at other times, or the bridge is
  cancelled, everything else is the same: the registry but for its hub, the store, the links and the
  other tasks; and of the hub all that the other viewers receive, and have in their queues.  Only the
  queue of the bridge and the count of missed messages may differ. -/
theorem telemetry_mirrored (m : Mirror Float) (es : List (System.Event Float))
    (leaves : ∀ e ∈ es, e.Leaves m.viewer) :
    (m.system es).registry.hub = Hub.after m.buffer (m.past es) ∧
    (m.system es).bus.telemetry =
      m.ground.bus.telemetry ++ (m.handed es).map (·.toJson.toText) ∧
    m.handed es <+: m.accepted es ∧
    (.move (.cancel m.task) ∉ es →
      m.handed es ++ m.inFlight es ++ m.queued es = m.accepted es ∧
      ∀ more, (∀ e ∈ more, e.Leaves m.viewer) → .move (.cancel m.task) ∉ more →
        2 * (m.queued es).length + (m.inFlight es).length ≤ more.countP (·.isTurn m.task) →
        m.accepted es <+: m.handed (es ++ more)) ∧
    (∀ es', ((es'.filter fun e => !e.isSwitch) = es.filter fun e => !e.isSwitch) →
      ∃ failing, m.system es' = { m.system es with bus.failing := failing }) ∧
    ∀ es', (∀ e ∈ es', e.Leaves m.viewer) →
      ((es'.filter fun e => !e.isOf m.task) = es.filter fun e => !e.isOf m.task) →
      System.Alike m.task (m.system es').registry.hub (m.system es) (m.system es') ∧
      (m.system es').registry.hub.capacity = (m.system es).registry.hub.capacity ∧
      (m.system es').registry.hub.fresh = (m.system es).registry.hub.fresh ∧
      ∀ j, j ≠ m.viewer →
        Hub.received m.buffer j (m.past es') = Hub.received m.buffer j (m.past es) ∧
        (m.system es').registry.hub.viewers.get? j = (m.system es).registry.hub.viewers.get? j := by
  refine ⟨(m.bridged leaves).hub, ?_, m.handed_prefix_accepted leaves, fun uncancelled => ⟨?_, ?_⟩, ?_, ?_⟩
  · rw [Bus.telemetry_eq, Bus.telemetry_eq, m.positions_eq leaves, List.map_append]
  · exact m.handed_append_rest leaves uncancelled
  · intro more hmore uncancelled' turns
    have hleaves : ∀ e ∈ es ++ more, e.Leaves m.viewer :=
      List.forall_mem_append.mpr ⟨leaves, hmore⟩
    exact m.accepted_prefix_handed hleaves (by
      rw [List.mem_append, not_or]
      exact ⟨uncancelled, uncancelled'⟩) turns
  · intro es' same
    obtain ⟨failing, hes⟩ := System.exists_withFailing_followAll m.start es
    obtain ⟨failing', hes'⟩ := System.exists_withFailing_followAll m.start es'
    rw [same] at hes'
    refine ⟨failing', ?_⟩
    rw [Mirror.system, Mirror.system, hes, hes']
    rfl
  · intro es' leaves' same
    obtain ⟨halike, hhistory⟩ := m.others_of_filter leaves leaves' same
    have hhub := (m.bridged leaves).hub
    have hhub' := (m.bridged leaves').hub
    refine ⟨halike, ?_, ?_, fun j hj => ?_⟩
    · rw [hhub, hhub', Hub.capacity_after, Hub.capacity_after]
    · rw [hhub, hhub', Hub.fresh_after, Hub.fresh_after, Hub.countP_isSubscribe_congr hhistory]
    · have hturns := Hub.turns?_congr hj hhistory
      rw [Hub.received_eq_gets, Hub.received_eq_gets, hhub, hhub', Hub.seat_after, Hub.seat_after, hturns]
      exact ⟨rfl, rfl⟩

namespace Mirror

/-- Viewers with room for two messages: somebody else (0), and that of the bridge (1). -/
def small : Mirror Float where
  ground := {
    now := 0
    wall := ⟨2024, 5, 1, 12, 0, 0, 0, 0⟩
    terms := ⟨1, 5000⟩
    kernel := ⟨.create (Hub.after 2 [.subscribe]), .seeded [] []⟩
    bus := .create
    broker := .initial
    gauges := ⟨0, 0⟩
    links := ∅
    tasks := ∅
    fresh := 0 }
  buffer := 2
  before := [.subscribe]
  hub := rfl
  numbered := by
    intro id t h
    cases h
  seated := by
    intro id f h
    cases h
  alone := by
    intro id viewer g h
    cases h

/-- The bridge comes too late for the third message, and the bus fails to take the first one. -/
def troubled : List (System.Event Float) :=
  [.hub (.publish ⟨4, ⟨0, 0⟩⟩), .hub (.publish ⟨4, ⟨1, 0⟩⟩), .hub (.publish ⟨4, ⟨2, 0⟩⟩),
    .hub (.receive 0), .move (.act 0 .bridge), .bus true, .move (.act 0 .bridge), .bus false,
    .move (.act 0 .bridge), .hub (.publish ⟨4, ⟨3, 0⟩⟩)]

/-- The same, but for a bridge that never has its turn. -/
def unattended : List (System.Event Float) := troubled.filter fun e => !e.isOf small.task

end Mirror

open Mirror in
theorem telemetry_mirrored_troubled :
    (∀ e ∈ troubled, e.Leaves small.viewer) ∧
    small.handed troubled = [⟨4, ⟨0, 0⟩⟩] ∧ small.inFlight troubled = [⟨4, ⟨1, 0⟩⟩] ∧
    small.queued troubled = [⟨4, ⟨3, 0⟩⟩] ∧
    small.handed troubled ++ small.inFlight troubled ++ small.queued troubled =
      small.accepted troubled ∧
    Hub.received small.buffer 0 (small.past troubled) = [⟨4, ⟨0, 0⟩⟩] ∧
    Hub.received small.buffer 0 (small.past unattended) =
      Hub.received small.buffer 0 (small.past troubled) := by
  have hleaves : ∀ e ∈ troubled, e.Leaves small.viewer := by
    show ∀ e ∈ troubled, e.Leaves 1
    simp [troubled, System.Event.Leaves, Move.Leaves, Hub.Op.isOf]
  have huncancelled : .move (.cancel small.task) ∉ troubled := by simp [troubled]
  obtain ⟨-, -, -, haccount, -, hothers⟩ := telemetry_mirrored small troubled hleaves
  have hquiet : ∀ e ∈ unattended, e.Leaves small.viewer :=
    fun e he => hleaves e (List.mem_filter.mp he).1
  have hsame : (unattended.filter fun e => !e.isOf small.task) =
      troubled.filter fun e => !e.isOf small.task := by
    rw [unattended, List.filter_filter]
    simp
  exact ⟨hleaves, rfl, rfl, rfl, (haccount huncancelled).1, rfl,
    ((hothers unattended hquiet hsame).2.2.2 0 (by decide)).1⟩

end ScooterFleet
