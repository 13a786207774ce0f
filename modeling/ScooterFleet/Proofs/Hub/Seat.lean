import Mathlib.Data.List.Induction
import ScooterFleet.Kernel.Hub

/-!
# A seat for each viewer

Anybody may subscribe, leave, publish and look for messages, in any order.  What becomes of one viewer
depends on the publications and on what is done to that viewer, and on nothing else.

* `Op` / `after` — the hub after a history;
* `Turn` / `turns?` — the view of one viewer: the publications since it joined, and what was done to it;
* `get?_perform` — **the step lemma**: a step is a turn of each viewer that sees it;
* `seat_after` / `received_eq_gets` — the channel of a viewer, and what the viewer has received, are
  functions of its view: the hub is as good as a seat of its own for each viewer.

Viewers are numbered in the order in which they join.
-/

namespace ScooterFleet

namespace Hub

variable {α β : Type}

/-! ### Histories -/

/-- What anybody does to a hub. -/
inductive Op (α : Type) where
  | subscribe
  | unsubscribe (id : ViewerId)
  | publish (message : Telemetry α)
  /-- A viewer looks for a message. -/
  | receive (id : ViewerId)
  | close (id : ViewerId)
  /-- A viewer goes. -/
  | drop (id : ViewerId)

def Op.isSubscribe : Op α → Bool
  | .subscribe => true
  | _ => false

def perform (h : Hub α) : Op α → Hub α
  | .subscribe => h.subscribe.2
  | .unsubscribe id => h.unsubscribe id
  | .publish m => (h.publish m).2
  | .receive id => (h.take? id).2
  | .close id => h.close id
  | .drop id => h.drop id

/-- The hub after a history. -/
def after (buffer : Nat) (ops : List (Op α)) : Hub α := ops.foldl perform (create buffer)

@[simp] theorem after_snoc (buffer : Nat) (ops : List (Op α)) (op : Op α) :
    after buffer (ops ++ [op]) = (after buffer ops).perform op :=
  List.foldl_append

/-- What a viewer gets in a step of the history. -/
def heard? (h : Hub α) (i : ViewerId) : Op α → Option (Telemetry α)
  | .receive j => if j = i then (h.take? i).1 else none
  | _ => none

/-! ### The view of one viewer -/

/-- What one viewer sees of a history. -/
inductive Turn (α : Type) where
  | publish (message : Telemetry α)
  | receive
  | close
  | unsubscribe
  | drop

namespace Turn

def closes : Turn α → Bool
  | .close => true
  | _ => false

/-- After this, nothing is put into the viewer's queue any more. -/
def shuts : Turn α → Bool
  | .close | .unsubscribe | .drop => true
  | _ => false

end Turn

def Op.turn? (i : ViewerId) : Op α → Option (Turn α)
  | .subscribe => none
  | .publish m => some (.publish m)
  | .unsubscribe j => if j = i then some .unsubscribe else none
  | .receive j => if j = i then some .receive else none
  | .close j => if j = i then some .close else none
  | .drop j => if j = i then some .drop else none

/-- The history behind the subscription of a viewer; none if it has not joined. -/
def stay? : ViewerId → List (Op α) → Option (List (Op α))
  | _, [] => none
  | i, op :: ops =>
    match i, op.isSubscribe with
    | 0, true => some ops
    | i + 1, true => stay? i ops
    | i, false => stay? i ops

/-- What a viewer sees of a history; none if it has not joined. -/
def turns? (i : ViewerId) (ops : List (Op α)) : Option (List (Turn α)) :=
  (stay? i ops).map (·.filterMap (Op.turn? i))

/-- What a function tells of each step of a history, given the steps before. -/
def along (f : List (Op α) → Op α → Option β) (past : List (Op α)) : List (Op α) → List β
  | [] => []
  | op :: ops => (f past op).toList ++ along f (past ++ [op]) ops

/-- The messages that a viewer has received. -/
def received (buffer : Nat) (i : ViewerId) (ops : List (Op α)) : List (Telemetry α) :=
  along (fun past op => (after buffer past).heard? i op) [] ops

theorem along_append (f : List (Op α) → Op α → Option β) (past ops rest : List (Op α)) :
    along f past (ops ++ rest) = along f past ops ++ along f (past ++ ops) rest := by
  induction ops generalizing past with
  | nil => simp [along]
  | cons op ops ih => simp [along, ih]

theorem along_snoc (f : List (Op α) → Op α → Option β) (ops : List (Op α)) (op : Op α) :
    along f [] (ops ++ [op]) = along f [] ops ++ (f ops op).toList := by
  rw [along_append]
  simp [along]

theorem along_eq_nil {f : List (Op α) → Op α → Option β} {past ops : List (Op α)}
    (h : ∀ more op, f (past ++ more) op = none) : along f past ops = [] := by
  induction ops generalizing past with
  | nil => rfl
  | cons op ops ih =>
    have hnow := h [] op
    rw [List.append_nil] at hnow
    rw [along, hnow, ih]
    · rfl
    · intro more op'
      rw [List.append_assoc]
      exact h (op :: more) op'

/-! ### When a viewer joins -/

theorem fresh_after (buffer : Nat) (ops : List (Op α)) :
    (after buffer ops).fresh = ops.countP Op.isSubscribe := by
  induction ops using List.reverseRecOn with
  | nil => rfl
  | append_singleton ops op ih =>
    rw [after_snoc, List.countP_append, List.countP_singleton, ← ih]
    cases op with
    | receive id =>
      show ((after buffer ops).take? id).2.fresh = _
      unfold take?
      split <;> rfl
    | _ => rfl

/-- A viewer joins with the subscription of its number. -/
theorem stay?_snoc (i : ViewerId) (ops : List (Op α)) (op : Op α) :
    stay? i (ops ++ [op]) =
      match stay? i ops with
      | some stay => some (stay ++ [op])
      | none => if op.isSubscribe = true ∧ ops.countP Op.isSubscribe = i then some [] else none := by
  induction ops generalizing i with
  | nil => cases i <;> cases h : op.isSubscribe <;> simp [stay?, h]
  | cons o ops ih =>
    rw [List.cons_append]
    cases i <;> cases h : o.isSubscribe <;> simp [stay?, h, ih]

theorem stay?_isSome_iff (i : ViewerId) (ops : List (Op α)) :
    (stay? i ops).isSome = true ↔ i < ops.countP Op.isSubscribe := by
  induction ops generalizing i with
  | nil => simp [stay?]
  | cons o ops ih => cases i <;> cases h : o.isSubscribe <;> simp [stay?, h, ih]

/-- Behind its subscription, a viewer's view grows by what it sees. -/
theorem turns?_snoc_of_some {i : ViewerId} {ops : List (Op α)} {turns : List (Turn α)}
    (h : turns? i ops = some turns) (op : Op α) :
    turns? i (ops ++ [op]) = some (turns ++ (op.turn? i).toList) := by
  obtain ⟨stay, hstay, rfl⟩ := Option.map_eq_some_iff.mp h
  rw [turns?, stay?_snoc, hstay]
  cases ht : op.turn? i <;> simp [ht]

theorem turns?_snoc_of_none {i : ViewerId} {ops : List (Op α)} (h : turns? i ops = none)
    (op : Op α) : turns? i (ops ++ [op]) =
      if op.isSubscribe = true ∧ ops.countP Op.isSubscribe = i then some [] else none := by
  rw [turns?, Option.map_eq_none_iff] at h
  rw [turns?, stay?_snoc, h]
  by_cases hop : op.isSubscribe = true ∧ ops.countP Op.isSubscribe = i
  · simp [hop]
  · simp only [hop, if_false]
    rfl

theorem lt_of_turns? {i : ViewerId} {ops : List (Op α)} {turns : List (Turn α)}
    (h : turns? i ops = some turns) : i < ops.countP Op.isSubscribe := by
  obtain ⟨stay, hstay, -⟩ := Option.map_eq_some_iff.mp h
  exact (stay?_isSome_iff i ops).mp (by rw [hstay]; rfl)

/-! ### A seat for each viewer -/

namespace Turn

/-- What a turn does to the channel of its viewer; none if the viewer goes. -/
def act (turn : Turn α) (c : Channel (Telemetry α)) : Option (Channel (Telemetry α)) :=
  match turn with
  | .publish m => some (deliver m c).2
  | .receive =>
    match c.receive with
    | .item _ rest => some rest
    | _ => some c
  | .close => some c.close
  | .unsubscribe => some c.finish
  | .drop => none

/-- What the viewer gets in a turn. -/
def heard? (turn : Turn α) (c : Channel (Telemetry α)) : Option (Telemetry α) :=
  match turn with
  | .receive =>
    match c.receive with
    | .item m _ => some m
    | _ => none
  | _ => none

end Turn

/-- The channel of a viewer that sees these turns; none once it has gone. -/
def seat (capacity : Nat) (turns : List (Turn α)) : Option (Channel (Telemetry α)) :=
  turns.foldl (fun c turn => c.bind turn.act) (some (.bounded capacity))

theorem seat_snoc (capacity : Nat) (turns : List (Turn α)) (turn : Turn α) :
    seat capacity (turns ++ [turn]) = (seat capacity turns).bind turn.act :=
  List.foldl_append

/-- **A step of the history is a turn of each viewer that sees it, and nothing to the others.** -/
theorem get?_perform (h : Hub α) (op : Op α) {i : ViewerId}
    (hi : op.isSubscribe = true → h.fresh ≠ i) :
    (h.perform op).viewers.get? i =
      match op.turn? i with
      | some turn => (h.viewers.get? i).bind turn.act
      | none => h.viewers.get? i := by
  cases op with
  | subscribe => exact Table.get?_insert_of_ne _ _ (hi rfl)
  | publish m =>
    show (h.viewers.mapValues fun c => (deliver m c).2).get? i = _
    rw [Table.get?_mapValues]
    cases h.viewers.get? i <;> rfl
  | unsubscribe j =>
    show (h.viewers.modify j Channel.finish).get? i = _
    rw [Table.get?_modify]
    by_cases hj : j = i
    · simp only [Op.turn?, hj, if_true]
      cases h.viewers.get? i <;> rfl
    · simp only [Op.turn?, hj, if_false]
  | close j =>
    show (h.viewers.modify j Channel.close).get? i = _
    rw [Table.get?_modify]
    by_cases hj : j = i
    · simp only [Op.turn?, hj, if_true]
      cases h.viewers.get? i <;> rfl
    · simp only [Op.turn?, hj, if_false]
  | drop j =>
    show (h.viewers.erase j).get? i = _
    rw [Table.get?_erase]
    by_cases hj : j = i
    · simp only [Op.turn?, hj, if_true]
      cases h.viewers.get? i <;> rfl
    · simp only [Op.turn?, hj, if_false]
  | receive j =>
    show (h.take? j).2.viewers.get? i = _
    unfold take? receive
    cases hc : h.viewers.get? j with
    | none =>
      by_cases hj : j = i
      · subst hj
        simp [Op.turn?, hc]
      · simp [Op.turn?, hj]
    | some c =>
      by_cases hj : j = i
      · subst hj
        cases hr : c.receive <;> simp [Op.turn?, hc, Turn.act, hr, leave]
      · cases hr : c.receive <;> simp [Op.turn?, hj, hr, leave, Table.get?_insert_of_ne]

theorem heard?_eq (h : Hub α) (op : Op α) (i : ViewerId) :
    h.heard? i op =
      match op.turn? i with
      | some turn => (h.viewers.get? i).bind turn.heard?
      | none => none := by
  cases op with
  | receive j =>
    by_cases hj : j = i
    · subst hj
      simp only [heard?, Op.turn?, if_true, take?, receive]
      cases hc : h.viewers.get? j with
      | none => rfl
      | some c => cases hr : c.receive <;> simp [Turn.heard?, hr]
    · simp [heard?, Op.turn?, hj]
  | publish m => cases h.viewers.get? i <;> simp [heard?, Op.turn?, Turn.heard?]
  | subscribe => rfl
  | unsubscribe j | close j | drop j =>
    by_cases hj : j = i
    · cases h.viewers.get? i <;> simp [heard?, Op.turn?, hj, Turn.heard?]
    · simp [heard?, Op.turn?, hj]

theorem capacity_after (buffer : Nat) (ops : List (Op α)) :
    (after buffer ops).capacity = max buffer 1 := by
  induction ops using List.reverseRecOn with
  | nil => rfl
  | append_singleton ops op ih =>
    rw [after_snoc, ← ih]
    cases op with
    | receive id =>
      show ((after buffer ops).take? id).2.capacity = _
      unfold take?
      split <;> rfl
    | _ => rfl

theorem ne_fresh_of_turns? {buffer : Nat} {i : ViewerId} {ops : List (Op α)}
    {turns : List (Turn α)} (h : turns? i ops = some turns) : (after buffer ops).fresh ≠ i := by
  rw [fresh_after]
  exact Nat.ne_of_gt (lt_of_turns? h)

/-- **The channel of a viewer is a function of what the viewer sees.** -/
theorem seat_after (buffer : Nat) (ops : List (Op α)) (i : ViewerId) :
    (after buffer ops).viewers.get? i = (turns? i ops).bind (seat (max buffer 1)) := by
  induction ops using List.reverseRecOn with
  | nil => rfl
  | append_singleton ops op ih =>
    rw [after_snoc]
    cases ht : turns? i ops with
    | some turns =>
      rw [get?_perform _ _ fun _ => ne_fresh_of_turns? ht, ih, ht, turns?_snoc_of_some ht]
      cases hop : op.turn? i with
      | none => simp
      | some turn => exact (seat_snoc _ turns turn).symm
    | none =>
      rw [turns?_snoc_of_none ht]
      rw [ht] at ih
      by_cases hop : op.isSubscribe = true ∧ ops.countP Op.isSubscribe = i
      · cases op with
        | subscribe =>
          have hfresh : (after buffer ops).fresh = i := (fresh_after buffer ops).trans hop.2
          rw [if_pos hop]
          show ((after buffer ops).viewers.insert (after buffer ops).fresh
            (.bounded (after buffer ops).capacity)).get? i = _
          rw [hfresh, capacity_after, Table.get?_insert_self]
          rfl
        | _ => cases hop.1
      · rw [if_neg hop, get?_perform _ _ fun hs he => hop ⟨hs, (fresh_after buffer ops).symm.trans he⟩,
          ih]
        cases op.turn? i <;> rfl

/-- What a viewer gets in some turns, on a channel. -/
def gets (c : Option (Channel (Telemetry α))) : List (Turn α) → List (Telemetry α)
  | [] => []
  | turn :: turns => (c.bind turn.heard?).toList ++ gets (c.bind turn.act) turns

theorem gets_snoc (c : Option (Channel (Telemetry α))) (turns : List (Turn α)) (turn : Turn α) :
    gets c (turns ++ [turn]) =
      gets c turns ++ ((turns.foldl (fun c turn => c.bind turn.act) c).bind turn.heard?).toList := by
  induction turns generalizing c with
  | nil => simp [gets]
  | cons t turns ih => simp [gets, ih]

/-- **What a viewer has received is a function of what it sees.** -/
theorem received_eq_gets (buffer : Nat) (i : ViewerId) (ops : List (Op α)) :
    received buffer i ops =
      match turns? i ops with
      | some turns => gets (some (.bounded (max buffer 1))) turns
      | none => [] := by
  induction ops using List.reverseRecOn with
  | nil => rfl
  | append_singleton ops op ih =>
    rw [received, along_snoc, ← received, ih, heard?_eq, seat_after]
    cases ht : turns? i ops with
    | some turns =>
      rw [turns?_snoc_of_some ht]
      cases hop : op.turn? i with
      | none => simp
      | some turn =>
        show _ = gets _ (turns ++ [turn])
        rw [gets_snoc]
        rfl
    | none =>
      have hnothing : (match op.turn? i with
          | some turn => ((none : Option (List (Turn α))).bind (seat (max buffer 1))).bind turn.heard?
          | none => none) = none := by
        cases op.turn? i <;> rfl
      rw [turns?_snoc_of_none ht, hnothing]
      by_cases hop : op.isSubscribe = true ∧ ops.countP Op.isSubscribe = i
      · rw [if_pos hop]
        rfl
      · rw [if_neg hop]
        rfl

end Hub
end ScooterFleet
