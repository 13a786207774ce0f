import Mathlib.Data.List.Nodup
import ScooterFleet.Proofs.Hub.Seat

/-!
# What viewers get

The messages that find a viewer open and with room are its own, each once and in their order; the
others miss it.

* `isOpen` / `takes` / `misses` — how a message finds a viewer, read off the history;
* `received` / `accepted` — what a viewer got, and the messages that found it open and with room;
* `received_append_items` — the account of one viewer, by one step of the history after the other;
* `delivery` — **the accounts of all viewers and of the hub**, after every history.
-/

namespace ScooterFleet

/-! ### Tables with distinct keys -/

namespace Table

variable {κ β γ : Type} [DecidableEq κ]

theorem mem_of_mem_put {k k' : κ} {v : β} {es : List (κ × β)}
    (h : k' ∈ (put k v es).map (·.1)) : k' = k ∨ k' ∈ es.map (·.1) := by
  induction es with
  | nil => exact .inl (by simpa [put] using h)
  | cons e es ih =>
    simp only [put] at h
    split at h
    · next he => exact (List.mem_cons.mp h).imp_right (List.mem_cons_of_mem _)
    · next he =>
      rcases List.mem_cons.mp h with rfl | h
      · exact .inr (List.mem_cons_self ..)
      · exact (ih h).imp_right (List.mem_cons_of_mem _)

theorem nodup_keys_insert {t : Table κ β} (h : t.keys.Nodup) (k : κ) (v : β) :
    (t.insert k v).keys.Nodup := by
  obtain ⟨es⟩ := t
  show ((put k v es).map (·.1)).Nodup
  change (es.map (·.1)).Nodup at h
  induction es with
  | nil => simp [put]
  | cons e es ih =>
    rw [List.map_cons, List.nodup_cons] at h
    simp only [put]
    split
    · next he =>
      subst he
      exact List.nodup_cons.mpr h
    · next he =>
      rw [List.map_cons, List.nodup_cons]
      refine ⟨fun hm => ?_, ih h.2⟩
      rcases mem_of_mem_put hm with hk | hm
      · exact he hk
      · exact h.1 hm

theorem nodup_keys_modify {t : Table κ β} (h : t.keys.Nodup) (k : κ) (f : β → β) :
    (t.modify k f).keys.Nodup := by
  unfold modify
  split
  · exact nodup_keys_insert h k _
  · exact h

theorem nodup_keys_erase {t : Table κ β} (h : t.keys.Nodup) (k : κ) : (t.erase k).keys.Nodup := by
  have hsub : (t.erase k).keys.Sublist t.keys := List.filter_sublist.map _
  exact hsub.nodup h

omit [DecidableEq κ] in
@[simp] theorem keys_mapValues (t : Table κ β) (f : β → γ) : (t.mapValues f).keys = t.keys := by
  simp [keys, mapValues]

/-- In a table with distinct keys, each entry is found. -/
theorem get?_of_mem {t : Table κ β} (h : t.keys.Nodup) {k : κ} {v : β} (hm : (k, v) ∈ t.entries) :
    t.get? k = some v := by
  obtain ⟨es⟩ := t
  show find k es = some v
  change (es.map (·.1)).Nodup at h
  change (k, v) ∈ es at hm
  induction es with
  | nil => cases hm
  | cons e es ih =>
    rw [List.map_cons, List.nodup_cons] at h
    rcases List.mem_cons.mp hm with rfl | hm
    · simp [find]
    · have hne : e.1 ≠ k := by
        intro he
        refine h.1 ?_
        rw [he]
        exact List.mem_map_of_mem hm
      simp only [find, hne, if_false]
      exact ih h.2 hm

end Table

namespace Hub

variable {α : Type}

/-- The viewers that the hub offers messages to. -/
def subscribers (h : Hub α) : List ViewerId :=
  (h.viewers.entries.filter fun e => !e.2.ended).map (·.1)

/-- What is queued for a viewer. -/
def queued (h : Hub α) (i : ViewerId) : List (Telemetry α) :=
  match h.viewers.get? i with
  | some c => c.items
  | none => []

/-- The viewer is subscribed, and takes messages. -/
def isOpen (i : ViewerId) (ops : List (Op α)) : Bool :=
  match turns? i ops with
  | some turns => !turns.any Turn.shuts
  | none => false

/-- The viewer has said that it takes no more messages. -/
def hasClosed (i : ViewerId) (ops : List (Op α)) : Bool :=
  match turns? i ops with
  | some turns => turns.any Turn.closes
  | none => false

/-- A message that is published now would be put into the queue of this viewer. -/
def takes (buffer : Nat) (ops : List (Op α)) (i : ViewerId) : Bool :=
  isOpen i ops && decide (((after buffer ops).queued i).length < max buffer 1)

/-- A message that is published now would be missed by this viewer, whose queue is full. -/
def misses (buffer : Nat) (ops : List (Op α)) (i : ViewerId) : Bool :=
  isOpen i ops && decide (max buffer 1 ≤ ((after buffer ops).queued i).length)

/-- The message of a step, if it finds this viewer subscribed, open and with room. -/
def accepted? (buffer : Nat) (i : ViewerId) (past : List (Op α)) : Op α → Option (Telemetry α)
  | .publish m => if takes buffer past i then some m else none
  | _ => none

/-- The messages that were published while a viewer was subscribed, open and had room. -/
def accepted (buffer : Nat) (i : ViewerId) (ops : List (Op α)) : List (Telemetry α) :=
  along (accepted? buffer i) [] ops

/-! ### The account of one viewer -/

/-- What is known of the channel of a viewer that has seen these turns. -/
structure Seated (capacity : Nat) (turns : List (Turn α)) (c : Channel (Telemetry α)) : Prop where
  capacity : c.capacity = some capacity
  fuse : c.fuse = none
  closed : c.closed = turns.any Turn.closes
  shut : (c.ended || c.closed) = turns.any Turn.shuts

/-- What a message does to a channel. -/
theorem deliver_eq {capacity : Nat} {c : Channel (Telemetry α)} (hcapacity : c.capacity = some capacity)
    (hfuse : c.fuse = none) (m : Telemetry α) :
    deliver m c =
      if c.ended then (.none, c)
      else if c.closed then (.unsubscribed, c.finish)
      else if capacity ≤ c.items.length then (.missed, c)
      else (.taken, { c with items := c.items ++ [m] }) := by
  obtain ⟨items, _, ended, closed, _⟩ := c
  cases hcapacity
  cases hfuse
  cases ended
  · cases closed
    · by_cases hfull : capacity ≤ items.length
      · simp [deliver, Channel.send, Channel.isFull, hfull]
      · simp [deliver, Channel.send, Channel.isFull, hfull]
    · rfl
  · rfl

theorem Seated.snoc {capacity : Nat} {turns : List (Turn α)} {c c' : Channel (Telemetry α)}
    (h : Seated capacity turns c) (turn : Turn α) (hcapacity : c'.capacity = c.capacity)
    (hfuse : c'.fuse = c.fuse) (hclosed : c'.closed = (c.closed || turn.closes))
    (hshut : (c'.ended || c'.closed) = (c.ended || c.closed || turn.shuts)) :
    Seated capacity (turns ++ [turn]) c' where
  capacity := hcapacity.trans h.capacity
  fuse := hfuse.trans h.fuse
  closed := by
    rw [hclosed, h.closed, List.any_append]
    simp
  shut := by
    rw [hshut, h.shut, List.any_append]
    simp

/-- One turn of a viewer, from one channel to the next. -/
theorem seated_act {capacity : Nat} {turns : List (Turn α)} {turn : Turn α}
    {c c' : Channel (Telemetry α)} (h : Seated capacity turns c) (hact : turn.act c = some c') :
    Seated capacity (turns ++ [turn]) c' := by
  cases turn with
  | publish m =>
    simp only [Turn.act, Option.some.injEq] at hact
    rw [deliver_eq h.capacity h.fuse] at hact
    split at hact
    · subst hact
      exact h.snoc _ rfl rfl (Bool.or_false _).symm (Bool.or_false _).symm
    · split at hact
      · next hended hclosed =>
        -- the hub finds that the viewer had closed, and forgets it
        subst hact
        refine h.snoc _ rfl rfl (Bool.or_false _).symm ?_
        simp [Turn.shuts, Channel.finish, hclosed]
      · split at hact <;> subst hact
        · exact h.snoc _ rfl rfl (Bool.or_false _).symm (Bool.or_false _).symm
        · exact h.snoc _ rfl rfl (Bool.or_false _).symm (Bool.or_false _).symm
  | receive =>
    simp only [Turn.act, Channel.receive] at hact
    split at hact
    · next m rest hitems =>
      split at hitems
      · cases hitems
        cases hact
        exact h.snoc _ rfl rfl (Bool.or_false _).symm (Bool.or_false _).symm
      · split at hitems <;> cases hitems
    · cases hact
      exact h.snoc _ rfl rfl (Bool.or_false _).symm (Bool.or_false _).symm
  | close =>
    cases hact
    refine h.snoc _ rfl rfl (Bool.or_true _).symm ?_
    simp [Turn.shuts, Channel.close]
  | unsubscribe =>
    cases hact
    refine h.snoc _ rfl rfl (Bool.or_false _).symm ?_
    simp [Turn.shuts, Channel.finish]
  | drop => cases hact

theorem seated_of_seat {capacity : Nat} {turns : List (Turn α)} {c : Channel (Telemetry α)}
    (h : seat capacity turns = some c) : Seated capacity turns c := by
  induction turns using List.reverseRecOn generalizing c with
  | nil =>
    cases h
    exact ⟨rfl, rfl, rfl, rfl⟩
  | append_singleton turns turn ih =>
    rw [seat_snoc, Option.bind_eq_some_iff] at h
    obtain ⟨c₀, h₀, hact⟩ := h
    exact seated_act (ih h₀) hact

/-- A seat that is empty was left. -/
theorem shut_of_seat {capacity : Nat} {turns : List (Turn α)} (h : seat capacity turns = none) :
    turns.any Turn.shuts = true := by
  induction turns using List.reverseRecOn with
  | nil => cases h
  | append_singleton turns turn ih =>
    rw [List.any_append, Bool.or_eq_true]
    cases hs : seat capacity turns with
    | none => exact .inl (ih hs)
    | some c =>
      rw [seat_snoc, hs] at h
      cases turn with
      | drop => exact .inr rfl
      | receive =>
        simp only [Option.bind_some, Turn.act] at h
        split at h <;> cases h
      | _ => cases h

section Viewer

variable {buffer : Nat} {ops : List (Op α)} {i : ViewerId} {c : Channel (Telemetry α)}

theorem exists_turns (h : (after buffer ops).viewers.get? i = some c) :
    ∃ turns, turns? i ops = some turns ∧ Seated (max buffer 1) turns c := by
  rw [seat_after, Option.bind_eq_some_iff] at h
  obtain ⟨turns, hturns, hseat⟩ := h
  exact ⟨turns, hturns, seated_of_seat hseat⟩

theorem isOpen_eq (h : (after buffer ops).viewers.get? i = some c) :
    isOpen i ops = (!c.ended && !c.closed) := by
  obtain ⟨turns, hturns, hseated⟩ := exists_turns h
  simp [isOpen, hturns, ← hseated.shut]

theorem hasClosed_eq (h : (after buffer ops).viewers.get? i = some c) :
    hasClosed i ops = c.closed := by
  obtain ⟨turns, hturns, hseated⟩ := exists_turns h
  simp [hasClosed, hturns, hseated.closed]

theorem isOpen_of_absent (h : (after buffer ops).viewers.get? i = none) : isOpen i ops = false := by
  rw [seat_after] at h
  unfold isOpen
  cases hturns : turns? i ops with
  | none => rfl
  | some turns =>
    rw [hturns] at h
    simp [shut_of_seat h]

theorem queued_eq (h : (after buffer ops).viewers.get? i = some c) :
    (after buffer ops).queued i = c.items := by
  simp [queued, h]

theorem takes_eq (h : (after buffer ops).viewers.get? i = some c) :
    takes buffer ops i = (!c.ended && !c.closed && decide (c.items.length < max buffer 1)) := by
  rw [takes, isOpen_eq h, queued_eq h]

theorem misses_eq (h : (after buffer ops).viewers.get? i = some c) :
    misses buffer ops i = (!c.ended && !c.closed && decide (max buffer 1 ≤ c.items.length)) := by
  rw [misses, isOpen_eq h, queued_eq h]

/-- A message joins the queue of a viewer that takes it, and of no other. -/
theorem items_deliver (h : (after buffer ops).viewers.get? i = some c) (m : Telemetry α) :
    (deliver m c).2.items = c.items ++ (if takes buffer ops i then [m] else []) := by
  obtain ⟨turns, -, hseated⟩ := exists_turns h
  rw [deliver_eq hseated.capacity hseated.fuse, takes_eq h]
  cases hended : c.ended with
  | true => simp
  | false =>
    cases hclosed : c.closed with
    | true => simp [Channel.finish]
    | false =>
      by_cases hfull : max buffer 1 ≤ c.items.length
      · have hno : ¬ c.items.length < max buffer 1 := by omega
        rw [if_pos hfull]
        simp [hno]
      · have hroom : c.items.length < max buffer 1 := by omega
        rw [if_neg hfull]
        simp [hroom]

/-- **What a step takes out of a viewer's queue is received, and what it puts in was accepted.** -/
theorem heard_append_items (h : (after buffer ops).viewers.get? i = some c) {op : Op α}
    {c' : Channel (Telemetry α)} (h' : (after buffer (ops ++ [op])).viewers.get? i = some c') :
    ((after buffer ops).heard? i op).toList ++ c'.items =
      c.items ++ (accepted? buffer i ops op).toList := by
  obtain ⟨turns, hturns, -⟩ := exists_turns h
  rw [after_snoc, get?_perform _ _ fun _ => ne_fresh_of_turns? hturns, h] at h'
  rw [heard?_eq, h]
  cases op with
  | subscribe =>
    cases h'
    simp [Op.turn?, accepted?]
  | publish m =>
    cases h'
    rw [items_deliver h m]
    by_cases ht : takes buffer ops i = true
    · simp [Op.turn?, Turn.heard?, accepted?, ht]
    · simp [Op.turn?, Turn.heard?, accepted?, ht]
  | receive j =>
    by_cases hj : j = i
    · simp only [Op.turn?, hj, if_true, Option.bind_some, Turn.act] at h'
      simp only [Op.turn?, hj, if_true, Option.bind_some, Turn.heard?, accepted?]
      unfold Channel.receive at h' ⊢
      split at h' <;> next hitems => grind
    · simp only [Op.turn?, hj, if_false] at h' ⊢
      cases h'
      simp [accepted?]
  | unsubscribe j | close j =>
    by_cases hj : j = i
    · simp only [Op.turn?, hj, if_true] at h' ⊢
      cases h'
      simp [Turn.heard?, accepted?, Channel.finish, Channel.close]
    · simp only [Op.turn?, hj, if_false] at h' ⊢
      cases h'
      simp [accepted?]
  | drop j =>
    by_cases hj : j = i
    · simp only [Op.turn?, hj, if_true] at h'
      cases h'
    · simp only [Op.turn?, hj, if_false] at h' ⊢
      cases h'
      simp [accepted?]

end Viewer

theorem accepted?_of_absent {buffer : Nat} {i : ViewerId} {past : List (Op α)}
    (h : (after buffer past).viewers.get? i = none) (op : Op α) : accepted? buffer i past op = none := by
  cases op with
  | publish m => simp [accepted?, takes, isOpen_of_absent h]
  | _ => rfl

theorem heard?_of_absent {h : Hub α} {i : ViewerId} (habsent : h.viewers.get? i = none) (op : Op α) :
    h.heard? i op = none := by
  rw [heard?_eq, habsent]
  cases op.turn? i <;> rfl

theorem get?_of_not_joined (buffer : Nat) {i : ViewerId} {ops : List (Op α)}
    (h : turns? i ops = none) : (after buffer ops).viewers.get? i = none := by
  rw [seat_after, h]
  rfl

/-- Nothing is for a viewer that has not joined. -/
theorem nothing_of_not_joined (buffer : Nat) {i : ViewerId} {ops : List (Op α)}
    (h : turns? i ops = none) : received buffer i ops = [] ∧ accepted buffer i ops = [] := by
  induction ops using List.reverseRecOn with
  | nil => exact ⟨rfl, rfl⟩
  | append_singleton ops op ih =>
    cases ht : turns? i ops with
    | some turns =>
      rw [turns?_snoc_of_some ht] at h
      cases h
    | none =>
      obtain ⟨hreceived, haccepted⟩ := ih ht
      have habsent := get?_of_not_joined buffer ht
      rw [received, along_snoc, ← received, hreceived, accepted, along_snoc, ← accepted, haccepted,
        heard?_of_absent habsent, accepted?_of_absent habsent]
      exact ⟨rfl, rfl⟩

/-- **What a viewer received, and then what is queued for it, is what was published while it was open
and had room.**  By induction on the history: the last step moves at most one message. -/
theorem received_append_items {buffer : Nat} {i : ViewerId} {ops : List (Op α)}
    {c : Channel (Telemetry α)} (h : (after buffer ops).viewers.get? i = some c) :
    received buffer i ops ++ c.items = accepted buffer i ops := by
  induction ops using List.reverseRecOn generalizing c with
  | nil => cases h
  | append_singleton ops op ih =>
    rw [received, along_snoc, ← received, accepted, along_snoc, ← accepted]
    cases hc : (after buffer ops).viewers.get? i with
    | some c₀ => rw [List.append_assoc, heard_append_items hc h, ← List.append_assoc, ih hc]
    | none =>
      -- the viewer joins with this step
      obtain ⟨turns, hturns, -⟩ := exists_turns h
      have hnew : turns? i ops = none := by
        cases ht : turns? i ops with
        | none => rfl
        | some turns₀ =>
          rw [after_snoc, get?_perform _ _ fun _ => ne_fresh_of_turns? ht, hc] at h
          cases hop : op.turn? i <;> rw [hop] at h <;> cases h
      obtain ⟨hreceived, haccepted⟩ := nothing_of_not_joined buffer hnew
      have hempty : c.items = [] := by
        rw [seat_after, turns?_snoc_of_none hnew] at h
        split at h <;> cases h
        rfl
      rw [hreceived, haccepted, hempty, heard?_of_absent hc, accepted?_of_absent hc]
      rfl

/-- A viewer that has gone does not come back. -/
theorem absent_of_dropped {buffer : Nat} {i : ViewerId} {before more : List (Op α)}
    (h : turns? i before ≠ none) :
    (after buffer (before ++ [.drop i] ++ more)).viewers.get? i = none := by
  obtain ⟨turns, hturns⟩ := Option.ne_none_iff_exists'.mp h
  have hdropped : turns? i (before ++ [.drop i]) = some (turns ++ [.drop]) := by
    rw [turns?_snoc_of_some hturns]
    simp [Op.turn?]
  have hlater : ∃ later, turns? i (before ++ [.drop i] ++ more) =
      some (turns ++ [.drop] ++ later) := by
    induction more using List.reverseRecOn with
    | nil => exact ⟨[], by simpa using hdropped⟩
    | append_singleton more op ih =>
      obtain ⟨later, hlater⟩ := ih
      exact ⟨later ++ (op.turn? i).toList, by
        rw [← List.append_assoc, turns?_snoc_of_some hlater, List.append_assoc]⟩
  have hgone : ∀ later, seat (max buffer 1) (turns ++ [Turn.drop] ++ later) = none := by
    intro later
    induction later using List.reverseRecOn with
    | nil =>
      rw [List.append_nil, seat_snoc]
      cases seat (max buffer 1) turns <;> rfl
    | append_singleton later turn ih =>
      rw [← List.append_assoc, seat_snoc, ih]
      rfl
  obtain ⟨later, hlater⟩ := hlater
  rw [seat_after, hlater]
  exact hgone later

/-- To a viewer that goes, nothing is added: it leaves what was queued. -/
theorem account_of_dropped (buffer : Nat) {i : ViewerId} {before : List (Op α)} (rest : List (Op α))
    (h : turns? i before ≠ none) :
    received buffer i (before ++ .drop i :: rest) = received buffer i before ∧
      accepted buffer i (before ++ .drop i :: rest) = accepted buffer i before := by
  have habsent : ∀ more, (after buffer (before ++ [.drop i] ++ more)).viewers.get? i = none :=
    fun more => absent_of_dropped h
  have hsplit : before ++ .drop i :: rest = before ++ [.drop i] ++ rest := by simp
  rw [hsplit]
  have hreceived : along (fun past op => (after buffer past).heard? i op)
      ([] ++ (before ++ [.drop i])) rest = [] :=
    along_eq_nil fun more op => heard?_of_absent (habsent more) op
  have haccepted : along (accepted? buffer i) ([] ++ (before ++ [.drop i])) rest = [] :=
    along_eq_nil fun more op => accepted?_of_absent (habsent more) op
  constructor
  · rw [received, along_append, along_snoc, hreceived]
    simp [received, heard?]
  · rw [accepted, along_append, along_snoc, haccepted]
    simp [accepted, accepted?]

/-! ### The account of the hub -/

theorem nodup_viewers (buffer : Nat) (ops : List (Op α)) : (after buffer ops).viewers.keys.Nodup := by
  induction ops using List.reverseRecOn with
  | nil => exact List.nodup_nil
  | append_singleton ops op ih =>
    rw [after_snoc]
    cases op with
    | subscribe => exact Table.nodup_keys_insert ih _ _
    | unsubscribe id | close id => exact Table.nodup_keys_modify ih id _
    | drop id => exact Table.nodup_keys_erase ih id
    | publish m =>
      show ((after buffer ops).viewers.mapValues fun c => (deliver m c).2).keys.Nodup
      rw [Table.keys_mapValues]
      exact ih
    | receive id =>
      show ((after buffer ops).take? id).2.viewers.keys.Nodup
      unfold take?
      split
      · exact Table.nodup_keys_insert ih _ _
      · exact ih

/-- How many viewers a message meets in some way, among those that are subscribed. -/
theorem count_deliveries {buffer : Nat} {ops : List (Op α)} {m : Telemetry α} {d : Delivery}
    {p : ViewerId → Bool}
    (h : ∀ i c, (after buffer ops).viewers.get? i = some c →
      ((deliver m c).1 == d) = (!c.ended && p i)) :
    ((after buffer ops).deliveries m).count d = (after buffer ops).subscribers.countP p := by
  rw [deliveries, subscribers, Table.values, List.map_map, List.count, List.countP_map,
    List.countP_map, List.countP_filter]
  refine List.countP_congr fun e he => ?_
  have hget := Table.get?_of_mem (nodup_viewers buffer ops) he
  simp only [Function.comp, h e.1 e.2 hget, Bool.and_comm]

/-- A publication tells how many viewers took it. -/
theorem taken_publish (buffer : Nat) (ops : List (Op α)) (m : Telemetry α) :
    ((after buffer ops).publish m).1 = (after buffer ops).subscribers.countP (takes buffer ops) := by
  refine count_deliveries fun i c h => ?_
  obtain ⟨turns, -, hseated⟩ := exists_turns h
  rw [deliver_eq hseated.capacity hseated.fuse, takes_eq h]
  by_cases hfull : max buffer 1 ≤ c.items.length
  · have hno : ¬ c.items.length < max buffer 1 := by omega
    cases c.ended <;> cases c.closed <;> simp [hfull, hno]
  · have hroom : c.items.length < max buffer 1 := by omega
    cases c.ended <;> cases c.closed <;> simp [hfull, hroom]

/-- It joins the queues of those that take it. -/
theorem queued_publish (buffer : Nat) (ops : List (Op α)) (m : Telemetry α) (i : ViewerId) :
    ((after buffer ops).publish m).2.queued i =
      (after buffer ops).queued i ++ if takes buffer ops i then [m] else [] := by
  have hget : ((after buffer ops).publish m).2.viewers.get? i =
      ((after buffer ops).viewers.get? i).map fun c => (deliver m c).2 :=
    Table.get?_mapValues _ _ _
  unfold queued
  rw [hget]
  cases h : (after buffer ops).viewers.get? i with
  | some c => exact items_deliver h m
  | none => simp [takes, isOpen_of_absent h]

/-- It counts as missed once for each open viewer without room. -/
theorem lagged_publish (buffer : Nat) (ops : List (Op α)) (m : Telemetry α) :
    ((after buffer ops).publish m).2.lagged =
      (after buffer ops).lagged + (after buffer ops).subscribers.countP (misses buffer ops) := by
  refine congrArg ((after buffer ops).lagged + ·) (count_deliveries fun i c h => ?_)
  obtain ⟨turns, -, hseated⟩ := exists_turns h
  rw [deliver_eq hseated.capacity hseated.fuse, misses_eq h]
  by_cases hfull : max buffer 1 ≤ c.items.length
  · cases c.ended <;> cases c.closed <;> simp [hfull]
  · cases c.ended <;> cases c.closed <;> simp [hfull]

/-- It leaves the viewers that had not closed. -/
theorem subscribers_publish (buffer : Nat) (ops : List (Op α)) (m : Telemetry α) :
    ((after buffer ops).publish m).2.subscribers =
      (after buffer ops).subscribers.filter fun i => !hasClosed i ops := by
  show ((List.map (fun e => (e.1, (deliver m e.2).2)) (after buffer ops).viewers.entries).filter
    fun e => !e.2.ended).map (·.1) = _
  rw [List.filter_map, List.map_map, subscribers, List.filter_map, List.filter_filter]
  show ((after buffer ops).viewers.entries.filter _).map (·.1) = _
  congr 1
  refine List.filter_congr fun e he => ?_
  have hget := Table.get?_of_mem (nodup_viewers buffer ops) he
  obtain ⟨turns, -, hseated⟩ := exists_turns hget
  simp only [Function.comp, hasClosed_eq hget, deliver_eq hseated.capacity hseated.fuse]
  cases hended : e.2.ended with
  | true => simp [hended]
  | false =>
    cases hclosed : e.2.closed with
    | true => simp [Channel.finish]
    | false => by_cases hfull : max buffer 1 ≤ e.2.items.length <;> simp [hfull, hended]

/-- **Every viewer gets what was published while it was open and had room, whatever the others do.**
After every history:

* what a viewer has received, and then what is queued for it, is what was published while it was
  subscribed, open and had room, in that order; for a viewer that has gone, what was queued when it
  went;
* viewers that see the same publications and are treated in the same way get the same, and have the
  same in their queues, whatever else the two histories hold;
* a publication tells the number of viewers that take it, and joins the queues of these; the messages
  missed are counted once for each open viewer whose queue is full; and the viewers that had closed are
  no viewers any more. -/
theorem delivery (buffer : Nat) (ops : List (Op α)) :
    (∀ i c, (after buffer ops).viewers.get? i = some c →
      received buffer i ops ++ c.items = accepted buffer i ops) ∧
    (∀ i c before rest, ops = before ++ .drop i :: rest →
      (after buffer before).viewers.get? i = some c →
      received buffer i ops ++ c.items = accepted buffer i ops) ∧
    (∀ i j ops', turns? i ops = turns? j ops' →
      received buffer i ops = received buffer j ops' ∧
        (after buffer ops).viewers.get? i = (after buffer ops').viewers.get? j) ∧
    ∀ m,
      ((after buffer ops).publish m).1 =
        (after buffer ops).subscribers.countP (takes buffer ops) ∧
      (∀ i, ((after buffer ops).publish m).2.queued i =
        (after buffer ops).queued i ++ if takes buffer ops i then [m] else []) ∧
      ((after buffer ops).publish m).2.lagged =
        (after buffer ops).lagged + (after buffer ops).subscribers.countP (misses buffer ops) ∧
      ((after buffer ops).publish m).2.subscribers =
        (after buffer ops).subscribers.filter fun i => !hasClosed i ops := by
  refine ⟨fun i c h => received_append_items h, ?_, ?_, fun m => ⟨taken_publish buffer ops m,
    queued_publish buffer ops m, lagged_publish buffer ops m, subscribers_publish buffer ops m⟩⟩
  · intro i c before rest hsplit h
    subst hsplit
    obtain ⟨turns, hturns, -⟩ := exists_turns h
    have hjoined : turns? i before ≠ none := by
      rw [hturns]
      exact Option.some_ne_none turns
    obtain ⟨hreceived, haccepted⟩ := account_of_dropped buffer rest hjoined
    rw [hreceived, haccepted]
    exact received_append_items h
  · intro i j ops' h
    rw [received_eq_gets, received_eq_gets, seat_after, seat_after, h]
    exact ⟨rfl, rfl⟩

/-- Two viewers with room for two messages.  The first one is slow: it looks once, and late.  The second
one looks after each message, and closes before the last one. -/
def slowAndFast : List (Op Int) :=
  let told := fun n : Int => [Op.publish ⟨4, ⟨n, 0⟩⟩, .receive 1]
  [.subscribe, .subscribe] ++ told 0 ++ told 1 ++ told 2 ++ told 3 ++
    [.receive 0, .close 1, .publish ⟨4, ⟨4, 0⟩⟩]

theorem delivery_slowAndFast :
    (∃ c, (after 2 slowAndFast).viewers.get? 0 = some c ∧
      received 2 0 slowAndFast ++ c.items = accepted 2 0 slowAndFast ∧
      accepted 2 0 slowAndFast = [⟨4, ⟨0, 0⟩⟩, ⟨4, ⟨1, 0⟩⟩, ⟨4, ⟨4, 0⟩⟩]) ∧
    ((after 2 slowAndFast).publish ⟨4, ⟨5, 0⟩⟩).1 =
      (after 2 slowAndFast).subscribers.countP (takes 2 slowAndFast) ∧
    (after 2 slowAndFast).lagged = 2 ∧ (after 2 slowAndFast).subscribers = [0] :=
  ⟨⟨_, rfl, (delivery 2 slowAndFast).1 0 _ rfl, by decide⟩,
    ((delivery 2 slowAndFast).2.2.2 ⟨4, ⟨5, 0⟩⟩).1, by decide, by decide⟩

end Hub
end ScooterFleet
