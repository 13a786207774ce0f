import ScooterFleet.Proofs.Hub.Delivery

/-!
# Who holds a viewer

Whoever holds a viewer looks for its messages and lets it go in the end; nobody else does.  To the other
viewers this makes no difference, and without it a viewer receives nothing and stays.

* `Op.isOf` — what the holder of a viewer does;
* `turns?_congr` — **the other viewers do not see it**;
* `received_append_of_others` / `exists_append_of_others` — without it;
* `absent_append` / `account_of_absent` — after a viewer has gone;
* `received_prefix_accepted` — what a viewer received is the beginning of what was accepted for it.
-/

namespace ScooterFleet

namespace Hub

variable {α : Type} {i j : ViewerId}

/-- Only the holder of the viewer does this. -/
def Op.isOf (i : ViewerId) : Op α → Bool
  | .receive j | .drop j => j = i
  | _ => false

/-! ### What the others see -/

theorem stay?_filter {p : Op α → Bool} (hp : ∀ op, op.isSubscribe = true → p op = true) (j : ViewerId)
    (ops : List (Op α)) : stay? j (ops.filter p) = (stay? j ops).map (·.filter p) := by
  induction ops generalizing j with
  | nil => rfl
  | cons op ops ih =>
    cases hop : p op with
    | true =>
      rw [List.filter_cons_of_pos hop]
      cases j <;> cases hs : op.isSubscribe <;> simp only [stay?, hs, ih, Option.map_some]
    | false =>
      have hs : op.isSubscribe = false := by
        cases h : op.isSubscribe with
        | true => rw [hp op h] at hop; cases hop
        | false => rfl
      rw [List.filter_cons_of_neg (by simp [hop]), ih]
      cases j <;> simp only [stay?, hs]

/-- The other viewers do not see what a holder does. -/
theorem turns?_filter (hj : j ≠ i) (ops : List (Op α)) :
    turns? j (ops.filter fun op => !op.isOf i) = turns? j ops := by
  have hsubscribe : ∀ op : Op α, op.isSubscribe = true → (!op.isOf i) = true := by
    intro op h
    cases op with
    | subscribe => rfl
    | _ => cases h
  have hturn : ∀ op : Op α, (if (!op.isOf i) = true then op.turn? j else none) = op.turn? j := by
    intro op
    cases op with
    | receive k | drop k =>
      by_cases hk : k = i
      · simp [Op.isOf, Op.turn?, hk, hj.symm]
      · simp [Op.isOf, hk]
    | _ => rfl
  rw [turns?, stay?_filter hsubscribe, Option.map_map]
  refine congrArg (Option.map · (stay? j ops)) (funext fun stay => ?_)
  show (stay.filter _).filterMap _ = _
  rw [List.filterMap_filter]
  simp only [hturn]

theorem turns?_congr {ops ops' : List (Op α)} (hj : j ≠ i)
    (h : (ops.filter fun op => !op.isOf i) = ops'.filter fun op => !op.isOf i) :
    turns? j ops = turns? j ops' := by
  rw [← turns?_filter hj ops, h, turns?_filter hj]

/-- What a holder does changes nothing for those who join later. -/
theorem countP_isSubscribe_congr {ops ops' : List (Op α)}
    (h : (ops.filter fun op => !op.isOf i) = ops'.filter fun op => !op.isOf i) :
    ops.countP Op.isSubscribe = ops'.countP Op.isSubscribe := by
  have hfilter : ∀ ops : List (Op α),
      (ops.filter fun op => !op.isOf i).countP Op.isSubscribe = ops.countP Op.isSubscribe := by
    intro ops
    rw [List.countP_filter]
    exact List.countP_congr fun op _ => by cases op <;> simp [Op.isSubscribe, Op.isOf]
  rw [← hfilter ops, h, hfilter]

/-! ### What happens without the holder -/

theorem heard?_of_others (h : Hub α) {op : Op α} (hop : op.isOf i = false) : h.heard? i op = none := by
  cases op with
  | receive j =>
    have hj : j ≠ i := by simpa [Op.isOf] using hop
    simp [heard?, hj]
  | _ => rfl

variable (buffer : Nat) {ops more : List (Op α)}

/-- Nobody else takes a message out of the viewer's queue. -/
theorem received_append_of_others (h : ∀ op ∈ more, op.isOf i = false) :
    received buffer i (ops ++ more) = received buffer i ops := by
  induction more using List.reverseRecOn with
  | nil => rw [List.append_nil]
  | append_singleton more op ih =>
    rw [List.forall_mem_append] at h
    rw [← List.append_assoc, received, along_snoc, ← received, ih h.1,
      heard?_of_others _ (h.2 op (List.mem_singleton_self op))]
    exact List.append_nil _

variable {buffer} {c : Channel (Telemetry α)}

/-- Nobody else lets the viewer go. -/
theorem exists_append_of_others (hc : (after buffer ops).viewers.get? i = some c)
    (h : ∀ op ∈ more, op.isOf i = false) :
    ∃ c', (after buffer (ops ++ more)).viewers.get? i = some c' := by
  induction more using List.reverseRecOn with
  | nil => exact ⟨c, by rwa [List.append_nil]⟩
  | append_singleton more op ih =>
    rw [List.forall_mem_append] at h
    obtain ⟨c', hc'⟩ := ih h.1
    obtain ⟨turns, hturns, -⟩ := exists_turns hc'
    have hop := h.2 op (List.mem_singleton_self op)
    rw [← List.append_assoc, after_snoc, get?_perform _ _ fun _ => ne_fresh_of_turns? hturns, hc']
    cases op with
    | subscribe => exact ⟨c', rfl⟩
    | publish m => exact ⟨(deliver m c').2, rfl⟩
    | receive j | drop j =>
      have hj : j ≠ i := by simpa [Op.isOf] using hop
      exact ⟨c', by simp [Op.turn?, hj]⟩
    | unsubscribe j | close j =>
      by_cases hj : j = i <;> simp [Op.turn?, hj, Turn.act]

/-! ### After the viewer has gone -/

theorem joined_append (h : turns? i ops ≠ none) (more : List (Op α)) :
    turns? i (ops ++ more) ≠ none := by
  rw [ne_eq, turns?, Option.map_eq_none_iff, ← ne_eq, ← Option.isSome_iff_ne_none, stay?_isSome_iff] at h ⊢
  rw [List.countP_append]
  exact Nat.lt_add_right _ h

/-- A viewer that has gone does not come back. -/
theorem absent_append (h : turns? i ops ≠ none) (habsent : (after buffer ops).viewers.get? i = none)
    (more : List (Op α)) : (after buffer (ops ++ more)).viewers.get? i = none := by
  induction more using List.reverseRecOn with
  | nil => rwa [List.append_nil]
  | append_singleton more op ih =>
    obtain ⟨turns, hturns⟩ := Option.ne_none_iff_exists'.mp (joined_append h more)
    rw [← List.append_assoc, after_snoc, get?_perform _ _ fun _ => ne_fresh_of_turns? hturns, ih]
    cases op.turn? i <;> rfl

/-- To a viewer that has gone, nothing is added. -/
theorem account_of_absent (h : turns? i ops ≠ none)
    (habsent : (after buffer ops).viewers.get? i = none) (more : List (Op α)) :
    received buffer i (ops ++ more) = received buffer i ops ∧
      accepted buffer i (ops ++ more) = accepted buffer i ops := by
  have hlater := absent_append h habsent
  have hreceived : along (fun past op => (after buffer past).heard? i op) ops more = [] :=
    along_eq_nil fun later op => heard?_of_absent (hlater later) op
  have haccepted : along (accepted? buffer i) ops more = [] :=
    along_eq_nil fun later op => accepted?_of_absent (hlater later) op
  constructor
  · rw [received, along_append, List.nil_append, hreceived]
    exact List.append_nil _
  · rw [accepted, along_append, List.nil_append, haccepted]
    exact List.append_nil _

theorem absent_drop (h : turns? i ops ≠ none) :
    (after buffer (ops ++ [.drop i])).viewers.get? i = none := by
  simpa only [List.append_nil] using @absent_of_dropped _ buffer i ops [] h

theorem accepted_drop (buffer : Nat) (i : ViewerId) (ops : List (Op α)) :
    accepted buffer i (ops ++ [.drop i]) = accepted buffer i ops := by
  rw [accepted, along_snoc, ← accepted]
  exact List.append_nil _

theorem accepted_prefix_append (buffer : Nat) (i : ViewerId) (ops more : List (Op α)) :
    accepted buffer i ops <+: accepted buffer i (ops ++ more) := by
  rw [accepted, accepted, along_append]
  exact List.prefix_append _ _

/-- **What a viewer has received is the beginning of what was accepted for it.**  What was queued when
the viewer went is the rest. -/
theorem received_prefix_accepted (buffer : Nat) (i : ViewerId) (ops : List (Op α)) :
    received buffer i ops <+: accepted buffer i ops := by
  induction ops using List.reverseRecOn with
  | nil => exact List.prefix_rfl
  | append_singleton ops op ih =>
    cases hc' : (after buffer (ops ++ [op])).viewers.get? i with
    | some c' => exact ⟨c'.items, received_append_items hc'⟩
    | none =>
      have hheard : (after buffer ops).heard? i op = none := by
        rw [after_snoc] at hc'
        rw [heard?_eq]
        cases hturns : turns? i ops with
        | none =>
          rw [get?_of_not_joined buffer hturns]
          cases op.turn? i <;> rfl
        | some turns =>
          rw [get?_perform _ _ fun _ => ne_fresh_of_turns? hturns] at hc'
          cases hc : (after buffer ops).viewers.get? i with
          | none => cases op.turn? i <;> rfl
          | some c =>
            -- the viewer goes with this step, and does not look
            rw [hc] at hc'
            cases hop : op.turn? i with
            | none => rfl
            | some turn =>
              rw [hop] at hc'
              cases turn with
              | receive =>
                simp only [Option.bind_some, Turn.act] at hc'
                split at hc' <;> cases hc'
              | _ => rfl
      have hreceived : received buffer i (ops ++ [op]) = received buffer i ops := by
        rw [received, along_snoc, ← received, hheard]
        exact List.append_nil _
      rw [hreceived]
      exact ih.trans (accepted_prefix_append buffer i ops [op])

end Hub
end ScooterFleet
