import ScooterFleet.Proofs.Fleet.Chronicle
import ScooterFleet.Proofs.Gateway.Conduct

/-!
# Moves, as rentals see them

For rentals, a move is a step of one of them, or one of them is given up, or something else happens: then
others call the registry, the store is only read, and rentals join.

* `Move.Calls` — what everybody else does to the registry;
* `System.RentalMoves` / `rentalMoves_of_move?` — **every move is one of these**.
-/

namespace ScooterFleet

variable {α : Type} [Coordinate α]

section Calls

variable {m : Move α} {r r' : Registry α}

omit [Coordinate α]

/-- What anybody but a rental does to the registry: calls, and viewers that come and go.  Trips begin by
calls from outside only. -/
def Move.Calls (m : Move α) (r r' : Registry α) : Prop :=
  ∃ (calls : List (Registry.Call α)) (hub : Hub α), r' = { r.run calls with hub } ∧
    ∀ k trip, .begin k trip ∈ calls → m = .call (.begin k trip)

theorem Move.calls_of_run (calls : List (Registry.Call α)) (h : r' = r.run calls)
    (begins : ∀ k trip, .begin k trip ∈ calls → m = .call (.begin k trip)) : m.Calls r r' :=
  ⟨calls, (r.run calls).hub, h, begins⟩

theorem Move.calls_of_same (h : r' = r) : m.Calls r r' :=
  calls_of_run [] h fun _ _ e => nomatch e

theorem Move.calls_of_aside (h : r' = r ∨ (∃ hub, r' = { r with hub }) ∨ ∃ t, r' = r.abandon t) :
    m.Calls r r' := by
  rcases h with h | ⟨hub, h⟩ | ⟨t, h⟩
  · exact calls_of_same h
  · exact ⟨[], hub, h, fun _ _ e => nomatch e⟩
  · refine calls_of_run [.abandon t] h ?_
    simp

theorem Move.calls_of_free {owned : Registration}
    (h : r' = r.run [.release owned, .dropQueue owned.connection]) : m.Calls r r' :=
  calls_of_run _ h (by simp)

theorem Move.calls_of_conduct {g g' : Gateway α} {calls : List (Registry.Call α)}
    (h : Gateway.Conducts r g g' calls r') : m.Calls r r' := by
  refine calls_of_run calls h.registry ?_
  intro k trip hbegin
  cases h.conduct with
  | outside | idles => cases hbegin
  | claims before grant after =>
    cases List.mem_singleton.mp hbegin
    cases grant
  | serves before after own =>
    cases List.mem_singleton.mp hbegin
    exact own.elim
  | frees => simp at hbegin

end Calls

omit [Coordinate α] in
theorem Rental.contents_of_cancel (k : Kernel α) (r : Rental α) :
    (r.cancel k).store.contents = k.store.contents := by
  unfold cancel
  split <;> rfl

namespace System

/-- One rental makes a step or is given up, or rentals join, and the store is only read. -/
inductive RentalMoves (s : System α) : Move α → List (Note α) → System α → Prop
  | step {id : TaskId} {r r' : Rental α} {k : Kernel α} {c : Rental.Choice}
      (task : s.tasks.get? id = some (.rental r))
      (step : r.step s.moment s.terms s.kernel c = some (r', k)) :
      RentalMoves s (.act id (.rental c)) (r.notes id s.moment s.kernel c)
        ({ s with kernel := k, fresh := s.fresh + 1 }.setTask id (.rental r'))
  | dropped {id : TaskId} {r : Rental α} (task : s.tasks.get? id = some (.rental r)) :
      RentalMoves s (.cancel id) [] { s with tasks := s.tasks.erase id, kernel := r.cancel s.kernel }
  | aside {m : Move α} {es : List (Note α)} {s' : System α} (notes : ∀ e ∈ es, e.chapter? = none)
      (contents : s'.kernel.store.contents = s.kernel.store.contents)
      (registry : m.Calls s.registry s'.registry) (fresh : s.fresh ≤ s'.fresh)
      (rentals : ∀ id r, s'.tasks.get? id = some (.rental r) →
        s.tasks.get? id = some (.rental r) ∨ ∃ q, r = .start q)
      (stay : ∀ id r, id < s.fresh → s.tasks.get? id = some (.rental r) →
        s'.tasks.get? id = some (.rental r)) : RentalMoves s m es s'

section Tasks

variable {s s' : System α} {id : TaskId} {r : Rental α}

omit [Coordinate α]

theorem cancel_of_rental (task : s.tasks.get? id = some (.rental r)) :
    s.cancel id = { s with tasks := s.tasks.erase id, kernel := r.cancel s.kernel } := by
  unfold cancel
  rw [task]

/-- A table of tasks with one more entry, or another one, which is no rental that is under way. -/
theorem rental_of_insert {tasks : Table TaskId (Task α)} {n : TaskId} {task : Task α}
    (hnew : ∀ r, task = .rental r → ∃ q, r = .start q)
    (h : (tasks.insert n task).get? id = some (.rental r)) :
    tasks.get? id = some (.rental r) ∨ ∃ q, r = .start q := by
  rw [Table.get?_insert] at h
  split at h
  · exact .inr (hnew r (Option.some.inj h))
  · exact .inl h

/-- An entry at a number that was not given out yet leaves the others. -/
theorem get?_insert_of_lt {tasks : Table TaskId (Task α)} {n : TaskId} {task : Task α}
    (hid : id < n) : (tasks.insert n task).get? id = tasks.get? id :=
  Table.get?_insert_of_ne _ _ (Nat.ne_of_gt hid)

/-- An entry where another task than a rental was leaves the rentals. -/
theorem get?_insert_of_rental {tasks : Table TaskId (Task α)} {n : TaskId} {task task' : Task α}
    (hn : tasks.get? n = some task) (hother : ∀ r, task ≠ .rental r)
    (h : tasks.get? id = some (.rental r)) : (tasks.insert n task').get? id = some (.rental r) := by
  rw [Table.get?_insert_of_ne _ _ fun hid => ?_]
  · exact h
  · subst hid
    rw [hn] at h
    exact hother r (Option.some.inj h)

end Tasks

/-- A task that is no rental, before and behind one of its steps. -/
theorem rentalMoves_of_other {s s' : System α} {id : TaskId} {c : Choice} {es : List (Note α)}
    {task task' : Task α} (htask : s.tasks.get? id = some task) (before : ∀ r, task ≠ .rental r)
    (after : ∀ r, task' ≠ .rental r) (notes : ∀ e ∈ es, e.chapter? = none)
    (contents : s'.kernel.store.contents = s.kernel.store.contents)
    (registry : (Move.act id c).Calls s.registry s'.registry) (fresh : s'.fresh = s.fresh)
    (tasks : s'.tasks = s.tasks.insert id task') : s.RentalMoves (.act id c) es s' := by
  refine .aside notes contents registry (Nat.le_of_eq fresh.symm) ?_ ?_
  · intro id' r h
    rw [tasks] at h
    exact rental_of_insert (fun r hr => absurd hr (after r)) h
  · intro id' r _ h
    rw [tasks]
    exact get?_insert_of_rental htask before h

/-- A task that joins. -/
theorem rentalMoves_of_spawn {s : System α} {m : Move α} {task : Task α}
    (hnew : ∀ r, task = .rental r → ∃ q, r = .start q) :
    s.RentalMoves m [] (s.spawn task).2 := by
  refine .aside (fun _ he => nomatch he) rfl (Move.calls_of_same rfl) (Nat.le_succ _) ?_ ?_
  · intro id r h
    exact rental_of_insert hnew h
  · intro id r hid h
    exact (get?_insert_of_lt hid).trans h

/-- A move that leaves the tasks. -/
theorem rentalMoves_of_quiet {s s' : System α} {m : Move α}
    (contents : s'.kernel.store.contents = s.kernel.store.contents)
    (registry : m.Calls s.registry s'.registry) (fresh : s'.fresh = s.fresh)
    (tasks : s'.tasks = s.tasks) : s.RentalMoves m [] s' := by
  refine .aside (fun _ he => nomatch he) contents registry (Nat.le_of_eq fresh.symm) ?_ ?_
  · intro id r h
    exact .inl (tasks ▸ h)
  · intro id r _ h
    exact tasks ▸ h

/-- A cancelled task that is no rental. -/
theorem rentalMoves_of_cancels {s s' : System α} {id : TaskId}
    (hother : ∀ r, s.tasks.get? id ≠ some (.rental r)) (h : Cancels s id s') :
    s.RentalMoves (.cancel id) [] s' := by
  have hnone : ∀ e ∈ ([] : List (Note α)), e.chapter? = none := fun _ he => nomatch he
  obtain ⟨htasks, hfresh⟩ := tasks_of_cancels h
  have hcontents : s'.kernel.store.contents = s.kernel.store.contents := by
    cases h with
    | device task => rfl
    | gateway task place => exact Gateway.contents_of_cancel _ _
    | other registry contents links tasks fresh => exact contents
  have hregistry : (Move.cancel id).Calls s.registry s'.registry := by
    cases h with
    | device task => exact Move.calls_of_same rfl
    | @gateway link g l task place =>
      have hcancel := Gateway.registry_cancel g ⟨s.kernel, l⟩
      cases howned : g.owned? with
      | none =>
        rw [howned] at hcancel
        exact Move.calls_of_same hcancel
      | some owned =>
        rw [howned] at hcancel
        exact Move.calls_of_free hcancel
    | other registry contents links tasks fresh => exact Move.calls_of_aside registry
  refine .aside hnone hcontents hregistry (Nat.le_of_eq hfresh.symm) ?_ ?_
  · intro id' r hr
    rw [htasks, Table.get?_erase] at hr
    split at hr
    · cases hr
    · exact .inl hr
  · intro id' r _ hr
    rw [htasks, Table.get?_erase_of_ne]
    · exact hr
    · intro hid
      subst hid
      exact hother r hr

/-- **Every move is one of these.** -/
theorem rentalMoves_of_move? {s s' : System α} {m : Move α} (h : s.move? m = some s') :
    s.RentalMoves m (s.noted m) s' := by
  have hm := moves_of_move? h
  generalize s.noted m = es at hm ⊢
  cases hm with
  | act acts =>
    cases acts with
    | device task place step =>
      exact rentalMoves_of_other task (fun _ e => by cases e) (fun _ e => by cases e)
        (fun e he => (Device.notes_about he).2) rfl (Move.calls_of_same rfl) rfl rfl
    | gateway task place step =>
      obtain ⟨calls, hconduct⟩ := Gateway.conduct_of_step step
      exact rentalMoves_of_other task (fun _ e => by cases e) (fun _ e => by cases e)
        (fun _ he => nomatch he) (Gateway.contents_of_step step) (Move.calls_of_conduct hconduct)
        rfl rfl
    | rental task step => exact .step task step
    | bystander task before after registry contents links tasks fresh =>
      refine rentalMoves_of_other task ?_ ?_ (fun _ he => nomatch he) contents
        (Move.calls_of_aside registry) fresh tasks
      · rintro r rfl
        exact before
      · rintro r rfl
        exact after
  | clock => exact rentalMoves_of_quiet rfl (Move.calls_of_same rfl) rfl rfl
  | @rent request =>
    refine rentalMoves_of_spawn ?_
    intro r hr
    cases hr
    exact ⟨request, rfl⟩
  | @attach requested profile link =>
    have hfresh : s.fresh ≤ s.fresh + 3 := Nat.le_add_right _ 3
    refine .aside (fun _ he => nomatch he) rfl (Move.calls_of_same rfl) hfresh ?_ ?_
    · intro id r hr
      rcases rental_of_insert (fun _ e => by cases e) hr with hr | hr
      · exact rental_of_insert (fun _ e => by cases e) hr
      · exact .inr hr
    · intro id r hid hr
      refine (get?_insert_of_lt ?_).trans ((get?_insert_of_lt ?_).trans hr)
      · show id < s.fresh + 2
        omega
      · show id < s.fresh + 1
        omega
  | join bystander =>
    refine rentalMoves_of_spawn ?_
    rintro r rfl
    exact bystander.elim
  | @call c =>
    refine rentalMoves_of_quiet rfl (Move.calls_of_run [c] rfl ?_) rfl rfl
    intro k trip hbegin
    rw [List.mem_singleton.mp hbegin]
  | @watch hub =>
    exact rentalMoves_of_quiet rfl ⟨[], hub, rfl, fun _ _ e => nomatch e⟩ rfl rfl
  | @cancel id s' cancels =>
    by_cases htask : ∃ r, s.tasks.get? id = some (.rental r)
    · obtain ⟨r, hr⟩ := htask
      cases h
      rw [cancel_of_rental hr]
      exact .dropped hr
    · exact rentalMoves_of_cancels (fun r hr => htask ⟨r, hr⟩) cancels

end System

end ScooterFleet
