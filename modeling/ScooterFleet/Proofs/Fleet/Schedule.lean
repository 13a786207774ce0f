import ScooterFleet.Kernel.Agenda
import ScooterFleet.Proofs.Fleet.Run

/-!
# The schedule of an agenda

An agenda picks one of the schedules that there may be: the steps that it makes are moves of the fleet, and
between them it lets time pass.

* `System.choice_of_next?`, `System.next?_eq_none_iff` — the turn of a task is an enabled step of it, and a
  task has to wait when it has none;
* `Run.trans`, `Run.mono`, `now_of_run` — runs one after the other, and runs without a clock;
* `run_runTask`, `run_drain`, `run_settle` — the steps of an agenda at one time;
* `run_advance` — **time that passes by an agenda is a run of the fleet.**
-/

namespace ScooterFleet

variable {α : Type} [Coordinate α]

/-- The move is a step of a task. -/
def Move.IsStep : Move α → Prop
  | .act _ _ => True
  | _ => False

/-- The move is a step of a task, or time that passes. -/
def Move.IsScheduled : Move α → Prop
  | .act _ _ | .clock _ _ => True
  | _ => False

omit [Coordinate α] in
theorem Move.isScheduled_of_isStep {m : Move α} (h : m.IsStep) : m.IsScheduled := by
  cases m with
  | act => trivial
  | _ => exact h.elim

/-! ### The turn of a task -/

theorem firstM_eq_findSome? {β γ : Type} (f : β → Option γ) (l : List β) :
    l.firstM f = l.findSome? f := by
  induction l with
  | nil => rfl
  | cons x l ih =>
    rw [List.firstM, ih, List.findSome?]
    cases f x <;> rfl

namespace System

variable {s s' : System α} {id : TaskId}

/-- **The step that a task makes when it is its turn is a move of the fleet.** -/
theorem choice_of_next? (h : s.next? id = some s') :
    ∃ c ∈ s.choices id, s.move? (.act id c) = some s' := by
  rw [next?, firstM_eq_findSome?] at h
  exact List.exists_of_findSome?_eq_some h

/-- The choices of a task are all that may be enabled. -/
theorem mem_choices_of_step {c : Choice} (h : s.step id c = some s') : c ∈ s.choices id := by
  cases htask : s.tasks.get? id with
  | none =>
    simp only [step, htask] at h
    cases h
  | some task =>
    rw [choices, htask]
    show c ∈ task.choices
    -- a choice of another kind than the task is not enabled
    cases task <;> cases c <;> simp only [step, htask, reduceCtorEq] at h
    case device.device c => cases c <;> simp [Task.choices]
    case gateway.gateway c => cases c <;> simp [Task.choices]
    case rental.rental c =>
      cases c with
      | proceed => simp [Task.choices]
      | wake c => cases c <;> simp [Task.choices]
    case waiter.waiter c => cases c <;> simp [Task.choices]
    case feed.feed c => cases c <;> simp [Task.choices]
    case bridge.bridge | reporter.reporter => exact List.mem_singleton.mpr rfl

/-- **A task has to wait when no step of it is enabled.** -/
theorem next?_eq_none_iff : s.next? id = none ↔ ∀ c, s.step id c = none := by
  rw [next?, firstM_eq_findSome?, List.findSome?_eq_none_iff]
  constructor
  · intro h c
    cases hstep : s.step id c with
    | none => rfl
    | some s' => rw [← hstep, h c (mem_choices_of_step hstep)]
  · exact fun h c _ => h c

/-- A step of a task takes no time. -/
theorem now_of_step {c : Choice} (h : s.step id c = some s') : s'.now = s.now := by
  unfold step at h
  split at h
  case h_1 | h_2 =>
    -- devices and gateways step on their links
    simp only [stepDevice, stepGateway, Option.bind_eq_bind, Option.bind_eq_some_iff,
      Option.pure_def] at h
    obtain ⟨l, -, x, -, hs⟩ := h
    cases hs
    rfl
  case h_3 | h_4 | h_5 | h_6 | h_7 =>
    simp only [stepRental, stepWaiter, stepBridge, stepReporter, stepFeed, Option.bind_eq_bind,
      Option.bind_eq_some_iff, Option.pure_def] at h
    obtain ⟨x, -, hs⟩ := h
    cases hs
    rfl
  case h_8 => cases h

end System

/-! ### Runs one after the other -/

section Runs

variable {allowed allowed' : Move α → Prop} {s₀ s s' : System α} {early late : List (Note α)}

theorem Run.trans (before : Run allowed s₀ early s) (behind : Run allowed s late s') :
    Run allowed s₀ (early ++ late) s' := by
  induction behind with
  | start =>
    rw [List.append_nil]
    exact before
  | move m _ permitted step ih =>
    rw [← List.append_assoc]
    exact .move m ih permitted step

theorem Run.mono (h : Run allowed s early s') (wider : ∀ m, allowed m → allowed' m) :
    Run allowed' s early s' := by
  induction h with
  | start => exact .start
  | move m _ permitted step ih => exact .move m ih (wider m permitted) step

/-- Without a clock no time passes. -/
theorem now_of_run (h : Run Move.IsStep s early s') : s'.now = s.now := by
  induction h with
  | start => rfl
  | move m _ permitted step ih =>
    cases m with
    | act id c => exact (System.now_of_step step).trans ih
    | _ => exact permitted.elim

end Runs

/-! ### The steps of an agenda -/

namespace Agenda

/-- One turn of a task: as many steps as it has, or as there is fuel for. -/
theorem run_runTask (id : TaskId) (fuel : Nat) (a : Agenda α) :
    ∃ journal, Run Move.IsStep a.system journal (runTask id fuel a).2.system := by
  induction fuel generalizing a with
  | zero => exact ⟨[], .start⟩
  | succ fuel ih =>
    rw [runTask]
    split
    · exact ⟨[], .start⟩
    · next system hnext =>
      obtain ⟨c, -, hmove⟩ := System.choice_of_next? hnext
      obtain ⟨late, hrun⟩ := ih ({ a with system }.enlist (some id))
      exact ⟨_, (Run.move (.act id c) .start trivial hmove).trans hrun⟩

theorem run_drain (fuel : Nat) (a : Agenda α) :
    ∃ journal, Run Move.IsStep a.system journal (a.drain fuel).system := by
  induction fuel generalizing a with
  | zero => exact ⟨[], .start⟩
  | succ fuel ih =>
    rw [drain]
    split
    · exact ⟨[], .start⟩
    · next id queue _ =>
      obtain ⟨early, turn⟩ := run_runTask id (fuel + 1) { a with queue }
      obtain ⟨late, rest⟩ := ih (runTask id (fuel + 1) { a with queue }).2
      exact ⟨_, turn.trans rest⟩

/-- **What an agenda does at one time is a run of the fleet.** -/
theorem run_settle (a : Agenda α) : ∃ journal, Run Move.IsStep a.system journal a.settle.system :=
  run_drain plenty (a.enlist none)

omit [Coordinate α] in
/-- An alarm is set for later. -/
theorem now_lt_alarm {s : System α} {t : Millis} (h : s.alarm? = some t) : s.now < t := by
  have hmem := List.min?_mem h
  exact of_decide_eq_true (List.mem_filter.mp hmem).2

/-- Time that passes, up to no less than now. -/
theorem run_clock {s : System α} {now : Millis} (h : s.now ≤ now) :
    ∃ journal, Run Move.IsScheduled s journal { s with now } :=
  ⟨_, Run.move (.clock now s.wall) .start trivial (if_pos h)⟩

/-- Time passes up to the next alarm, and all goes on that can. -/
theorem run_pass {target : Millis} {a a' : Agenda α} (h : a.pass? target = some a') :
    (∃ journal, Run Move.IsScheduled a.system journal a'.system) ∧ a'.system.now ≤ target := by
  unfold pass? at h
  split at h
  · next t halarm =>
    split at h
    · next hle =>
      cases h
      obtain ⟨early, passes⟩ := run_clock (Nat.le_of_lt (now_lt_alarm halarm))
      obtain ⟨late, goes⟩ := run_drain plenty { a with system.now := t }.wake
      refine ⟨⟨_, passes.trans (goes.mono fun _ => Move.isScheduled_of_isStep)⟩, ?_⟩
      exact Nat.le_trans (Nat.le_of_eq (now_of_run goes)) hle
    · cases h
  · cases h

theorem run_advanceTo {target : Millis} (fuel : Nat) {a : Agenda α} (h : a.system.now ≤ target) :
    ∃ journal, Run Move.IsScheduled a.system journal (a.advanceTo target fuel).system := by
  induction fuel generalizing a with
  | zero => exact ⟨[], .start⟩
  | succ fuel ih =>
    rw [advanceTo]
    split
    · next a' hpass =>
      obtain ⟨⟨early, passes⟩, hle⟩ := run_pass hpass
      obtain ⟨late, rest⟩ := ih hle
      exact ⟨_, passes.trans rest⟩
    · exact run_clock h

/-- **What an agenda does while time passes is a run of the fleet**, whose moves are steps of tasks and
time that passes; what holds of all these runs holds of it. -/
theorem run_advance (a : Agenda α) (span : Millis) :
    ∃ journal, Run Move.IsScheduled a.system journal (a.advance span).system :=
  run_advanceTo plenty (Nat.le_add_right a.system.now span)

end Agenda
end ScooterFleet
