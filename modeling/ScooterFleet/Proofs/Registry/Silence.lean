import Mathlib.Data.List.Chain
import Mathlib.Order.Bounds.Basic
import ScooterFleet.Proofs.Registry.Signal

/-!
# How long a waiter bears with silence

A waiter takes the signal that the registry sends, or gives the trip up after a silence as long as its
idle limit.  Each position of its own scooter starts the silence anew, those of others do not.

* `Attends` — **all runs** of a waiter in which the clock moves when the waiter has nothing to do, and not
  past its alarm;
* `InTime` — a signal is sent before any silence was too long;
* `Expires` — the instants an idle limit behind the start or a position, with no position in between;
* `Steady` — no silence has been too long so far;
* `Stands` — how a wait stands; `Stands.call`, `Stands.clock` and `Stands.wake` keep it;
* `wait_ends` — **the wait ends with the signal at the moment it is sent, or else at the first instant that
  expires**, and the clock is never kept from getting there.

Nothing may be called at an instant that expires: then the wake-ups of one moment compete.
-/

namespace ScooterFleet
namespace Waiter

open Registry

variable {α : Type}

/-! ### Runs -/

/-- A call of somebody else, and what it found. -/
structure Entry (α : Type) where
  instant : Millis
  registry : Registry α
  call : Call α

/-- The end of a wait, and what it left. -/
structure Return (α : Type) where
  instant : Millis
  signal : TripSignal α
  registry : Registry α

namespace Scene

/-- The end of the wait, just after it. -/
def return? (s : Scene α) : Option (Return α) :=
  match s.waiter with
  | some (.finished signal) => some ⟨s.now, signal, s.registry⟩
  | _ => none

/-- The waiter has nothing to do at this moment. -/
def Rests (idle : Millis) (t : Ticket) (s : Scene α) : Prop :=
  ∀ choice, s.step idle t (.wake choice) = none

end Scene

/-- The runs in which the clock only moves while the waiter rests, and not past its alarm, with the calls
of others and the end of the wait. -/
inductive Attends (idle : Millis) (t : Ticket) (s₀ : Scene α) :
    List (Entry α) → Option (Return α) → Scene α → Prop where
  | start : Attends idle t s₀ [] none s₀
  | call {h : List (Entry α)} {ret : Option (Return α)} {s : Scene α} (run : Attends idle t s₀ h ret s)
      (c : Call α) (foreign : (Event.call c).Foreign t) :
      Attends idle t s₀ (h ++ [⟨s.now, s.registry, c⟩]) ret { s with registry := s.registry.perform c }
  | clock {h : List (Entry α)} {ret : Option (Return α)} {s : Scene α} (run : Attends idle t s₀ h ret s)
      {now : Millis} (forward : s.now ≤ now) (rests : s.Rests idle t)
      (alarm : ∀ w due, s.waiter = some w → w.alarm? = some due → now ≤ due) :
      Attends idle t s₀ h ret { s with now }
  | wake {h : List (Entry α)} {ret : Option (Return α)} {s s' : Scene α}
      (run : Attends idle t s₀ h ret s) (choice : Wait.Choice)
      (next : s.step idle t (.wake choice) = some s') : Attends idle t s₀ h s'.return? s'

def calls (h : List (Entry α)) : List (Call α) := h.map Entry.call

/-- The instants of a scooter's positions. -/
def pulses (id : ScooterId) (h : List (Entry α)) : List Millis :=
  (h.filter fun x => x.call.counts id).map Entry.instant

/-- The calls before an instant. -/
def callsBefore (e : Millis) (h : List (Entry α)) : List (Call α) :=
  calls (h.filter fun x => x.instant < e)

/-- Nobody waits longer than the idle limit between two instants that follow each other. -/
def Unbroken (idle : Millis) (instants : List Millis) : Prop :=
  instants.IsChain fun a b => b ≤ a + idle

/-- A signal is sent at this instant: before the wait starts, or while no silence has been too long. -/
inductive InTime (idle : Millis) (t : Ticket) (t₀ : Millis) (early late : List (Entry α)) :
    Millis → TripSignal α → Prop where
  | before {x : Entry α} {signal : TripSignal α} (mem : x ∈ early)
      (sends : Sends x.registry t x.call signal) : InTime idle t t₀ early late x.instant signal
  | during {front rest : List (Entry α)} {x : Entry α} {signal : TripSignal α}
      (split : late = front ++ x :: rest) (sends : Sends x.registry t x.call signal)
      (unbroken : Unbroken idle (t₀ :: pulses t.scooter front ++ [x.instant])) :
      InTime idle t t₀ early late x.instant signal

/-- An instant that lies an idle limit behind the start or a position, with no position in between. -/
def Expires (idle t₀ : Millis) (positions : List Millis) (e : Millis) : Prop :=
  ∃ x ∈ t₀ :: positions, e = x + idle ∧ ∀ y ∈ positions, ¬(x < y ∧ y < e)

/-! ### Positions that come in time -/

/-- No silence up to the last position was too long. -/
structure Steady (idle t₀ : Millis) (positions : List Millis) (last : Millis) : Prop where
  unbroken : Unbroken idle (t₀ :: positions)
  isLast : (t₀ :: positions).getLast? = some last
  upTo : ∀ x ∈ t₀ :: positions, x ≤ last
  next : ∀ x ∈ t₀ :: positions, x < last → ∃ y ∈ positions, x < y ∧ y ≤ x + idle

variable {idle t₀ last : Millis} {positions : List Millis}

theorem steady_start (idle t₀ : Millis) : Steady idle t₀ [] t₀ where
  unbroken := List.isChain_singleton t₀
  isLast := rfl
  upTo _ hx := (List.mem_singleton.mp hx).le
  next _ hx h := absurd (List.mem_singleton.mp hx) h.ne

theorem Steady.unbroken_snoc (h : Steady idle t₀ positions last) {now : Millis}
    (inTime : now ≤ last + idle) : Unbroken idle (t₀ :: positions ++ [now]) := by
  refine List.isChain_append.mpr ⟨h.unbroken, List.isChain_singleton now, ?_⟩
  intro x hx y hy
  rw [h.isLast] at hx
  cases hx
  cases hy
  exact inTime

/-- One position more, in time. -/
theorem Steady.snoc (h : Steady idle t₀ positions last) {now : Millis} (since : last ≤ now)
    (inTime : now ≤ last + idle) : Steady idle t₀ (positions ++ [now]) now where
  unbroken := h.unbroken_snoc inTime
  isLast := by
    rw [← List.cons_append]
    exact List.getLast?_concat
  upTo := by
    intro x hx
    rcases List.mem_append.mp (show x ∈ (t₀ :: positions) ++ [now] from hx) with hx | hx
    · exact (h.upTo x hx).trans since
    · exact (List.mem_singleton.mp hx).le
  next := by
    intro x hx hlt
    have hnow : now ∈ positions ++ [now] := List.mem_append_right _ (List.mem_singleton.mpr rfl)
    rcases List.mem_append.mp (show x ∈ (t₀ :: positions) ++ [now] from hx) with hx | hx
    · rcases Nat.lt_or_ge x last with hbefore | hlast
      · obtain ⟨y, hy, hnext⟩ := h.next x hx hbefore
        exact ⟨y, List.mem_append_left _ hy, hnext⟩
      · have : x = last := Nat.le_antisymm (h.upTo x hx) hlast
        subst this
        exact ⟨now, hnow, hlt, inTime⟩
    · exact absurd (List.mem_singleton.mp hx) hlt.ne

/-- The silence behind the last position ends at the last instant that expires. -/
theorem Steady.expires (h : Steady idle t₀ positions last) :
    Expires idle t₀ positions (last + idle) := by
  refine ⟨last, List.mem_of_getLast? h.isLast, rfl, fun y hy hbetween => ?_⟩
  exact absurd hbetween.1 (Nat.not_lt.mpr (h.upTo y (List.mem_cons_of_mem _ hy)))

/-- **No instant before it expires.** -/
theorem Steady.isLeast (h : Steady idle t₀ positions last)
    (quiet : ∀ y ∈ positions, ¬Expires idle t₀ positions y) :
    IsLeast {e | Expires idle t₀ positions e} (last + idle) := by
  refine ⟨h.expires, ?_⟩
  rintro e ⟨x, hx, rfl, hnone⟩
  by_contra hlt
  have hbefore : x < last := Nat.lt_of_add_lt_add_right (Nat.not_le.mp hlt)
  obtain ⟨y, hy, hlater, hsoon⟩ := h.next x hx hbefore
  rcases Nat.lt_or_ge y (x + idle) with hbetween | hexactly
  · exact hnone y hy ⟨hlater, hbetween⟩
  · have : y = x + idle := Nat.le_antisymm hsoon hexactly
    exact quiet y hy (this ▸ ⟨x, hx, rfl, hnone⟩)

/-- Positions that come later make no difference to an instant that expires. -/
theorem Expires.append {e : Millis} {more : List Millis} (h : Expires idle t₀ positions e)
    (later : ∀ y ∈ more, e ≤ y) : Expires idle t₀ (positions ++ more) e := by
  obtain ⟨x, hx, he, hnone⟩ := h
  refine ⟨x, List.mem_append_left more hx, he, fun y hy => ?_⟩
  rcases List.mem_append.mp hy with hy | hy
  · exact hnone y hy
  · exact fun hbetween => absurd hbetween.2 (Nat.not_lt.mpr (later y hy))

theorem isLeast_append {e : Millis} {more : List Millis}
    (h : IsLeast {e | Expires idle t₀ positions e} e) (later : ∀ y ∈ more, e ≤ y) :
    IsLeast {e | Expires idle t₀ (positions ++ more) e} e := by
  refine ⟨Expires.append h.1 later, ?_⟩
  rintro e' ⟨x, hx, rfl, hnone⟩
  rcases List.mem_append.mp (show x ∈ (t₀ :: positions) ++ more from hx) with hx | hx
  · exact h.2 ⟨x, hx, rfl, fun y hy => hnone y (List.mem_append_left more hy)⟩
  · exact (later x hx).trans (Nat.le_add_right x idle)

/-! ### The trip and its calls -/

@[simp] theorem calls_snoc (h : List (Entry α)) (x : Entry α) : calls (h ++ [x]) = calls h ++ [x.call] :=
  List.map_append

theorem pulses_snoc (id : ScooterId) (h : List (Entry α)) (x : Entry α) :
    pulses id (h ++ [x]) = pulses id h ++ if x.call.counts id then [x.instant] else [] := by
  unfold pulses
  rw [List.filter_append, List.map_append, List.filter_singleton]
  cases x.call.counts id <;> rfl

/-- Where no call falls on an instant that expires, no position does. -/
theorem quiet_pulses {id : ScooterId} {h : List (Entry α)}
    (quiet : ∀ x ∈ h, ¬Expires idle t₀ positions x.instant) :
    ∀ y ∈ pulses id h, ¬Expires idle t₀ positions y := by
  intro y hy
  obtain ⟨x, hx, rfl⟩ := List.mem_map.mp hy
  exact quiet x (List.mem_of_mem_filter hx)

/-- What was called before an instant, when all that was called was called before it. -/
theorem callsBefore_eq {e : Millis} {h : List (Entry α)} (past : ∀ x ∈ h, x.instant < e) :
    callsBefore e h = calls h := by
  rw [callsBefore, List.filter_eq_self.mpr fun x hx => decide_eq_true (past x hx)]

theorem callsBefore_snoc {e : Millis} {x : Entry α} (later : e ≤ x.instant) (h : List (Entry α)) :
    callsBefore e (h ++ [x]) = callsBefore e h := by
  have hlater : decide (x.instant < e) = false := decide_eq_false (Nat.not_lt.mpr later)
  rw [callsBefore, List.filter_append, List.filter_singleton, hlater]
  exact congrArg calls (List.append_nil _)

/-- The trip is pending, and no call has sent a signal.  `base` is the history up to its begin. -/
structure Unresolved (base : List (Call α)) (t : Ticket) (h : List (Entry α)) (r : Registry α) :
    Prop where
  waiting : Waiting r t.scooter t.trip (ticksIn t.scooter (calls h))
  connected : r.isConnected t.scooter = true
  unsent : ∀ x ∈ h, ∀ signal, ¬Sends x.registry t x.call signal
  last : r.lastPosition t.scooter = lastSeen t.scooter (base ++ calls h)

/-- One call has sent the signal, at this instant. -/
structure Resolved (t : Ticket) (h : List (Entry α)) (instant : Millis) (signal : TripSignal α)
    (r : Registry α) : Prop where
  only : ∀ x ∈ h, ∀ signal', Sends x.registry t x.call signal' → x.instant = instant ∧ signal' = signal
  gone : Gone r t.trip (some signal)

variable {base : List (Call α)} {t : Ticket} {h : List (Entry α)} {r : Registry α} {c : Call α}

/-- A trip that has left is not sent anything. -/
theorem not_sends_of_gone {sent : Option (TripSignal α)} (gone : Gone r t.trip sent)
    (signal : TripSignal α) : ¬Sends r t c signal := by
  intro hsends
  obtain ⟨p, hp, htrip⟩ := hsends.pending
  exact gone.absent t.scooter p hp htrip

/-- **One call leaves the trip unresolved, or resolves it.** -/
theorem Unresolved.call (u : Unresolved base t h r) (foreign : (Event.call c).Foreign t) (now : Millis) :
    Unresolved base t (h ++ [⟨now, r, c⟩]) (r.perform c) ∨
      ∃ signal, Sends r t c signal ∧ Resolved t (h ++ [⟨now, r, c⟩]) now signal (r.perform c) := by
  obtain ⟨hbegun, hgiveUp, habandon⟩ := foreign
  rcases waiting_perform u.waiting hbegun with stays | ⟨signal, departure, gone⟩
  · refine .inl ⟨?_, connected_perform (fun _ _ => u.connected) _ stays.pending, ?_, ?_⟩
    · rw [calls_snoc, ticksIn_snoc]
      exact stays
    · intro x hx signal hsends
      rcases List.mem_append.mp hx with hx | hx
      · exact u.unsent x hx signal hsends
      · cases List.mem_singleton.mp hx
        have hgone := gone_of_sends u.waiting u.connected hsends
        exact hgone.absent _ _ stays.pending rfl
    · rw [calls_snoc, ← List.append_assoc, lastSeen_snoc, lastPosition_perform, u.last]
  · have hsent : ∃ signal', signal = some signal' ∧ Sends r t c signal' := by
      cases departure with
      | reported scooter own taken => exact ⟨_, rfl, .report scooter own taken⟩
      | removed removes => exact ⟨_, rfl, .removal removes u.waiting.pending⟩
      | abandoned own yields =>
        rcases own with rfl | rfl
        · exact absurd rfl hgiveUp
        · exact absurd rfl habandon
    obtain ⟨signal', rfl, hsends⟩ := hsent
    refine .inr ⟨signal', hsends, ?_, gone⟩
    intro x hx signal'' hsends'
    rcases List.mem_append.mp hx with hx | hx
    · exact absurd hsends' (u.unsent x hx signal'')
    · cases List.mem_singleton.mp hx
      have hsent := (gone_of_sends u.waiting u.connected hsends').sent
      rw [gone.sent] at hsent
      exact ⟨rfl, (Option.some.inj hsent).symm⟩

theorem Resolved.call {instant : Millis} {signal : TripSignal α} (s : Resolved t h instant signal r)
    (foreign : (Event.call c).Foreign t) (now : Millis) :
    Resolved t (h ++ [⟨now, r, c⟩]) instant signal (r.perform c) := by
  refine ⟨?_, gone_perform s.gone foreign.1⟩
  intro x hx signal' hsends
  rcases List.mem_append.mp hx with hx | hx
  · exact s.only x hx signal' hsends
  · cases List.mem_singleton.mp hx
    exact absurd hsends (not_sends_of_gone s.gone signal')

/-! ### How a wait stands -/

/-- How a wait stands that started at `t₀`. -/
inductive Stands (idle : Millis) (t : Ticket) (base : List (Call α)) (t₀ : Millis)
    (early late : List (Entry α)) : Option (Return α) → Scene α → Prop where
  /-- It listens, and its deadline is an idle limit behind the last position.  One that it has not
  noticed yet has come at this very moment. -/
  | listens {s : Scene α} {last deadline : Millis} {seen : Nat}
      (unresolved : Unresolved base t (early ++ late) s.registry)
      (waiter : s.waiter = some (.waiting (.listening seen deadline)))
      (steady : Steady idle t₀ (pulses t.scooter late) last)
      (since : last ≤ s.now) (due : s.now ≤ deadline) (limit : deadline ≤ last + idle)
      (below : seen ≤ ticksIn t.scooter (calls (early ++ late)))
      (noticed : seen = ticksIn t.scooter (calls (early ++ late)) → deadline = last + idle)
      (unnoticed : seen ≠ ticksIn t.scooter (calls (early ++ late)) → s.now = last ∧ s.now < deadline) :
      Stands idle t base t₀ early late none s
  /-- The signal has been sent, at this very moment or before the start. -/
  | sent {s : Scene α} {instant : Millis} {signal : TripSignal α} {w : Wait}
      (resolved : Resolved t (early ++ late) instant signal s.registry)
      (inTime : InTime idle t t₀ early late instant signal)
      (waiter : s.waiter = some (.waiting w)) (due : s.now < w.deadline)
      (now : s.now = max instant t₀) : Stands idle t base t₀ early late none s
  | returned {s : Scene α} {instant : Millis} {signal : TripSignal α} {left : Registry α}
      (resolved : Resolved t (early ++ late) instant signal s.registry)
      (inTime : InTime idle t t₀ early late instant signal)
      (finished : s.waiter = some (.finished signal)) (past : max instant t₀ ≤ s.now) :
      Stands idle t base t₀ early late (some ⟨max instant t₀, signal, left⟩) s
  | gaveUp {s : Scene α} {e : Millis} {signal : TripSignal α} {left : Registry α}
      (unsent : ∀ x ∈ early ++ late, ∀ signal, ¬Sends x.registry t x.call signal)
      (gone : Gone s.registry t.trip none)
      (finished : s.waiter = some (.finished signal))
      (first : IsLeast {e | Expires idle t₀ (pulses t.scooter late) e} e)
      (told : signal = .interrupted (ticksIn t.scooter (callsBefore e (early ++ late)))
        (lastSeen t.scooter (base ++ callsBefore e (early ++ late))))
      (free : left.hasTrip t.scooter = false) (past : e ≤ s.now) :
      Stands idle t base t₀ early late (some ⟨e, signal, left⟩) s

variable {early late : List (Entry α)} {ret : Option (Return α)} {s s' : Scene α}

theorem InTime.snoc {instant : Millis} {signal : TripSignal α}
    (h : InTime idle t t₀ early late instant signal) (x : Entry α) :
    InTime idle t t₀ early (late ++ [x]) instant signal := by
  cases h with
  | before mem sends => exact .before mem sends
  | @during front rest y _ split sends unbroken =>
    have hsplit : late ++ [x] = front ++ y :: (rest ++ [x]) := by
      rw [split, List.append_assoc]
      rfl
    exact .during hsplit sends unbroken

/-- A position of this moment is not before it. -/
theorem later_of_pulse {id : ScooterId} {x : Entry α} {e : Millis} (later : e ≤ x.instant) :
    ∀ y ∈ (if x.call.counts id then [x.instant] else [] : List Millis), e ≤ y := by
  intro y hy
  split at hy
  · exact List.mem_singleton.mp hy ▸ later
  · cases hy

theorem ticksIn_snoc_late (id : ScooterId) (early late : List (Entry α)) (x : Entry α) :
    ticksIn id (calls (early ++ (late ++ [x]))) =
      ticksIn id (calls (early ++ late)) + if x.call.counts id then 1 else 0 := by
  rw [← List.append_assoc, calls_snoc, ticksIn_snoc]

/-- A deadline is still to come at an instant that does not expire: it is one once all positions are
noticed. -/
theorem lt_of_not_expires {now deadline : Millis} {seen ticks : Nat}
    (steady : Steady idle t₀ positions last) (due : now ≤ deadline)
    (noticed : seen = ticks → deadline = last + idle) (unnoticed : seen ≠ ticks → now < deadline)
    (quiet : ¬Expires idle t₀ positions now) : now < deadline := by
  by_cases hseen : seen = ticks
  · refine due.lt_of_ne fun hnow => quiet ?_
    rw [hnow, noticed hseen]
    exact steady.expires
  · exact unnoticed hseen

/-- **A call of somebody else**, at an instant that does not expire. -/
theorem Stands.call (h : Stands idle t base t₀ early late ret s) (foreign : (Event.call c).Foreign t)
    (quiet : ¬Expires idle t₀ (pulses t.scooter (late ++ [⟨s.now, s.registry, c⟩])) s.now) :
    Stands idle t base t₀ early (late ++ [⟨s.now, s.registry, c⟩]) ret
      { s with registry := s.registry.perform c } := by
  rw [pulses_snoc] at quiet
  cases h with
  | @listens _ last deadline seen unresolved waiter steady since due limit below noticed unnoticed =>
    have hinTime : s.now ≤ last + idle := due.trans limit
    have hbefore : s.now < deadline :=
      lt_of_not_expires steady due noticed (fun hne => (unnoticed hne).2) fun hexpires =>
        quiet (hexpires.append (later_of_pulse le_rfl))
    rcases unresolved.call foreign s.now with hstays | ⟨signal, hsends, hresolved⟩
    · rw [List.append_assoc] at hstays
      have hticks := ticksIn_snoc_late t.scooter early late ⟨s.now, s.registry, c⟩
      cases hcounts : c.counts t.scooter with
      | true =>
        rw [hcounts, if_pos rfl] at hticks
        have hpulses : pulses t.scooter (late ++ [⟨s.now, s.registry, c⟩]) =
            pulses t.scooter late ++ [s.now] := by
          rw [pulses_snoc, hcounts, if_pos rfl]
        refine .listens hstays waiter (hpulses ▸ steady.snoc since hinTime) le_rfl due
          (limit.trans (Nat.add_le_add_right since idle)) (hticks ▸ below.trans (Nat.le_succ _))
          (fun hseen => ?_) (fun _ => ⟨rfl, hbefore⟩)
        rw [hseen, hticks] at below
        exact absurd below (Nat.not_succ_le_self _)
      | false =>
        rw [hcounts, if_neg Bool.false_ne_true, Nat.add_zero] at hticks
        have hpulses : pulses t.scooter (late ++ [⟨s.now, s.registry, c⟩]) = pulses t.scooter late := by
          rw [pulses_snoc, hcounts, if_neg Bool.false_ne_true, List.append_nil]
        exact .listens hstays waiter (hpulses ▸ steady) since due limit (hticks ▸ below)
          (hticks ▸ noticed) (hticks ▸ unnoticed)
    · rw [List.append_assoc] at hresolved
      have hstart : t₀ ≤ s.now := (steady.upTo t₀ (List.mem_cons_self ..)).trans since
      exact .sent hresolved (.during rfl hsends (steady.unbroken_snoc hinTime)) waiter hbefore
        (max_eq_left hstart).symm
  | sent resolved inTime waiter due now =>
    have hresolved := resolved.call foreign s.now
    rw [List.append_assoc] at hresolved
    exact .sent hresolved (inTime.snoc _) waiter due now
  | returned resolved inTime finished past =>
    have hresolved := resolved.call foreign s.now
    rw [List.append_assoc] at hresolved
    exact .returned hresolved (inTime.snoc _) finished past
  | gaveUp unsent gone finished first told free past =>
    refine .gaveUp ?_ (gone_perform gone foreign.1) finished ?_ ?_ free past
    · intro x hx signal hsends
      rw [← List.append_assoc] at hx
      rcases List.mem_append.mp hx with hx | hx
      · exact unsent x hx signal hsends
      · cases List.mem_singleton.mp hx
        exact not_sends_of_gone gone signal hsends
    · rw [pulses_snoc]
      exact isLeast_append first (later_of_pulse past)
    · rw [← List.append_assoc, callsBefore_snoc past]
      exact told

theorem Scene.Rests.step_eq_none (rests : s.Rests idle t) {w : Wait}
    (waiter : s.waiter = some (.waiting w)) (choice : Wait.Choice) :
    w.step s.now idle s.registry t choice = none := by
  have hstep := rests choice
  simp only [Scene.step, waiter, Waiter.step, Option.map_eq_none_iff] at hstep
  exact hstep

/-- **The clock moves on**, while the waiter rests and not past its alarm. -/
theorem Stands.clock (h : Stands idle t base t₀ early late ret s) {now : Millis} (forward : s.now ≤ now)
    (rests : s.Rests idle t) (alarm : ∀ w due, s.waiter = some w → w.alarm? = some due → now ≤ due) :
    Stands idle t base t₀ early late ret { s with now } := by
  cases h with
  | @listens _ last deadline seen unresolved waiter steady since due limit below noticed unnoticed =>
    by_cases hseen : seen = ticksIn t.scooter (calls (early ++ late))
    · exact .listens unresolved waiter steady (since.trans forward) (alarm _ _ waiter rfl) limit below
        noticed fun hne => absurd hseen hne
    · have hwakes : ∃ x, (Wait.listening seen deadline).step s.now idle s.registry t .activity =
          some x := Wait.activity_of_waiting unresolved.waiting (Ne.symm hseen)
      obtain ⟨x, hx⟩ := hwakes
      rw [rests.step_eq_none waiter] at hx
      cases hx
  | sent resolved inTime waiter due _ =>
    have hnone := rests.step_eq_none waiter .signal
    rw [Wait.signal_step_of_gone resolved.gone] at hnone
    cases hnone
  | returned resolved inTime finished past =>
    exact .returned resolved inTime finished (past.trans forward)
  | gaveUp unsent gone finished first told free past =>
    exact .gaveUp unsent gone finished first told free (past.trans forward)

theorem hasTrip_abandon (waiting : ∃ n, Waiting r t.scooter t.trip n) :
    (r.abandon t).hasTrip t.scooter = false := by
  obtain ⟨n, hwaiting⟩ := waiting
  have hpending : r.isPending t = true := isPending_of_get? hwaiting.pending
  rw [abandon, if_pos hpending, hasTrip_eq_false_iff]
  exact Table.get?_erase_self _ _

theorem Scene.wake_eq {w : Wait} {choice : Wait.Choice} (waiter : s.waiter = some (.waiting w))
    (next : s.step idle t (.wake choice) = some s') :
    ∃ progress r', w.step s.now idle s.registry t choice = some (progress, r') ∧
      s' = { s with registry := r', waiter := some (match progress with
        | .waiting w => .waiting w
        | .done signal => .finished signal) } := by
  simp only [Scene.step, waiter, Waiter.step, Option.map_map, Option.map_eq_some_iff, Prod.exists] at next
  obtain ⟨progress, r', hstep, rfl⟩ := next
  refine ⟨progress, r', hstep, ?_⟩
  cases progress <;> rfl

/-- At its deadline a waiter that has noticed all positions gives the trip up. -/
theorem giveUp_of_noticed {ticks : Nat} {deadline : Millis} {choice : Wait.Choice}
    {progress : Wait.Progress α} {now : Millis} {r' : Registry α}
    (waiting : Waiting r t.scooter t.trip ticks)
    (h : (Wait.listening ticks deadline).step now idle r t choice = some (progress, r')) :
    deadline ≤ now ∧ r' = r.abandon t ∧
      progress = .done (.interrupted ticks (r.lastPosition t.scooter)) := by
  rcases Wait.step_cases h with ⟨resolution, -, hr, -, -⟩ | ⟨v, rfl, -, -⟩ | ⟨-, hexpire, rfl, rfl⟩
  · rw [waiting.silent] at hr
    cases hr
  · rw [Wait.activity_of_noticed waiting] at h
    cases h
  · exact ⟨of_decide_eq_true hexpire, rfl, congrArg _ (lostSignal_of_pending waiting.pending)⟩

/-- **The waiter wakes up.** -/
theorem Stands.wake (h : Stands idle t base t₀ early late ret s) {choice : Wait.Choice}
    (next : s.step idle t (.wake choice) = some s') (limited : 0 < idle)
    (before : ∀ x ∈ early, x.instant ≤ t₀) (past : ∀ x ∈ late, x.instant ≤ s.now)
    (quiet : ∀ x ∈ late, ¬Expires idle t₀ (pulses t.scooter late) x.instant) :
    Stands idle t base t₀ early late s'.return? s' := by
  have hlimit : ∀ now, now < now + idle := fun now => Nat.lt_add_of_pos_right limited
  cases h with
  | @listens _ last deadline seen unresolved waiter steady since due limit below noticed unnoticed =>
    obtain ⟨progress, r', hstep, rfl⟩ := Scene.wake_eq waiter next
    by_cases hseen : seen = ticksIn t.scooter (calls (early ++ late))
    · rw [hseen] at hstep
      obtain ⟨hover, rfl, rfl⟩ := giveUp_of_noticed unresolved.waiting hstep
      have hnow : s.now = last + idle := (Nat.le_antisymm due hover).trans (noticed hseen)
      have hfirst : IsLeast {e | Expires idle t₀ (pulses t.scooter late) e} s.now := by
        rw [hnow]
        exact steady.isLeast (quiet_pulses quiet)
      have hstart : t₀ ≤ last := steady.upTo t₀ (List.mem_cons_self ..)
      have hall : ∀ x ∈ early ++ late, x.instant < s.now := by
        intro x hx
        rcases List.mem_append.mp hx with hx | hx
        · rw [hnow]
          exact ((before x hx).trans hstart).trans_lt (hlimit last)
        · exact (past x hx).lt_of_ne fun heq => quiet x hx (heq ▸ hfirst.1)
      refine .gaveUp unresolved.unsent (unresolved.waiting.gone_of_abandon) rfl hfirst ?_
        (hasTrip_abandon ⟨_, unresolved.waiting⟩) le_rfl
      rw [callsBefore_eq hall, unresolved.last]
    · obtain ⟨hlast, hbefore⟩ := unnoticed hseen
      obtain ⟨rfl, rfl⟩ := Wait.step_of_waiting unresolved.waiting hbefore hstep
      exact .listens unresolved rfl steady since (hlimit _).le (Nat.add_le_add_right hlast.le idle)
        le_rfl (fun _ => by rw [hlast]) (fun hne => absurd rfl hne)
  | sent resolved inTime waiter due now =>
    obtain ⟨progress, r', hstep, rfl⟩ := Scene.wake_eq waiter next
    obtain ⟨rfl, rfl | ⟨w', rfl, hdeadline⟩⟩ := Wait.step_of_gone resolved.gone due hstep
    · have hreturned : Stands idle t base t₀ early late (some ⟨_, _, s.registry⟩)
          { s with waiter := some (.finished _) } := .returned resolved inTime rfl now.ge
      rw [← now] at hreturned
      exact hreturned
    · exact .sent resolved inTime rfl (hdeadline ▸ hlimit s.now) now
  | returned resolved inTime finished past =>
    simp only [Scene.step, finished, Waiter.step, Option.map_none] at next
    cases next
  | gaveUp unsent gone finished first told free past =>
    simp only [Scene.step, finished, Waiter.step, Option.map_none] at next
    cases next

/-! ### Whole waits -/

theorem Attends.upTo {s₀ : Scene α} (run : Attends idle t s₀ h ret s) : ∀ x ∈ h, x.instant ≤ s.now := by
  induction run with
  | start => exact nofun
  | @call h ret s run c foreign ih =>
    intro x hx
    rcases List.mem_append.mp hx with hx | hx
    · exact ih x hx
    · exact (congrArg Entry.instant (List.mem_singleton.mp hx)).le
  | clock run forward rests alarm ih => exact fun x hx => (ih x hx).trans forward
  | @wake h ret s s' run choice next ih =>
    have hnow : s'.now = s.now := by
      simp only [Scene.step] at next
      split at next
      · cases next
      · obtain ⟨x, -, rfl⟩ := Option.map_eq_some_iff.mp next
        rfl
    exact fun x hx => hnow ▸ ih x hx

/-- Before the wait starts the trip is unresolved, or has been resolved by one of the calls. -/
theorem attends_before {now : Millis} (unresolved : Unresolved base t [] r)
    (run : Attends idle t ⟨now, r, none⟩ early ret s) :
    s.waiter = none ∧ (Unresolved base t early s.registry ∨ ∃ x ∈ early, ∃ signal,
      Sends x.registry t x.call signal ∧ Resolved t early x.instant signal s.registry) := by
  induction run with
  | start => exact ⟨rfl, .inl unresolved⟩
  | @call h ret s run c foreign ih =>
    obtain ⟨hwaiter, hopen | ⟨x, hx, signal, hsends, hresolved⟩⟩ := ih
    · rcases hopen.call foreign s.now with hstays | ⟨signal, hsends, hresolved⟩
      · exact ⟨hwaiter, .inl hstays⟩
      · exact ⟨hwaiter, .inr ⟨⟨s.now, s.registry, c⟩, List.mem_append_right _ (List.mem_singleton.mpr rfl),
          signal, hsends, hresolved⟩⟩
    · exact ⟨hwaiter, .inr ⟨x, List.mem_append_left _ hx, signal, hsends, hresolved.call foreign s.now⟩⟩
  | clock run forward rests alarm ih => exact ih
  | wake run choice next ih =>
    rw [Scene.step, ih.1] at next
    cases next

theorem stands_start {s₁ : Scene α} (waiter : s₁.waiter = none) (limited : 0 < idle)
    (upTo : ∀ x ∈ early, x.instant ≤ s₁.now)
    (trip : Unresolved base t early s₁.registry ∨ ∃ x ∈ early, ∃ signal,
      Sends x.registry t x.call signal ∧ Resolved t early x.instant signal s₁.registry)
    (starts : s₁.step idle t .start = some s) :
    Stands idle t base s₁.now early [] none s := by
  have hlimit : s₁.now < s₁.now + idle := Nat.lt_add_of_pos_right limited
  rw [Scene.step, waiter] at starts
  cases starts
  rcases trip with hopen | ⟨x, hx, signal, hsends, hresolved⟩
  · rw [← List.append_nil early] at hopen
    exact .listens hopen rfl (steady_start idle s₁.now) le_rfl hlimit.le le_rfl (Nat.zero_le _)
      (fun _ => rfl) (fun _ => ⟨rfl, hlimit⟩)
  · rw [← List.append_nil early] at hresolved
    exact .sent hresolved (.before hx hsends) rfl hlimit (max_eq_right (upTo x hx)).symm

/-- **Every run keeps the wait as it should stand.** -/
theorem stands_run {s₀ : Scene α} (start : Stands idle t base t₀ early [] none s₀) (limited : 0 < idle)
    (before : ∀ x ∈ early, x.instant ≤ t₀) (run : Attends idle t s₀ late ret s)
    (quiet : ∀ x ∈ late, ¬Expires idle t₀ (pulses t.scooter late) x.instant) :
    Stands idle t base t₀ early late ret s := by
  induction run with
  | start => exact start
  | @call late ret s run c foreign ih =>
    refine (ih fun x hx hexpires => ?_).call foreign ?_
    · refine quiet x (List.mem_append_left _ hx) ?_
      rw [pulses_snoc]
      exact hexpires.append (later_of_pulse (run.upTo x hx))
    · exact quiet ⟨s.now, s.registry, c⟩ (List.mem_append_right _ (List.mem_singleton.mpr rfl))
  | clock run forward rests alarm ih => exact (ih quiet).clock forward rests alarm
  | wake run choice next ih => exact (ih quiet).wake next limited before run.upTo quiet

/-! ### Progress -/

/-- The wake-ups that a wait has left at one moment. -/
def labor (r : Registry α) (t : Ticket) : Waiter α → Nat
  | .waiting (.listening seen _) => if Wait.ticksOf r t = some seen then 2 else 3
  | .waiting (.draining _) => 1
  | .finished _ => 0

theorem labor_le (r : Registry α) (t : Ticket) (w : Waiter α) : w.labor r t ≤ 3 := by
  unfold labor
  split
  · split <;> decide
  · decide
  · decide

theorem labor_pos (r : Registry α) (t : Ticket) (w : Wait) :
    0 < (Waiter.waiting (α := α) w).labor r t := by
  unfold labor
  cases w with
  | listening seen deadline =>
    dsimp only
    split <;> decide
  | draining deadline => exact Nat.one_pos

theorem labor_of_activity {w : Wait} {w' : Waiter α} {now : Millis} {r' : Registry α}
    (h : (Waiter.waiting w).step now idle r t .activity = some (w', r')) :
    w'.labor r t < (Waiter.waiting (α := α) w).labor r t := by
  cases w with
  | draining deadline => cases h
  | listening seen deadline =>
    simp only [Waiter.step, Wait.step, Option.map_eq_some_iff, Prod.exists] at h
    obtain ⟨progress, _, hstep, hw⟩ := h
    cases hticks : Wait.ticksOf r t with
    | none =>
      rw [hticks] at hstep
      cases hstep
      cases hw
      show 1 < if Wait.ticksOf r t = some seen then 2 else 3
      split <;> decide
    | some ticks =>
      simp only [hticks] at hstep
      split at hstep
      · next hunseen =>
        cases hstep
        cases hw
        show (if Wait.ticksOf r t = some ticks then 2 else 3) <
          if Wait.ticksOf r t = some seen then 2 else 3
        rw [if_pos hticks, if_neg (by rw [hticks]; exact fun heq => hunseen (Option.some.inj heq))]
        decide
      · split at hstep
        · cases hstep
        · cases hstep
          cases hw
          show 1 < if Wait.ticksOf r t = some seen then 2 else 3
          split <;> decide

/-- Each wake-up leaves fewer of them. -/
theorem labor_of_step {w w' : Waiter α} {now : Millis} {r' : Registry α} {choice : Wait.Choice}
    (h : w.step now idle r t choice = some (w', r')) : w'.labor r' t < w.labor r t := by
  cases w with
  | finished signal => cases h
  | waiting v =>
    rcases wake_cases h with ⟨resolution, -, -, rfl, rfl⟩ | ⟨v', rfl, rfl, rfl⟩ | ⟨-, -, rfl, rfl⟩
    · exact labor_pos _ t v
    · exact labor_of_activity h
    · exact labor_pos _ t v

/-- **No moment has more than three wake-ups**, unless somebody calls in between. -/
theorem wakes_le {choices : List Wait.Choice} (h : s.run idle t (choices.map .wake) = some s') :
    choices.length ≤ 3 := by
  have hlabor : ∀ w, s.waiter = some w → choices.length ≤ w.labor s.registry t := by
    induction choices generalizing s with
    | nil => exact fun w _ => Nat.zero_le _
    | cons choice choices ih =>
      intro w hw
      simp only [List.map_cons, Scene.run, Scene.step, hw, Option.bind_eq_some_iff,
        Option.map_eq_some_iff, Prod.exists] at h
      obtain ⟨s₁, ⟨w', r', hstep, rfl⟩, hrest⟩ := h
      exact Nat.lt_of_le_of_lt (ih hrest w' rfl) (labor_of_step hstep)
  cases hw : s.waiter with
  | some w => exact (hlabor w hw).trans (labor_le s.registry t w)
  | none =>
    cases choices with
    | nil => exact Nat.zero_le _
    | cons choice choices =>
      rw [List.map_cons, Scene.run, Scene.step, hw] at h
      cases h

/-- A wait with nothing to do has its deadline ahead. -/
theorem lt_deadline_of_rests {w : Wait} {now : Millis} (rests : ∀ c, w.step now idle r t c = none) :
    now < w.deadline := by
  by_contra hover
  have hdue : decide (w.deadline ≤ now) = true := decide_eq_true (Nat.not_lt.mp hover)
  have hexpire : w.mayExpire now r t = true := by
    cases w with
    | listening seen deadline => exact hdue
    | draining deadline =>
      have hsilent := rests .signal
      rw [Wait.step, Option.map_eq_none_iff] at hsilent
      rw [Wait.mayExpire, hsilent, Bool.and_eq_true]
      exact ⟨hdue, rfl⟩
  have hgivesUp := rests .expiry
  rw [Wait.step, if_pos hexpire] at hgivesUp
  cases hgivesUp

/-! ### The end of a wait -/

/-- What is said of a wait that started at `t₀` in the scene `s₀`, with the calls before and since. -/
structure Ends (idle : Millis) (t : Ticket) (base : List (Call α)) (t₀ : Millis) (s₀ : Scene α)
    (early late : List (Entry α)) (ret : Option (Return α)) (s : Scene α) : Prop where
  /-- A signal that is sent in time is returned when it is sent, or when the wait starts. -/
  signal : ∀ instant signal, InTime idle t t₀ early late instant signal →
    (ret = none ∧ s.now ≤ max instant t₀) ∨ ∃ left, ret = some ⟨max instant t₀, signal, left⟩
  /-- Without one the wait ends at the first instant that expires.  It tells of the positions since the
  trip began, and leaves the scooter free. -/
  silence : (∀ instant signal, ¬InTime idle t t₀ early late instant signal) →
    ∃ e, IsLeast {e | Expires idle t₀ (pulses t.scooter late) e} e ∧
      ((ret = none ∧ s.now ≤ e) ∨
        ∃ left, left.hasTrip t.scooter = false ∧
          ret = some ⟨e, .interrupted (ticksIn t.scooter (callsBefore e (early ++ late)))
            (lastSeen t.scooter (base ++ callsBefore e (early ++ late))), left⟩)
  /-- The wake-ups of a moment come to an end, ... -/
  brief : ∀ (choices : List Wait.Choice) s', s.run idle t (choices.map .wake) = some s' → choices.length ≤ 3
  /-- ... and then the clock may move. -/
  moves : ret = none → s.Rests idle t → ∃ now, s.now < now ∧ Attends idle t s₀ late none { s with now }

/-- A signal that is sent in time is sent by one of the calls. -/
theorem InTime.sends {instant : Millis} {signal : TripSignal α}
    (h : InTime idle t t₀ early late instant signal) :
    ∃ x ∈ early ++ late, x.instant = instant ∧ Sends x.registry t x.call signal := by
  cases h with
  | before mem sends => exact ⟨_, List.mem_append_left _ mem, rfl, sends⟩
  | @during front rest x _ split sends unbroken =>
    have hmem : x ∈ late := split ▸ List.mem_append_right _ (List.mem_cons_self ..)
    exact ⟨x, List.mem_append_right _ hmem, rfl, sends⟩

theorem not_inTime (unsent : ∀ x ∈ early ++ late, ∀ signal, ¬Sends x.registry t x.call signal)
    (instant : Millis) (signal : TripSignal α) : ¬InTime idle t t₀ early late instant signal := by
  intro hinTime
  obtain ⟨x, hx, -, hsends⟩ := hinTime.sends
  exact unsent x hx signal hsends

theorem Resolved.eq_of_inTime {instant instant' : Millis} {signal signal' : TripSignal α}
    (resolved : Resolved t (early ++ late) instant signal r)
    (inTime : InTime idle t t₀ early late instant' signal') : instant' = instant ∧ signal' = signal := by
  obtain ⟨x, hx, rfl, hsends⟩ := inTime.sends
  exact resolved.only x hx signal' hsends

/-- A wait that has not ended waits. -/
theorem Stands.waiting (h : Stands idle t base t₀ early late none s) :
    ∃ w, s.waiter = some (.waiting w) := by
  cases h with
  | listens unresolved waiter => exact ⟨_, waiter⟩
  | sent resolved inTime waiter => exact ⟨_, waiter⟩

theorem Stands.ends {s₀ : Scene α} (h : Stands idle t base t₀ early late ret s)
    (run : Attends idle t s₀ late ret s)
    (quiet : ∀ x ∈ late, ¬Expires idle t₀ (pulses t.scooter late) x.instant) :
    Ends idle t base t₀ s₀ early late ret s := by
  refine ⟨?_, ?_, fun choices s' => wakes_le, ?_⟩
  · intro instant signal hinTime
    cases h with
    | listens unresolved =>
      exact absurd hinTime (not_inTime unresolved.unsent instant signal)
    | sent resolved _ waiter due now =>
      obtain ⟨rfl, rfl⟩ := resolved.eq_of_inTime hinTime
      exact .inl ⟨rfl, now.le⟩
    | returned resolved _ finished past =>
      obtain ⟨rfl, rfl⟩ := resolved.eq_of_inTime hinTime
      exact .inr ⟨_, rfl⟩
    | gaveUp unsent => exact absurd hinTime (not_inTime unsent instant signal)
  · intro hnone
    cases h with
    | @listens _ last deadline seen unresolved waiter steady since due limit =>
      exact ⟨last + idle, steady.isLeast (quiet_pulses quiet), .inl ⟨rfl, due.trans limit⟩⟩
    | sent resolved inTime => exact absurd inTime (hnone _ _)
    | returned resolved inTime => exact absurd inTime (hnone _ _)
    | gaveUp unsent gone finished first told free past =>
      exact ⟨_, first, .inr ⟨_, free, by rw [told]⟩⟩
  · rintro rfl hrests
    obtain ⟨w, hw⟩ := h.waiting
    have hahead := lt_deadline_of_rests (hrests.step_eq_none hw)
    refine ⟨w.deadline, hahead, run.clock hahead.le hrests fun w' due hw' hdue => ?_⟩
    rw [hw] at hw'
    cases hw'
    cases hdue
    exact le_rfl

/-- **A wait ends with the signal, at the moment it is sent, or else with the first silence that is too
long.** -/
theorem wait_ends {hub : Hub α} {before : List (Call α)} {t : Ticket} {r : Registry α}
    (new : t.trip ∉ named before)
    (granted : (after hub before).begin t.scooter t.trip = .ok (t, r)) {now idle : Millis}
    (limited : 0 < idle) {early late : List (Entry α)} {ret : Option (Return α)} {s₁ s₂ s : Scene α}
    (first : Attends idle t ⟨now, r, none⟩ early none s₁) (starts : s₁.step idle t .start = some s₂)
    (rest : Attends idle t s₂ late ret s)
    (quiet : ∀ x ∈ late, ¬Expires idle s₁.now (pulses t.scooter late) x.instant) :
    Ends idle t (before ++ [.begin t.scooter t.trip]) s₁.now s₂ early late ret s := by
  have hr : r = after hub (before ++ [.begin t.scooter t.trip]) := by
    rw [after_snoc]
    simp only [perform, granted]
  have hwaiting := waiting_of_begin granted new
  have hunresolved : Unresolved (before ++ [.begin t.scooter t.trip]) t [] r := by
    rw [hr]
    refine ⟨hwaiting, connected_of_pending hub _ _ _ hwaiting.pending, List.forall_mem_nil _, ?_⟩
    rw [lastPosition_after]
    exact congrArg _ (List.append_nil _).symm
  obtain ⟨hwaiter, htrip⟩ := attends_before hunresolved first
  exact (stands_run (stands_start hwaiter limited first.upTo htrip starts) limited first.upTo rest
    quiet).ends rest quiet

/-- A wait from 10 on, with a limit of 50.  Its scooter is heard at 5 and at 40, another one at 70: it
ends at 90, with both positions counted. -/
theorem wait_ends_lull :
    let noon : Timestamp := ⟨2024, 5, 1, 12, 0, 0, 0, 0⟩
    let t : Ticket := ⟨1, .ofNat 7⟩
    let before : List (Call Int) := [.register noon 1, .register noon 2]
    let r := after (.create 8) (before ++ [.begin 1 (.ofNat 7)])
    ∃ early late s₁ s₂ s left,
      t.trip ∉ named before ∧ (after (.create 8) before).begin 1 (.ofNat 7) = .ok (t, r) ∧
      Attends 50 t ⟨0, r, none⟩ early none s₁ ∧ s₁.step 50 t .start = some s₂ ∧
      Attends 50 t s₂ late (some ⟨90, .interrupted 2 (some ⟨3, 4⟩), left⟩) s ∧
      (∀ x ∈ late, ¬Expires 50 s₁.now (pulses 1 late) x.instant) ∧
      Ends 50 t (before ++ [.begin 1 (.ofNat 7)]) s₁.now s₂ early late
        (some ⟨90, .interrupted 2 (some ⟨3, 4⟩), left⟩) s := by
  intro noon t before r
  have hnew : t.trip ∉ named before := by decide
  have hgranted : (after (.create 8) before).begin 1 (.ofNat 7) = .ok (t, r) := rfl
  have hforeign : ∀ m : Telemetry Int, (Event.call (.telemetry noon m)).Foreign t :=
    fun m => ⟨nofun, nofun, nofun⟩
  have hnobody : ∀ now r, (Scene.mk (α := Int) now r none).Rests 50 t := fun now r choice => rfl
  have hstart : ∀ s : Scene Int, Attends 50 t s [] none s := fun _ => .start
  have hearly := ((hstart ⟨0, r, none⟩).clock (Nat.zero_le 5) (hnobody _ _) nofun).call
    (.telemetry noon ⟨1, ⟨1, 2⟩⟩) (hforeign _)
  have hfirst := hearly.clock (show 5 ≤ 10 by decide) (hnobody _ _) nofun
  -- the position from before the start is noticed first
  have hnoticed := (hstart ⟨10, r.perform (.telemetry noon ⟨1, ⟨1, 2⟩⟩),
    some (.waiting (.start 10 50))⟩).wake .activity rfl
  have hheard := (hnoticed.clock (show 10 ≤ 40 by decide) (fun choice => by cases choice <;> rfl)
    (fun w due hw hdue => by cases hw; cases hdue; decide)).call (.telemetry noon ⟨1, ⟨3, 4⟩⟩)
      (hforeign _)
  have hother := ((hheard.wake .activity rfl).clock (show 40 ≤ 70 by decide)
    (fun choice => by cases choice <;> rfl) (fun w due hw hdue => by cases hw; cases hdue; decide)).call
      (.telemetry noon ⟨2, ⟨5, 6⟩⟩) (hforeign _)
  have hrest := (hother.clock (show 70 ≤ 90 by decide) (fun choice => by cases choice <;> rfl)
    (fun w due hw hdue => by cases hw; cases hdue; decide)).wake .expiry rfl
  have hquiet : ∀ e ∈ [40, 70], ¬Expires 50 10 [40] e := by
    have hapart : ∀ e ∈ [40, 70], ∀ x ∈ [10, 40], e ≠ x + 50 := by decide
    rintro e he ⟨x, hx, heq, -⟩
    exact hapart e he x hx heq
  exact ⟨_, _, _, _, _, _, hnew, hgranted, hfirst, rfl, hrest,
    fun x hx => hquiet x.instant (List.mem_map_of_mem hx),
    wait_ends hnew hgranted (by decide) hfirst rfl hrest
      fun x hx => hquiet x.instant (List.mem_map_of_mem hx)⟩

end Waiter
end ScooterFleet
