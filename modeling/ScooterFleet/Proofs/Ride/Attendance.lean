import ScooterFleet.Proofs.Ride.Fate

/-!
# Before a device takes the command of a trip

Until it takes the trip's command, a device that is attached goes on as it was, at rest or in a movement of
before.  That movement's battery may run out with a tick that is due already: then the device goes, and
its gateway frees the slot as soon as it hears of it.

* `Session.runsOut_of_outcome`, `Session.RunsOut.of_tick` — a tick that is due and the ones behind it;
* `Device.Lingers` — the device before the command; `cut` is what follows where its battery runs out;
* `Parting.gateway`, `Parting.ready` — when the device has gone, its gateway goes on until it has gone, too;
* `Attends` — the device lingers, or it has gone and there was a cut;
* `Attends.device`, `Attends.gateway`, `Attends.beside`, `Attends.ready` — **what each step leaves of that**.
-/

namespace ScooterFleet

open Registry

variable {α : Type}

namespace Session

variable [Coordinate α] {s : Session α} {due now : Millis}

/-- A tick that is due and empties the battery. -/
theorem runsOut_of_outcome (isDue : due ≤ now) (h : s.tick.outcome = some .discharged) :
    s.RunsOut due now := by
  have hdue : due + 0 * s.profile.interval ≤ now := by
    rw [Nat.zero_mul]
    exact isDue
  cases hm : s.movement with
  | none =>
    simp only [tick, hm] at h
    cases h
  | some m =>
    refine ⟨m, hm, 0, hdue, ?_⟩
    rw [Simulation.trace_succ]
    show (m.step?.getD m).outcome = some .discharged
    cases hs : m.step? with
    | none =>
      obtain ⟨o, ho⟩ := Simulation.step?_eq_none_iff.mp hs
      rw [tick_of_outcome hm ho] at h
      exact ho.trans h
    | some m' =>
      rw [tick_of_step? hm hs] at h
      cases ho : m'.outcome with
      | none =>
        rw [ho] at h
        cases h
      | some o =>
        rw [ho] at h
        exact ho.trans h

/-- Where the battery runs out behind a tick, it does so before it. -/
theorem RunsOut.of_tick (h : s.tick.session.RunsOut (due + s.profile.interval) now) :
    s.RunsOut due now := by
  obtain ⟨m', hm', n, hdue, hempty⟩ := h
  rw [s.keeps_tick.2, Nat.add_assoc, Nat.add_comm s.profile.interval, ← Nat.succ_mul] at hdue
  cases hm : s.movement with
  | none =>
    simp only [tick, hm] at hm'
    cases hm'
  | some m =>
    cases hs : m.step? with
    | none =>
      obtain ⟨o, ho⟩ := Simulation.step?_eq_none_iff.mp hs
      rw [tick_of_outcome hm ho] at hm'
      cases hm'
    | some m₁ =>
      rw [tick_of_step? hm hs] at hm'
      cases ho : m₁.outcome with
      | none =>
        rw [ho] at hm'
        cases hm'
        refine ⟨m, hm, n + 1, hdue, ?_⟩
        simp only [Simulation.trace, hs]
        exact hempty
      | some o =>
        rw [ho] at hm'
        cases hm'

end Session

/-- The device is at rest or in a movement of before.  Where the battery runs out with a tick that is due
already, there is a cut. -/
def Device.Lingers [Coordinate α] (p : MotionProfile α) (id : ScooterId) (cut : Prop) (now : Millis) :
    Device α → Prop
  | .running s due => s.scooter = id ∧ s.profile = p ∧ (s.RunsOut due now → cut)
  | .sending s _ _ due outcome => s.scooter = id ∧ s.profile = p ∧ (s.RunsOut due now → cut) ∧
    (outcome = some .discharged → cut)
  | _ => False

/-- A gateway that serves its slot goes on with that, or leaves; the ends of the link stay as they are. -/
theorem Gateway.Pumps.leaves {owned : Registration} {s s' : Site α} {g g' : Gateway α}
    (h : Pumps owned s g g' s') :
    (g'.Serves owned ∨ ∃ result, g' = .leaving owned result) ∧ s'.link.up.ended = s.link.up.ended ∧
      s'.link.down.closed = s.link.down.closed := by
  cases h with
  | takes | applies => exact ⟨.inl rfl, rfl, rfl⟩
  | hears inbound next =>
    refine ⟨?_, (Channel.ends_of_receive inbound).1, rfl⟩
    rcases next with rfl | ⟨frame, rfl⟩ | ⟨result, rfl⟩
    · exact .inl rfl
    · exact .inl rfl
    · exact .inr ⟨result, rfl⟩
  | sends sent => exact ⟨.inl rfl, rfl, (Channel.ends_of_sent sent).2⟩
  | ends => exact ⟨.inr ⟨_, rfl⟩, rfl, rfl⟩

namespace Ride

variable {owned : Registration} {s s' : Ride α}

/-! ### The device has gone -/

/-- What a step of the gateway does when the device has gone. -/
inductive Parts (owned : Registration) (s s' : Ride α) : Prop
  | stays {calls : List (Call α)} (parting : Parting owned s') (own : ∀ c ∈ calls, c.IsOwn owned)
      (registry : s'.registry = s.registry.run calls)
  | frees (gateway : ∃ result, s'.gateway = .finished result)
      (registry : s'.registry = s.registry.run [.release owned, .dropQueue owned.connection])

theorem Parting.gateway (h : Parting owned s) {c : Gateway.Choice} {x : Gateway α × Gateway.Site α}
    (step : s.gateway.step s.now s.wall s.site c = some x) :
    Parts owned s { s with gateway := x.1, site := x.2 } := by
  obtain ⟨device, ended, refused, serves | ⟨result, hg⟩, registered⟩ := h
  · obtain ⟨calls, conduct, registry⟩ := Gateway.conduct_of_step step
    have own := Gateway.own_of_conduct serves conduct
    have registered' : Registered x.2.kernel.registry owned := registry ▸ registered.run_own own
    obtain ⟨goes, hended, hclosed⟩ := (Gateway.pumps_of_step step serves).leaves
    exact .stays ⟨device, hended.trans ended, hclosed.trans refused, goes, registered'⟩ own registry
  · rw [hg] at step
    cases c with
    | proceed =>
      cases step
      exact .frees ⟨_, rfl⟩ rfl
    | command | inbound | expiry => cases step

/-- What leaves the device, the gateway and the link. -/
theorem Parting.beside (h : Parting owned s) (beside : Beside owned s s') : Parting owned s' := by
  obtain ⟨device, ended, refused, goes, registered⟩ := h
  rw [← beside.device] at device
  rw [← beside.link] at ended refused
  rw [← beside.gateway] at goes
  exact ⟨device, ended, refused, goes, beside.registered registered⟩

/-- Until it has gone, the gateway can always go on: it hears the end of the link, and what it sends is
refused. -/
theorem Parting.ready [Coordinate α] (h : Parting owned s) : s.isReady = true := by
  obtain ⟨-, ended, refused, serves | ⟨result, hg⟩, -⟩ := h
  · rcases Gateway.serves_iff.mp serves with hg | ⟨command, hg⟩ | ⟨frame, hg⟩
    · refine isReady_of_gateway (c := .inbound) (by decide) ?_
      simp only [hg, Gateway.step, Channel.receive, ended, Bool.true_or, if_true]
      split
      · exact ⟨_, rfl⟩
      · exact ⟨_, rfl⟩
      · next hwaits =>
        split at hwaits <;> cases hwaits
    · refine isReady_of_gateway (c := .proceed) (by decide) ?_
      simp only [hg, Gateway.step, Gateway.advance, Gateway.send, Channel.send, refused, if_true]
      split
      · exact ⟨_, rfl⟩
      · exact ⟨_, rfl⟩
      · next hwaits =>
        split at hwaits <;> cases hwaits
    · refine isReady_of_gateway (c := .proceed) (by decide) ?_
      rw [hg]
      exact ⟨_, rfl⟩
  · refine isReady_of_gateway (c := .proceed) (by decide) ?_
    rw [hg]
    exact ⟨_, rfl⟩

/-! ### The device lingers, or has gone -/

variable [Coordinate α] {p : MotionProfile α} {cut : Prop} {pipe : List (Dispatch α)}

/-- The device before it takes the trip's command, with the commands that are on their way to it. -/
inductive Attends (p : MotionProfile α) (owned : Registration) (cut : Prop) (s : Ride α)
    (pipe : List (Dispatch α)) : Prop
  | lingers {flight : List (DeviceFrame α)} (tied : Tied owned s pipe flight false)
      (lingers : s.device.Lingers p owned.scooter cut s.now)
  | parts (why : cut) (parting : Parting owned s)

theorem Attends.registered (h : Attends p owned cut s pipe) : Registered s.registry owned := by
  cases h with
  | lingers tied => exact tied.registered
  | parts why parting => exact parting.registered

/-- **The device goes on as it was, or goes.** -/
theorem Attends.device (h : Attends p owned cut s pipe) {c : Device.Choice} {x : Device α × Link α}
    (step : s.device.step s.now s.site.link c = some x) (untaken : c = .receive → pipe = []) :
    Attends p owned cut (s.afterDevice x) pipe := by
  cases h with
  | parts why parting =>
    obtain ⟨result, hd⟩ := parting.device
    rw [hd] at step
    cases c <;> cases step
  | lingers tied lingers =>
    cases c with
    | receive =>
      obtain ⟨session, due, m, rest, -, hpipe, -⟩ := tied.receive step
      rw [untaken rfl] at hpipe
      cases hpipe
    | tick =>
      obtain ⟨session, due, frame, more, hd, -, hdue, -, hx, htied⟩ := tied.tick step
      rw [hd] at lingers
      obtain ⟨hscooter, hprofile, why⟩ := lingers
      obtain ⟨hsame, hsameProfile⟩ := session.keeps_tick
      refine .lingers htied ?_
      show x.1.Lingers p owned.scooter cut s.now
      rw [hx]
      exact ⟨hsame.trans hscooter, hsameProfile.trans hprofile, fun h => why h.of_tick,
        fun h => why (Session.runsOut_of_outcome hdue h)⟩
    | send =>
      obtain ⟨session, frame, more, due, outcome, hd, hsent⟩ := tied.send step
      rw [hd] at lingers
      obtain ⟨hscooter, hprofile, why, empties⟩ := lingers
      cases hsent with
      | more split device htied => exact .lingers htied (device ▸ ⟨hscooter, hprofile, why, empties⟩)
      | last split lasts device htied => exact .lingers htied (device ▸ ⟨hscooter, hprofile, why⟩)
      | gone split empty device parting => exact .parts (empties empty) parting

/-- What leaves the device, the gateway and the link; commands may have come behind the others. -/
theorem Attends.beside (h : Attends p owned cut s pipe) (beside : Beside owned s s')
    (now : s'.now = s.now) {ms : List (Dispatch α)}
    (commands : s'.registry.commands owned.connection = s.registry.commands owned.connection ++ ms) :
    Attends p owned cut s' (pipe ++ ms) := by
  cases h with
  | lingers tied lingers =>
    refine .lingers (tied.beside beside commands) ?_
    rw [beside.device, now]
    exact lingers
  | parts why parting => exact .parts why (parting.beside beside)

theorem Attends.same (h : Attends p owned cut s pipe) (beside : Beside owned s s') (now : s'.now = s.now)
    (commands : s'.registry.commands owned.connection = s.registry.commands owned.connection) :
    Attends p owned cut s' pipe := by
  have hbeside := h.beside beside now (commands.trans (List.append_nil _).symm)
  rwa [List.append_nil] at hbeside

/-- What a step of the gateway leaves of the device and of the trips of its scooter. -/
inductive Attended (p : MotionProfile α) (owned : Registration) (cut : Prop) (s s' : Ride α)
    (pipe : List (Dispatch α)) : Prop
  | stays (attends : Attends p owned cut s' pipe)
      (holds : ∀ {t ticks}, Holds s.registry cut owned t ticks → Holds s'.registry cut owned t ticks)
  | frees (why : cut) (gateway : ∃ result, s'.gateway = .finished result)
      (free : s'.registry.owner owned.scooter = none)
      (ends : ∀ {t ticks}, Holds s.registry cut owned t ticks → Ended s'.registry cut t.trip)

/-- **The gateway passes on what it hears, or frees the slot of the device that has gone.** -/
theorem Attends.gateway (h : Attends p owned cut s pipe) (short : pipe.length ≤ 1) {c : Gateway.Choice}
    {x : Gateway α × Gateway.Site α} (step : s.gateway.step s.now s.wall s.site c = some x) :
    Attended p owned cut s { s with gateway := x.1, site := x.2 } pipe := by
  cases h with
  | lingers tied lingers =>
    cases tied.gateway short nofun step with
    | along tied' trips resolutions =>
      exact .stays (.lingers tied' lingers) fun h => h.congr trips resolutions
    | @applies frame rest first tied' registry =>
      obtain ⟨calls, own, hcalls⟩ := Gateway.own_of_apply s.wall owned s.registry frame
      refine .stays (.lingers tied' lingers) fun h => ?_
      rw [registry, hcalls]
      exact h.run_own own
  | parts why parting =>
    cases parting.gateway step with
    | stays parting' own registry =>
      refine .stays (.parts why parting') fun h => ?_
      rw [registry]
      exact h.run_own own
    | frees gateway registry =>
      have owns : s.registry.owns owned = true := owns_iff.mpr parting.registered.owner
      refine .frees why gateway ?_ fun h => ?_
      · rw [registry, owner, ((Gateway.vacates_free s.registry owned).interrupted owns).1]
        rfl
      · rw [registry]
        exact h.freed parting.registered why

/-- While a command is on its way down, or the device has gone, somebody can go on. -/
theorem Attends.ready {m : Dispatch α} (h : Attends p owned cut s [m]) : s.isReady = true := by
  cases h with
  | lingers tied => exact tied.ready_of_pipe
  | parts why parting => exact parting.ready

end Ride
end ScooterFleet
