import ScooterFleet.Proofs.Device.Charge
import ScooterFleet.Proofs.Registry.Signal
import ScooterFleet.Proofs.Store.Numbering

/-!
# The battery of an interrupted trip

Where a trip is not reported, the kernel computes the battery: from the one that it stored, and the
positions that it counted since the trip began.  The device computes it from the start of each movement.

* `heard` — the telemetry of a scooter in a history of calls;
* `Attended` — a trip whose scooter is heard of from one device only;
* `interrupted_of_wake` — the count with which a wait ends as interrupted is that of the calls until the
  trip left the table;
* `estimate_charges` — a discharge for each counted position leads from one battery of the device to
  another;
* `estimate_exact` — **the estimate is the device's battery at the last sample that was heard**.
-/

namespace ScooterFleet

open Registry

section Heard

variable {α : Type}

/-- The telemetry of this scooter that a call brings. -/
def Registry.Call.heard? (id : ScooterId) : Call α → Option (Telemetry α)
  | .telemetry _ m => if m.scooter = id then some m else none
  | _ => none

/-- The telemetry of a scooter in a history of calls. -/
def heard (id : ScooterId) (h : List (Call α)) : List (Telemetry α) := h.filterMap (Call.heard? id)

theorem length_heard (id : ScooterId) (h : List (Call α)) : (heard id h).length = ticksIn id h := by
  have hcounts : ∀ c : Call α, (c.heard? id).isSome = c.counts id := by
    intro c
    cases c with
    | telemetry time m =>
      show (if m.scooter = id then some m else none).isSome = decide (m.scooter = id)
      by_cases hm : m.scooter = id
      · rw [if_pos hm, decide_eq_true hm]
        rfl
      · rw [if_neg hm, decide_eq_false hm]
        rfl
    | _ => rfl
  rw [heard, List.length_filterMap_eq_countP, ticksIn]
  exact List.countP_congr fun c _ => by rw [hcounts c]

theorem ticksIn_append (id : ScooterId) (h h' : List (Call α)) :
    ticksIn id (h ++ h') = ticksIn id h + ticksIn id h' :=
  List.countP_append

end Heard

/-! ### The count of an interrupted trip -/

section Interrupted

variable {α : Type} {hub : Hub α} {id : ScooterId} {trip : TripId} {before behind : List (Call α)}

/-- The calls behind the begin of a trip, up to where it leaves the table: all of them, while it is
pending, or those in front of the removal of its scooter's session. -/
def LeavesBehind (hub : Hub α) (id : ScooterId) (trip : TripId)
    (before behind stay : List (Call α)) : Prop :=
  (after hub (before ++ stay)).isPending ⟨id, trip⟩ = true ∧
    (stay = behind ∨
      ∃ c rest, behind = stay ++ c :: rest ∧ c.Removes (after hub (before ++ stay)) id)

theorem LeavesBehind.isPrefix {stay : List (Call α)} (h : LeavesBehind hub id trip before behind stay) :
    stay <+: behind := by
  rcases h.2 with rfl | ⟨c, rest, rfl, -⟩
  · exact List.prefix_rfl
  · exact List.prefix_append _ _

/-- **A wait that ends as interrupted was told how often a position was counted until the trip left the
table.** -/
theorem interrupted_of_wake (life : Life hub id trip before behind) {now idle : Millis} {w : Wait}
    {c : Wait.Choice} {r : Registry α} {ticks : Nat} {last : Option (Position α)}
    (wake : w.step now idle (after hub (before ++ behind)) ⟨id, trip⟩ c =
      some (.done (.interrupted ticks last), r))
    (inTime : c = .expiry → (after hub (before ++ behind)).isPending ⟨id, trip⟩ = true) :
    ∃ stay, LeavesBehind hub id trip before behind stay ∧ ticks = ticksIn id stay := by
  rcases Wait.step_cases wake with ⟨resolution, -, hr, -, hsignal⟩ | ⟨v, -, -, hv⟩ |
    ⟨rfl, -, -, hsignal⟩
  · have hsent : resolution.signal = .interrupted ticks last := (Wait.Progress.done.inj hsignal).symm
    cases life with
    | waits waiting =>
      rw [waiting.silent] at hr
      cases hr
    | left stay rest call signal split waiting departure gone =>
      have hgone := (gone rest List.prefix_rfl).sent
      rw [List.append_assoc, ← split, hr, Option.map_some, hsent] at hgone
      subst hgone
      cases departure with
      | removed removes =>
        exact ⟨stay, ⟨isPending_of_get? waiting.pending, .inr ⟨call, rest, split, removes⟩⟩, rfl⟩
  · cases hv
  · have hpending := inTime rfl
    have hlost := (Wait.Progress.done.inj hsignal).symm
    cases life with
    | waits waiting =>
      rw [lostSignal_of_pending waiting.pending] at hlost
      cases hlost
      exact ⟨behind, ⟨hpending, .inl rfl⟩, rfl⟩
    | left stay rest call signal split waiting departure gone =>
      have hgone := gone rest List.prefix_rfl
      rw [List.append_assoc, ← split] at hgone
      rw [hgone.not_pending id] at hpending
      cases hpending

/-- A rental closes its trip as interrupted by a wake-up that says so. -/
theorem wake_of_interrupted [Coordinate α] {m : Rental.Moment} {terms : RentalTerms α} {k k' : Kernel α}
    {request : RentalRequest} {d : Departure α} {start : SnapshotId} {w : Wait} {c : Wait.Choice}
    {a : Arrival α} (step : Rental.step m terms k ⟨request, .waiting d start w⟩ (.wake c) =
      some (⟨request, .closing d start a⟩, k')) (interrupted : a.outcome = .interrupted) :
    ∃ ticks last r, w.step m.now terms.idle k.registry d.ticket c =
        some (.done (.interrupted ticks last), r) ∧
      a.battery = Rental.estimate d.scooter.battery terms.discharge ticks := by
  simp only [Rental.step] at step
  split at step
  · cases step
  · cases step
  · next signal r hwake =>
    cases step
    cases signal with
    | ended report =>
      cases hout : report.outcome <;>
        simp [Rental.arrival, hout, TripOutcome.ofOutcome] at interrupted
    | interrupted ticks last => exact ⟨ticks, last, r, hwake, rfl⟩

end Interrupted

/-! ### The estimate -/

section Exact

attribute [local instance] exactRat

variable {s₀ : Session Rat} {ls : List (Leg Rat)}

/-- **A discharge for each counted position leads from one battery of the device to another.** -/
theorem estimate_charges (charged : Charged s₀ ls) (hl : Itinerary s₀ ls) {n m : Nat} {x : Rat}
    (hx : (charges s₀ ls)[n]? = some x) (hm : n + m ≤ (way s₀ ls).length) :
    (charges s₀ ls)[n + m]? = some (Rental.estimate x s₀.profile.discharge m) := by
  have hspent : 0 ≤ (m : Rat) * s₀.profile.discharge := by
    rcases Nat.eq_zero_or_pos m with rfl | hpos
    · rw [Nat.cast_zero, zero_mul]
    · have hcost : 0 < s₀.profile.discharge := hl.cost (by omega)
      exact mul_nonneg (Nat.cast_nonneg m) hcost.le
  obtain ⟨y, hy⟩ : ∃ y, (charges s₀ ls)[n + m]? = some y := by
    refine ⟨_, List.getElem?_eq_getElem ?_⟩
    rw [length_charges]
    omega
  rw [hy]
  congr 1
  calc y = max 0 (s₀.battery - (n + m : Nat) * s₀.profile.discharge) := charged.charges _ y hy
    _ = max 0 (s₀.battery - n * s₀.profile.discharge - m * s₀.profile.discharge) := by
        rw [Nat.cast_add, add_mul, sub_sub]
    _ = max 0 (x - m * s₀.profile.discharge) := by
        rw [charged.charges n x hx, max_zero_sub hspent]
    _ = Rental.estimate x s₀.profile.discharge m := (floored_eq_max _).symm

/-- A trip whose scooter is heard of from one device only, which was welcomed behind the calls `old`.
`before` is what happened then until the trip began, and `behind` what happened since. -/
structure Attended (hub : Hub Rat) (s₀ : Session Rat) (log : List (Deed Rat))
    (old before behind : List (Call Rat)) (terms : RentalTerms Rat) (d : Departure Rat) : Prop where
  scooter : d.ticket.scooter = s₀.scooter
  granted : ∃ r,
    (after hub (old ++ before)).begin d.ticket.scooter d.ticket.trip = .ok (d.ticket, r)
  fresh : (named (old ++ before ++ .begin d.ticket.scooter d.ticket.trip :: behind)).Nodup
  /-- What is heard of the scooter is the first frames of the device, in their order. -/
  delivered : ∃ frames, frames <+: log.flatMap Deed.frames ∧
    heard s₀.scooter (before ++ behind) = tracks frames
  /-- The stored battery is the device's at the last sample that was heard before the trip. -/
  stored : (charges s₀ (legs log))[ticksIn s₀.scooter before]? = some d.scooter.battery
  discharge : terms.discharge = s₀.profile.discharge

/-- Not more is heard than was sampled. -/
theorem Attended.ticks_le {hub : Hub Rat} {log : List (Deed Rat)} {old before behind : List (Call Rat)}
    {terms : RentalTerms Rat} {d : Departure Rat} (h : Attended hub s₀ log old before behind terms d)
    {device : Device Rat} (tells : Tells s₀ log device) {stay : List (Call Rat)}
    (hstay : stay <+: behind) :
    ticksIn s₀.scooter before + ticksIn s₀.scooter stay ≤ (way s₀ (legs log)).length := by
  obtain ⟨frames, hframes, hheard⟩ := h.delivered
  obtain ⟨rest, rfl⟩ := hstay
  have hall : (tracks frames).length ≤ (tracks (log.flatMap Deed.frames)).length :=
    (hframes.filterMap _).length_le
  have htold := length_tracks_of_tells tells
  rw [tracks_append, List.length_append] at htold
  rw [← hheard, length_heard, ticksIn_append, ticksIn_append] at hall
  omega

/-- What a rental stores of its trip's end shows this battery: the snapshot, and the scooter's record,
where no more than 100 percent are kept. -/
structure Rental.Stores (terms : RentalTerms Rat) (request : RentalRequest) (d : Departure Rat)
    (start : SnapshotId) (a : Arrival Rat) (battery : Rat) : Prop where
  snapshot : ∀ m k finish k',
    advance m terms k request (.closing d start a) = some (.docking d start finish a, k') →
      ∃ s ∈ k'.store.ledger.snapshots, s.id = finish ∧ s.battery = battery
  record : battery ≤ 100 → ∀ m k finish k',
    advance m terms k request (.docking d start finish a) =
        some (.ordering d start finish a, k') →
      ∃ s, k'.store.scooters.get? request.scooter = some s ∧ s.battery = battery

theorem Rental.stores_arrival {terms : RentalTerms Rat} {request : RentalRequest}
    {d : Departure Rat} {start : SnapshotId} {a : Arrival Rat} (h : 0 ≤ a.battery) :
    Rental.Stores terms request d start a a.battery := by
  refine ⟨?_, ?_⟩
  · intro m k finish k' hstep
    simp only [advance] at hstep
    split at hstep
    · cases hstep
    · next snapshot k₁ hcall =>
      cases hstep
      rcases Store.ledger_of_recordSnapshot (Kernel.store_of_call hcall) with
        ⟨⟨fault, hfault⟩, -⟩ | ⟨hsame, hledger⟩
      · cases hfault
      · refine ⟨snapshot, ?_, rfl, congrArg Snapshot.battery (hsame snapshot rfl)⟩
        rw [hledger, ← hsame snapshot rfl]
        exact List.mem_append_right _ (List.mem_singleton.mpr rfl)
  · intro hfull m k finish k' hstep
    simp only [advance] at hstep
    split at hstep
    · cases hstep
    · next record k₁ hcall =>
      cases hstep
      have hwritten := Store.written?_of_updateScooter (Kernel.store_of_call hcall)
      have hwrites := Store.scooters_updateScooter k.store request.scooter (statusUpdate d a)
      rw [Kernel.store_of_call hcall, hwritten] at hwrites
      refine ⟨record, ?_, ?_⟩
      · rw [hwrites]
        exact Table.get?_insert_self _ _ _
      · rw [Store.battery_of_written? hwritten]
        show (if a.battery < 0 then 0 else if (100 : Rat) < a.battery then 100 else a.battery) = _
        rw [if_neg (not_lt.mpr h), if_neg (not_lt.mpr hfull)]

/-- **Device and kernel agree on the battery.**  A device is welcomed with some charge and then takes any
commands at any time.  After so many samples its battery is its first one less a discharge for each,
or zero, however the samples are spread over its movements.  Where a kernel hears of the scooter from
this device only, over a link that brings its first frames in their order, and stored the battery of
the last sample that it heard before a trip began: when the trip leaves the table by the removal of the
session, or is given up while it is pending, what the kernel stores as its estimate is the battery of the
last sample that it has heard by then, also of those that a movement made that was under way before the
trip.

No movement may have more samples than its counter of ticks can tell; see `counted_of_charge`. -/
theorem estimate_exact {s₀ : Session Rat} (rest : s₀.movement = none) (charged : 0 ≤ s₀.battery)
    {now : Millis} {log : List (Deed Rat)} {device : Device Rat}
    (run : Runs (Device.attached s₀ now) log device) (counted : Counted s₀ (legs log)) :
    (∀ s, device.session? = some s → s.battery =
      max 0 (s₀.battery -
        (tracks (log.flatMap Deed.frames ++ device.unsent)).length * s₀.profile.discharge)) ∧
    (∀ (k : Nat) x, (charges s₀ (legs log))[k]? = some x →
      x = max 0 (s₀.battery - k * s₀.profile.discharge)) ∧
    ∀ {hub : Hub Rat} {old before behind : List (Call Rat)} {terms : RentalTerms Rat}
      {d : Departure Rat}, Attended hub s₀ log old before behind terms d →
      ∀ {m : Rental.Moment} {k k' : Kernel Rat} {request : RentalRequest} {start : SnapshotId}
        {w : Wait} {c : Wait.Choice} {a : Arrival Rat},
        k.registry = after hub
          (old ++ before ++ .begin d.ticket.scooter d.ticket.trip :: behind) →
        Rental.step m terms k ⟨request, .waiting d start w⟩ (.wake c) =
          some (⟨request, .closing d start a⟩, k') →
        a.outcome = .interrupted → (c = .expiry → k.registry.isPending d.ticket = true) →
        ∃ stay, LeavesBehind hub d.ticket.scooter d.ticket.trip
            (old ++ before ++ [.begin d.ticket.scooter d.ticket.trip]) behind stay ∧
          (charges s₀ (legs log))[ticksIn s₀.scooter (before ++ stay)]? = some a.battery ∧
          Rental.Stores terms request d start a a.battery := by
  have tells : Tells s₀ log device := tells_run rest run
  have hcharged : Charged s₀ (legs log) := charged_of_itinerary charged tells.itinerary counted
  refine ⟨?_, hcharged.charges, ?_⟩
  · intro s hs
    have hstate : s.battery = (standing s₀ (legs log)).battery :=
      congrArg DeviceState.battery (tells.travels.state hs)
    rw [hstate, length_tracks_of_tells tells]
    exact hcharged.standing
  · intro hub old before behind terms d attended m k k' request start w c a hregistry step
      interrupted inTime
    obtain ⟨ticks, last, r, hwake, hbattery⟩ := wake_of_interrupted step interrupted
    obtain ⟨r₀, granted⟩ := attended.granted
    have life := life_of_begin attended.fresh rfl granted
    have happend : old ++ before ++ .begin d.ticket.scooter d.ticket.trip :: behind =
        old ++ before ++ [.begin d.ticket.scooter d.ticket.trip] ++ behind := by
      rw [List.append_assoc _ [_], List.singleton_append]
    rw [hregistry, happend] at hwake inTime
    obtain ⟨stay, hstay, rfl⟩ := interrupted_of_wake life hwake inTime
    have hticks := attended.ticks_le tells hstay.isPrefix
    have hestimate := estimate_charges hcharged tells.itinerary attended.stored hticks
    rw [← ticksIn_append, ← attended.discharge, ← attended.scooter, ← hbattery] at hestimate
    rw [← attended.scooter]
    refine ⟨stay, hstay, hestimate, Rental.stores_arrival ?_⟩
    rw [hcharged.charges _ _ hestimate]
    exact le_max_left 0 _

/-- A trip of the scooter that is sent aside while it is on its way already. -/
def sidestep : Departure Rat :=
  ⟨⟨7, "Ninebot", ⟨0, 0⟩, 79, none⟩, ⟨3, "Central", true, ⟨2, 1⟩⟩, ⟨7, Uuid.ofNat 2⟩, ⟨1, 0⟩⟩

/-- The session goes before the trip's report comes. -/
def unreported : List (Call Rat) :=
  let noon : Timestamp := ⟨2024, 5, 1, 12, 0, 0, 0, 0⟩
  [.dispatch 7 ⟨2, 1⟩ (some (Uuid.ofNat 2)), .telemetry noon ⟨7, ⟨2, 0⟩⟩, .telemetry noon ⟨7, ⟨2, 1⟩⟩,
    .unregister 7]

/-- One sample is heard before the trip, one of the same movement behind its begin, and one of the next
movement. -/
theorem estimate_exact_sidestep :
    let noon : Timestamp := ⟨2024, 5, 1, 12, 0, 0, 0, 0⟩
    let old : List (Call Rat) := [.register noon 7]
    let before : List (Call Rat) := [.telemetry noon ⟨7, ⟨1, 0⟩⟩]
    let begun := old ++ before ++ [.begin 7 (Uuid.ofNat 2)]
    let k : Kernel Rat := ⟨after (.create 8) (begun ++ unreported), .seeded [] []⟩
    ∃ log device a k', Runs (Device.attached parked 0) log device ∧
      Attended (.create 8) parked log old before unreported ⟨1, 50⟩ sidestep ∧
      Rental.step ⟨9, noon, Uuid.ofNat 9⟩ ⟨1, 50⟩ k ⟨⟨7, 3, 5⟩, .waiting sidestep 1 (.listening 2 9)⟩
        (.wake .signal) = some (⟨⟨7, 3, 5⟩, .closing sidestep 1 a⟩, k') ∧
      a.outcome = .interrupted ∧ a.battery = 77 ∧
      ∃ stay, LeavesBehind (.create 8) 7 (Uuid.ofNat 2) begun unreported stay ∧
        (charges parked (legs log))[ticksIn 7 (before ++ stay)]? = some a.battery ∧
        Rental.Stores ⟨1, 50⟩ ⟨7, 3, 5⟩ sidestep 1 a a.battery := by
  intro noon old before begun k
  obtain ⟨log, device, run, hlegs, hframes, -, hitinerary⟩ := itinerary_detour
  have attended : Attended (.create 8) parked log old before unreported ⟨1, 50⟩ sidestep := by
    refine ⟨rfl, ⟨_, rfl⟩, by decide, ⟨(log.flatMap Deed.frames).take 3, List.take_prefix _ _, ?_⟩,
      ?_, rfl⟩
    · rw [hframes]
      decide +kernel
    · rw [hlegs]
      decide +kernel
  have charged : (0 : Rat) ≤ parked.battery := by decide +kernel
  have counted : Counted parked (legs log) :=
    counted_of_charge charged (by decide +kernel) hitinerary
  have step : Rental.step ⟨9, noon, Uuid.ofNat 9⟩ ⟨1, 50⟩ k
      ⟨⟨7, 3, 5⟩, .waiting sidestep 1 (.listening 2 9)⟩ (.wake .signal) =
      some (⟨⟨7, 3, 5⟩, .closing sidestep 1
        (Rental.arrival ⟨1, 50⟩ sidestep (.interrupted 2 (some ⟨2, 1⟩)))⟩, k) := rfl
  obtain ⟨-, -, agree⟩ := estimate_exact rfl charged run counted
  exact ⟨log, device, _, k, run, attended, step, rfl, by decide +kernel,
    agree attended rfl step rfl nofun⟩

end Exact
end ScooterFleet
