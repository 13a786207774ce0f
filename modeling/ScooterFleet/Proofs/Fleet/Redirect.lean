import Mathlib.Data.List.Induction
import ScooterFleet.Proofs.Fleet.Queue
import ScooterFleet.Proofs.Fleet.Run
import ScooterFleet.Proofs.Fleet.Stride
import ScooterFleet.Proofs.Gateway.Conduct

/-!
# Redirects in traffic

A redirect looks whether its scooter is on a trip, and dispatches it if not.  These are two steps, and
the fleet goes on between them.

* `Traffic` / `Traffic.run` — a fleet with any number of redirects under way, in any order of steps;
* `Touches` / `Touches.of_moves` — what a move of the fleet does to the registry;
* `Looks` / `looks_run` — a redirect that is about to dispatch has looked, and there was no trip then;
* `TripBegins` / `tripBegins_run` — a pending trip began at one place of the run;
* `strayed_iff` — **a command outside of any trip is queued during a trip exactly if it comes from a
  redirect that looked before the trip began**;
* `strayed_collision` — that happens: the trip's own dispatch is queued, and the other one behind it.
-/

namespace ScooterFleet

open Registry

variable {α : Type}

/-! ### What moves do to the registry -/

/-- A trip that is pending behind a call was pending before, or begins. -/
theorem pending_perform {r : Registry α} {c : Call α} {k : ScooterId} {p : PendingTrip}
    (h : (r.perform c).trips.get? k = some p) :
    (∃ q, r.trips.get? k = some q ∧ q.trip = p.trip) ∨ r.trips.get? k = none ∧ p.ticks = 0 := by
  have of_erase : ∀ {id}, (r.trips.erase id).get? k = some p → r.trips.get? k = some p := by
    intro id he
    rw [Table.get?_erase] at he
    split at he
    · cases he
    · exact he
  cases change_perform r c with
  | begun id trip call connected free trips resolutions =>
    rw [trips, Table.get?_insert] at h
    split at h
    · next hid =>
      cases h
      exact .inr ⟨hid ▸ free, rfl⟩
    · exact .inl ⟨p, h, rfl⟩
  | resolved id q signal pending cause trips resolutions =>
    exact .inl ⟨p, of_erase (trips ▸ h), rfl⟩
  | abandoned t call pending trips resolutions => exact .inl ⟨p, of_erase (trips ▸ h), rfl⟩
  | counted time message call trips resolutions =>
    rw [trips, Table.get?_modify] at h
    split at h
    · obtain ⟨q, hq, rfl⟩ := Option.map_eq_some_iff.mp h
      exact .inl ⟨q, hq, rfl⟩
    · exact .inl ⟨p, h, rfl⟩
  | kept uncounted trips resolutions => exact .inl ⟨p, trips ▸ h, rfl⟩

/-- What a move leaves of the registry: one call, or a slot that is freed, or other viewers. -/
inductive Touches (m : Move α) (r : Registry α) : Registry α → Prop
  | shown (hub : Hub α) : Touches m r { r with hub }
  | called (c : Call α) (own : m = .call c ∨ c.IsOrderly) : Touches m r (r.perform c)
  | freed (owned : Registration) : Touches m r ((r.release owned).dropQueue owned.connection)

namespace Touches

variable {m : Move α} {r r' : Registry α}

theorem same (h : r' = r) : Touches m r r' := by
  subst h
  exact .shown r'.hub

theorem abandoned (t : Ticket) : Touches m r (r.abandon t) := by
  have hc : (Call.abandon t : Call α).IsOrderly := nofun
  exact .called (.abandon t) (.inr hc)

theorem aside (h : r' = r ∨ (∃ hub, r' = { r with hub }) ∨ ∃ t, r' = r.abandon t) :
    Touches m r r' := by
  rcases h with rfl | ⟨hub, rfl⟩ | ⟨t, rfl⟩
  · exact .same rfl
  · exact .shown hub
  · exact abandoned t

/-- A command outside of any trip is put by nobody but a caller who asks for it. -/
theorem strays_le (h : Touches m r r')
    (orderly : ∀ id destination, m ≠ .call (.dispatch id destination none)) (n : ConnectionId) :
    r'.strays n <:+ r.strays n := by
  cases h with
  | shown hub => exact List.suffix_rfl
  | called c own =>
    refine strays_perform ?_ n
    intro id destination he
    rcases own with hm | hc
    · exact orderly id destination (he ▸ hm)
    · exact hc id destination he
  | freed owned =>
    have hrelease : (Call.release owned : Call α).IsOrderly := nofun
    have hdrop : (Call.dropQueue owned.connection : Call α).IsOrderly := nofun
    exact (strays_perform hdrop n).trans (strays_perform hrelease n)

/-- A trip that is pending was pending before, or begins. -/
theorem pending (h : Touches m r r') {k : ScooterId} {p : PendingTrip}
    (hp : r'.trips.get? k = some p) :
    (∃ q, r.trips.get? k = some q ∧ q.trip = p.trip) ∨ r.trips.get? k = none ∧ p.ticks = 0 := by
  cases h with
  | shown hub => exact .inl ⟨p, hp, rfl⟩
  | called c own => exact pending_perform hp
  | freed owned => exact pending_perform (c := .release owned) hp

/-- A connection dispatches nothing. -/
theorem of_conduct {g g' : Gateway α} {calls : List (Call α)} (h : Gateway.Conducts r g g' calls r') :
    Touches m r r' := by
  obtain ⟨conduct, registry⟩ := h
  cases conduct with
  | outside => exact .same registry
  | idles => exact .same registry
  | @claims _ _ c owned before grant after =>
    have hc : c.IsOrderly := by
      intro id destination he
      subst he
      cases grant
    exact registry ▸ .called c (.inr hc)
  | @serves _ _ c owned before after own =>
    have hc : c.IsOrderly := by
      intro id destination he
      subst he
      exact own
    exact registry ▸ .called c (.inr hc)
  | @frees owned result => exact registry ▸ .freed owned

variable [Coordinate α]

/-- A rental dispatches for its trip only. -/
theorem of_stride {id : TaskId} {now : Rental.Moment} {k k' : Kernel α} {q : RentalRequest}
    {p p' : Rental.Phase α} {calls : List (Call α)} {es : List (Note α)}
    (h : Rental.Strides id now k q p p' calls es k') : Touches m k.registry k'.registry := by
  obtain ⟨stride, registry, -⟩ := h
  rw [registry]
  cases stride with
  | claimed =>
    have hc : (Call.begin q.scooter now.fresh : Call α).IsOrderly := nofun
    exact .called _ (.inr hc)
  | @dispatched d start wait =>
    have hc : (Call.dispatch q.scooter d.station.position (some d.ticket.trip)).IsOrderly :=
      fun _ _ he => by cases he
    exact .called _ (.inr hc)
  | gaveUp => exact abandoned _
  | released => exact abandoned _
  | _ => exact .same rfl

/-- **What a move leaves of the registry.** -/
theorem of_moves {s s' : System α} {es : List (Note α)} (h : s.Moves m es s') :
    Touches m s.registry s'.registry := by
  cases h with
  | @act id c es s' acts =>
    cases acts with
    | device => exact .same rfl
    | gateway task place step =>
      obtain ⟨calls, hc⟩ := Gateway.conduct_of_step step
      exact of_conduct hc
    | rental task step =>
      obtain ⟨-, calls, hs⟩ := Rental.stride_of_step id step
      exact of_stride hs
    | bystander task before after registry => exact aside registry
  | clock => exact .same rfl
  | rent => exact .same rfl
  | attach => exact .same rfl
  | join => exact .same rfl
  | @call c => exact .called c (.inl rfl)
  | @watch hub => exact .shown hub
  | cancel cancels =>
    cases cancels with
    | device => exact .same rfl
    | @gateway link g l task place =>
      show Touches _ s.registry (g.cancel ⟨s.kernel, l⟩).kernel.registry
      rw [Gateway.registry_cancel]
      cases g.owned? with
      | none => exact .same rfl
      | some owned => exact .freed owned
    | other registry => exact aside registry

end Touches

/-! ### A fleet and its redirects -/

/-- One redirect. -/
structure Errand (α : Type) where
  scooter : ScooterId
  destination : Position α
  progress : Redirect α

/-- A fleet with the redirects that were asked for. -/
structure Traffic (α : Type) where
  fleet : System α
  errands : Table Nat (Errand α)

namespace Traffic

/-- What happens next. -/
inductive Event (α : Type) where
  | fleet (move : Move α)
  | ask (errand : Nat) (scooter : ScooterId) (destination : Position α)
  /-- One step of a redirect. -/
  | redirect (errand : Nat)

/-- Nobody dispatches outside of trips but by a redirect. -/
def Event.IsOrdinary : Event α → Prop
  | .fleet (.call (.dispatch _ _ none)) => False
  | _ => True

def registry (t : Traffic α) : Registry α := t.fleet.registry

variable [Coordinate α]

/-- One event; none if it is not enabled. -/
def step (t : Traffic α) : Event α → Option (Traffic α)
  | .fleet m => (t.fleet.move? m).map fun fleet => { t with fleet }
  | .ask a scooter destination =>
    match t.errands.get? a with
    | none => some { t with errands := t.errands.insert a ⟨scooter, destination, .checking⟩ }
    | some _ => none
  | .redirect a =>
    match t.errands.get? a with
    | none => none
    | some e => (e.progress.step e.scooter e.destination t.registry).map fun (progress, registry) =>
      ⟨t.fleet.withRegistry registry, t.errands.insert a { e with progress }⟩

/-- Any number of events, the first one first. -/
def run (t : Traffic α) (events : List (Event α)) : Option (Traffic α) := events.foldlM step t

theorem run_append (t : Traffic α) (events events' : List (Event α)) :
    t.run (events ++ events') = (t.run events).bind fun t => t.run events' :=
  List.foldlM_append

theorem run_snoc (t : Traffic α) (events : List (Event α)) (e : Event α) :
    t.run (events ++ [e]) = (t.run events).bind fun t => t.step e := by
  rw [run_append]
  refine congrArg _ (funext fun t' => ?_)
  show (t'.step e).bind some = t'.step e
  exact Option.bind_fun_some _

/-- What a step of a redirect leaves. -/
inductive Redirects (t : Traffic α) (a : Nat) (k : ScooterId) (destination : Position α) :
    Traffic α → Prop
  | refused (errand : t.errands.get? a = some ⟨k, destination, .checking⟩)
      (busy : t.registry.hasTrip k = true) :
      Redirects t a k destination
        { t with errands := t.errands.insert a ⟨k, destination, .finished (.error (.inProgress k))⟩ }
  | looked (errand : t.errands.get? a = some ⟨k, destination, .checking⟩)
      (free : t.registry.trips.get? k = none) :
      Redirects t a k destination
        { t with errands := t.errands.insert a ⟨k, destination, .dispatching⟩ }
  | dispatched {r : Registry α} (errand : t.errands.get? a = some ⟨k, destination, .dispatching⟩)
      (taken : t.registry.dispatch k destination none = .ok r) :
      Redirects t a k destination
        ⟨t.fleet.withRegistry r, t.errands.insert a ⟨k, destination, .finished (.ok ())⟩⟩
  | unreachable (errand : t.errands.get? a = some ⟨k, destination, .dispatching⟩) :
      Redirects t a k destination
        { t with errands := t.errands.insert a ⟨k, destination, .finished (.error (.unreachable k))⟩ }

/-- **A step of a redirect is one of these.** -/
theorem redirects_of_step {t t' : Traffic α} {a : Nat} (h : t.step (.redirect a) = some t') :
    ∃ k destination, Redirects t a k destination t' := by
  simp only [step] at h
  split at h
  · cases h
  · next e he =>
    obtain ⟨k, destination, progress⟩ := e
    refine ⟨k, destination, ?_⟩
    simp only [Option.map_eq_some_iff, Prod.exists] at h
    obtain ⟨progress', r, hp, rfl⟩ := h
    cases progress with
    | checking =>
      simp only [Redirect.step] at hp
      split at hp
      · next hbusy =>
        cases hp
        exact .refused he hbusy
      · next hfree =>
        cases hp
        exact .looked he (hasTrip_eq_false_iff.mp (by simpa using hfree))
    | dispatching =>
      simp only [Redirect.step] at hp
      split at hp
      · next r' hr =>
        cases hp
        exact .dispatched he hr
      · cases hp
        exact .unreachable he
    | finished result => cases hp

/-! ### Looks, and trips that begin behind them -/

/-- Behind this run, a redirect is about to look, and its scooter is on no trip. -/
def Looks (t₀ : Traffic α) (before : List (Event α)) (a : Nat) (k : ScooterId)
    (destination : Position α) : Prop :=
  ∃ t, t₀.run before = some t ∧ t.errands.get? a = some ⟨k, destination, .checking⟩ ∧
    t.registry.trips.get? k = none

/-- Within this part of a run, a trip begins. -/
def TripBegins (t₀ : Traffic α) (before part : List (Event α)) (k : ScooterId) (trip : TripId) :
    Prop :=
  ∃ mid e rest t t', part = mid ++ e :: rest ∧ t₀.run (before ++ mid) = some t ∧
    t.step e = some t' ∧ t.registry.trips.get? k = none ∧
    t'.registry.trips.get? k = some ⟨trip, 0⟩

variable {t₀ t t' : Traffic α} {events : List (Event α)} {e : Event α}

/-- What a redirect is about to dispatch, it has looked for.  By induction over the run, from its
end. -/
theorem looks_run (quiet : t₀.errands = ∅) (run : t₀.run events = some t) {a : Nat} {k : ScooterId}
    {destination : Position α} (errand : t.errands.get? a = some ⟨k, destination, .dispatching⟩) :
    ∃ early late, events = early ++ .redirect a :: late ∧ t₀.Looks early a k destination := by
  induction events using List.reverseRecOn generalizing t with
  | nil =>
    cases run
    rw [quiet] at errand
    cases errand
  | append_singleton events e ih =>
    rw [run_snoc] at run
    obtain ⟨t', run', hstep⟩ := Option.bind_eq_some_iff.mp run
    have hold : t'.errands.get? a = some ⟨k, destination, .dispatching⟩ →
        ∃ early late, events ++ [e] = early ++ .redirect a :: late ∧
          t₀.Looks early a k destination := by
      intro he
      obtain ⟨early, late, hsplit, looks⟩ := ih run' he
      exact ⟨early, late ++ [e], by rw [hsplit]; simp, looks⟩
    cases e with
    | fleet m =>
      simp only [step, Option.map_eq_some_iff] at hstep
      obtain ⟨fleet, -, rfl⟩ := hstep
      exact hold errand
    | ask b scooter destination' =>
      simp only [step] at hstep
      split at hstep
      · cases hstep
        rw [Table.get?_insert] at errand
        split at errand
        · cases errand
        · exact hold errand
      · cases hstep
    | redirect b =>
      obtain ⟨k', destination', turn⟩ := redirects_of_step hstep
      by_cases hb : b = a
      · subst hb
        cases turn with
        | looked errand' free =>
          rw [Table.get?_insert_self] at errand
          cases errand
          exact ⟨events, [], rfl, t', run', errand', free⟩
        | refused | dispatched | unreachable =>
          rw [Table.get?_insert_self] at errand
          cases errand
      · refine hold ?_
        cases turn <;> exact (Table.get?_insert_of_ne _ _ hb).symm.trans errand

/-- One event begins a trip, or leaves it pending. -/
theorem pending_step (h : t.step e = some t') {k : ScooterId} {p : PendingTrip}
    (hp : t'.registry.trips.get? k = some p) :
    (∃ q, t.registry.trips.get? k = some q ∧ q.trip = p.trip) ∨
      t.registry.trips.get? k = none ∧ p.ticks = 0 := by
  cases e with
  | fleet m =>
    simp only [step, Option.map_eq_some_iff] at h
    obtain ⟨fleet, hmove, rfl⟩ := h
    exact (Touches.of_moves (System.moves_of_move? hmove)).pending hp
  | ask a scooter destination =>
    simp only [step] at h
    split at h <;> cases h
    exact .inl ⟨p, hp, rfl⟩
  | redirect a =>
    obtain ⟨k', destination, turn⟩ := redirects_of_step h
    cases turn with
    | @dispatched r errand taken =>
      have hr : r = t.registry.perform (.dispatch k' destination none) := by
        simp only [perform, taken]
      subst hr
      exact pending_perform (c := .dispatch k' destination none) hp
    | refused | looked | unreachable => exact .inl ⟨p, hp, rfl⟩

/-- A trip that is pending, and was not at an earlier time, began in between.  By induction over what
came in between, from its end. -/
theorem tripBegins_run {before part : List (Event α)} {k : ScooterId} {t₁ : Traffic α}
    (run₁ : t₀.run before = some t₁) (free : t₁.registry.trips.get? k = none)
    (run : t₀.run (before ++ part) = some t) {p : PendingTrip}
    (hp : t.registry.trips.get? k = some p) : t₀.TripBegins before part k p.trip := by
  induction part using List.reverseRecOn generalizing t p with
  | nil =>
    rw [List.append_nil, run₁] at run
    cases run
    rw [free] at hp
    cases hp
  | append_singleton part e ih =>
    rw [← List.append_assoc, run_snoc] at run
    obtain ⟨t', run', hstep⟩ := Option.bind_eq_some_iff.mp run
    rcases pending_step hstep hp with ⟨q, hq, htrip⟩ | ⟨hnone, hticks⟩
    · obtain ⟨mid, e', rest, t₂, t₃, hsplit, hrest⟩ := ih run' hq
      rw [htrip] at hrest
      exact ⟨mid, e', rest ++ [e], t₂, t₃, by rw [hsplit]; simp, hrest⟩
    · obtain ⟨trip, ticks⟩ := p
      cases hticks
      exact ⟨part, e, [], t', t, rfl, run', hstep, hnone, hp⟩

/-- The trip during which a redirect dispatches began behind its look. -/
theorem tripBegins_of_looks {early late : List (Event α)} {a : Nat} {k : ScooterId}
    {destination : Position α} (looks : t₀.Looks early a k destination)
    (run : t₀.run (early ++ .redirect a :: late) = some t) {p : PendingTrip}
    (hp : t.registry.trips.get? k = some p) :
    t₀.TripBegins (early ++ [.redirect a]) late k p.trip := by
  obtain ⟨t₁, run₁, errand, free⟩ := looks
  have hsplit : early ++ .redirect a :: late = early ++ [.redirect a] ++ late := by simp
  rw [hsplit] at run
  have hrun := run
  rw [run_append, run_snoc, run₁] at hrun
  obtain ⟨t₂, hstep, -⟩ := Option.bind_eq_some_iff.mp hrun
  have run₂ : t₀.run (early ++ [.redirect a]) = some t₂ := by
    rw [run_snoc, run₁]
    exact hstep
  refine tripBegins_run run₂ ?_ run hp
  -- the look itself leaves the registry
  obtain ⟨k', destination', turn⟩ := redirects_of_step hstep
  cases turn with
  | refused => exact free
  | looked => exact free
  | dispatched errand' | unreachable errand' =>
    rw [errand] at errand'
    cases errand'

/-! ### Commands that stray into a trip -/

/-- Without a redirect's dispatch, there are no more commands outside of trips. -/
theorem strays_step (h : t.step e = some t') (ordinary : e.IsOrdinary) (n : ConnectionId) :
    t'.registry.strays n <:+ t.registry.strays n ∨
      ∃ a k destination r, e = .redirect a ∧
        t.errands.get? a = some ⟨k, destination, .dispatching⟩ ∧
        t.registry.dispatch k destination none = .ok r ∧ t'.registry = r ∧
        t'.errands.get? a = some ⟨k, destination, .finished (.ok ())⟩ := by
  cases e with
  | fleet m =>
    simp only [step, Option.map_eq_some_iff] at h
    obtain ⟨fleet, hmove, rfl⟩ := h
    refine .inl ((Touches.of_moves (System.moves_of_move? hmove)).strays_le ?_ n)
    intro id destination he
    subst he
    exact ordinary
  | ask a scooter destination =>
    simp only [step] at h
    split at h <;> cases h
    exact .inl List.suffix_rfl
  | redirect a =>
    obtain ⟨k, destination, turn⟩ := redirects_of_step h
    cases turn with
    | @dispatched r errand taken =>
      exact .inr ⟨a, k, destination, r, rfl, errand, taken, rfl, Table.get?_insert_self _ _ _⟩
    | refused | looked | unreachable => exact .inl List.suffix_rfl

/-- **When a command strays into a trip.**  In any run of a fleet with redirects, in which nobody
dispatches outside of trips but by a redirect, let a trip be pending on a scooter.

* A redirect of the scooter that looks now is refused, and touches nothing.
* A command outside of any trip is put into the scooter's queue now if and only if a redirect puts it
  that looked before this very trip began, while there was none, and has come to its dispatch now, which
  succeeds. -/
theorem strayed_iff {t₀ t t' : Traffic α} (quiet : t₀.errands = ∅) {events : List (Event α)}
    (run : t₀.run events = some t) {e : Event α} (ordinary : e.IsOrdinary)
    (step : t.step e = some t') {k : ScooterId} {p : PendingTrip}
    (pending : t.registry.trips.get? k = some p) :
    (∀ a destination, e = .redirect a → t.errands.get? a = some ⟨k, destination, .checking⟩ →
      t'.registry = t.registry ∧
        t'.errands.get? a = some ⟨k, destination, .finished (.error (.inProgress k))⟩) ∧
    ∀ destination, t.registry.Puts t'.registry ⟨k, destination, none⟩ ↔
      ∃ a, e = .redirect a ∧ t.errands.get? a = some ⟨k, destination, .dispatching⟩ ∧
        t'.errands.get? a = some ⟨k, destination, .finished (.ok ())⟩ ∧
        ∃ early late, events = early ++ .redirect a :: late ∧ t₀.Looks early a k destination ∧
          t₀.TripBegins (early ++ [.redirect a]) late k p.trip := by
  constructor
  · intro a destination he errand
    subst he
    obtain ⟨k', destination', turn⟩ := redirects_of_step step
    cases turn with
    | refused errand' busy =>
      rw [errand] at errand'
      cases errand'
      exact ⟨rfl, Table.get?_insert_self _ _ _⟩
    | looked errand' free =>
      rw [errand] at errand'
      cases errand'
      rw [pending] at free
      cases free
    | dispatched errand' | unreachable errand' =>
      rw [errand] at errand'
      cases errand'
  · intro destination
    constructor
    · intro puts
      obtain ⟨n, hn⟩ := puts.strays rfl
      rcases strays_step step ordinary n with hle |
        ⟨a, k', destination', r, rfl, errand, taken, hr, done⟩
      · exact absurd hle hn
      · cases Puts.eq_of_dispatch (hr ▸ puts) taken
        obtain ⟨early, late, rfl, looks⟩ := looks_run quiet run errand
        exact ⟨a, rfl, errand, done, early, late, rfl, looks, tripBegins_of_looks looks run pending⟩
    · intro h
      obtain ⟨a, rfl, errand, done, -⟩ := h
      obtain ⟨k', destination', turn⟩ := redirects_of_step step
      cases turn with
      | dispatched errand' taken =>
        rw [errand] at errand'
        cases errand'
        exact puts_of_dispatch taken
      | refused errand' | looked errand' =>
        rw [errand] at errand'
        cases errand'
      | unreachable errand' =>
        rw [errand] at errand'
        cases errand'
        rw [Table.get?_insert_self] at done
        cases done

section Collision

attribute [local instance] exactRat

/-- The small fleet, before anybody asks for a redirect. -/
def quietTraffic : Traffic Rat := ⟨smallFleet, ∅⟩

/-- A redirect to the harbour looks, and then a rental to the depot sets out. -/
def collision : List (Event Rat) :=
  (connecting ++ [Move.rent ⟨1, 1, 42⟩]).map .fleet ++ [.ask 0 1 ⟨0, 2⟩, .redirect 0] ++
    (settingOut 3).map .fleet

/-- **A redirect into a trip.**  The redirect dispatches behind the trip's own command, and the device
is to obey both. -/
theorem strayed_collision :
    ∃ t t' trip, quietTraffic.run collision = some t ∧ t.step (.redirect 0) = some t' ∧
      t.registry.trips.get? 1 = some ⟨trip, 0⟩ ∧
      t.registry.commands 0 = [⟨1, ⟨0, 1⟩, some trip⟩] ∧
      t'.registry.commands 0 = [⟨1, ⟨0, 1⟩, some trip⟩, ⟨1, ⟨0, 2⟩, none⟩] ∧
      t'.errands.get? 0 = some ⟨1, ⟨0, 2⟩, .finished (.ok ())⟩ ∧
      ∃ early late, collision = early ++ .redirect 0 :: late ∧
        quietTraffic.Looks early 0 1 ⟨0, 2⟩ ∧
        quietTraffic.TripBegins (early ++ [.redirect 0]) late 1 trip := by
  have hplay : ((quietTraffic.run collision).bind fun t => (t.step (.redirect 0)).map fun t' =>
      (t.registry.trips.get? 1, t.registry.owner 1, t.registry.commands 0, t'.registry.commands 0)) =
      some (some ⟨.ofNat (System.tripBase + 6), 0⟩, some ⟨1, 0⟩,
        [⟨1, ⟨0, 1⟩, some (.ofNat (System.tripBase + 6))⟩],
        [⟨1, ⟨0, 1⟩, some (.ofNat (System.tripBase + 6))⟩, ⟨1, ⟨0, 2⟩, none⟩]) := by
    decide +kernel
  simp only [Option.bind_eq_some_iff, Option.map_eq_some_iff, Prod.mk.injEq] at hplay
  obtain ⟨t, run, t', hstep, pending, howner, hbefore, hbehind⟩ := hplay
  have puts : t.registry.Puts t'.registry ⟨1, ⟨0, 2⟩, none⟩ := by
    obtain ⟨slot, hs, hslot⟩ := Option.map_eq_some_iff.mp howner
    have hconnection : slot.connection = 0 := congrArg Registration.connection hslot
    exact ⟨slot, hs, by rw [hconnection, hbefore, hbehind]; rfl⟩
  have ordinary : (Event.redirect 0 : Event Rat).IsOrdinary := trivial
  obtain ⟨a, ha, -, done, early, late, split, looks, begins⟩ :=
    ((strayed_iff rfl run ordinary hstep pending).2 ⟨0, 2⟩).mp puts
  cases ha
  exact ⟨t, t', _, run, hstep, pending, hbefore, hbehind, done, early, late, split, looks, begins⟩

end Collision

end Traffic
end ScooterFleet
