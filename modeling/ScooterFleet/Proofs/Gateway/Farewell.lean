import ScooterFleet.Proofs.Gateway.Conduct

/-!
# How a connection ends

One connection, and everything around it.  Between any two of its steps anybody may call the registry,
time passes, the store may refuse what it is asked, and the link may bring anything, or break.

* `Scene` / `Scene.run` — the connection's steps between the calls of others, while the world changes;
* `Story` / `story_step` — what is known of a connection at any time: it has claimed nothing and called
  nothing, or it has claimed one slot, which is its own or was claimed by others behind it;
* `Ends` — a connection returns, or is dropped in the middle;
* `Vacates` / `vacates_free` — what is left by a connection that frees its slot;
* `farewell` — **however a connection ends, it frees its own slot and nothing else.**
-/

namespace ScooterFleet
namespace Gateway

open Registry

variable {α : Type}

/-! ### A connection and everybody else -/

/-- What happens around a connection. -/
inductive Event (α : Type) where
  /-- The connection goes on. -/
  | step (choice : Choice)
  /-- Anybody else calls the registry. -/
  | call (c : Call α)
  /-- The clocks, the store and the link become any others, but the registry stays. -/
  | world (now : Millis) (wall : Timestamp) (store : Store α) (link : Link α)

/-- A connection in its surroundings. -/
structure Scene (α : Type) where
  now : Millis
  wall : Timestamp
  site : Site α
  gateway : Gateway α

namespace Scene

/-- A new connection. -/
def start (now : Millis) (wall : Timestamp) (site : Site α) : Scene α :=
  ⟨now, wall, site, .start now⟩

def registry (s : Scene α) : Registry α := s.site.kernel.registry

def owned? (s : Scene α) : Option Registration := s.gateway.owned?

/-- One event; none if it is not enabled. -/
def step (s : Scene α) : Event α → Option (Scene α)
  | .step choice =>
    (s.gateway.step s.now s.wall s.site choice).map fun (gateway, site) => { s with gateway, site }
  | .call c => some { s with site := s.site.withRegistry (s.registry.perform c) }
  | .world now wall store link =>
    some { s with now, wall, site := ⟨⟨s.registry, store⟩, link⟩ }

/-- Any number of events, the first one first. -/
def run (s : Scene α) (events : List (Event α)) : Option (Scene α) := events.foldlM step s

@[simp] theorem run_nil (s : Scene α) : s.run [] = some s := rfl

theorem run_snoc (s : Scene α) (events : List (Event α)) (e : Event α) :
    s.run (events ++ [e]) = (s.run events).bind fun s => s.step e := by
  unfold run
  rw [List.foldlM_append]
  cases events.foldlM step s with
  | none => rfl
  | some s' =>
    show (s'.step e).bind some = s'.step e
    exact Option.bind_fun_some _

end Scene

/-- What the others called. -/
def others : List (Event α) → List (Call α)
  | [] => []
  | .call c :: events => c :: others events
  | _ :: events => others events

theorem others_append (events events' : List (Event α)) :
    others (events ++ events') = others events ++ others events' := by
  induction events with
  | nil => rfl
  | cons e events ih => cases e <;> simp [others, ih]

/-- How a connection ends, with its result if it has one, and the registry that it leaves. -/
inductive Ends (s : Scene α) : Option (Except DeviceFault ScooterId) → Registry α → Prop
  | returns (choice : Choice) {result : Except DeviceFault ScooterId} {site : Site α}
      (last : s.gateway.step s.now s.wall s.site choice = some (.finished result, site)) :
      Ends s (some result) site.kernel.registry
  /-- Its task is dropped, at whatever it waits for. -/
  | dropped (unfinished : s.gateway.result? = none) :
      Ends s none (s.gateway.cancel s.site).kernel.registry

/-! ### Before the end -/

/-- Behind this run, somebody else claims a slot while the connection goes on. -/
def ClaimedBy (s₀ : Scene α) (before : List (Event α)) (c : Call α) (g : Registration) : Prop :=
  ∃ s, s₀.run before = some s ∧ s.registry.granted? c = some g

/-- Behind this run, the connection claims a slot. -/
def Claims (s₀ : Scene α) (before : List (Event α)) (choice : Choice) (owned : Registration) : Prop :=
  ∃ s s' c, s₀.run before = some s ∧ s.owned? = none ∧ s.step (.step choice) = some s' ∧
    s.registry.granted? c = some owned ∧ s'.registry = s.registry.perform c

/-- The slot of a scooter belongs to this registration, or to one that others claimed behind a run. -/
def Kept (s₀ : Scene α) (before back : List (Event α)) (r : Registry α) (owned : Registration) :
    Prop :=
  ∀ g, r.owner owned.scooter = some g → g = owned ∨
    ∃ mid c rest, back = mid ++ .call c :: rest ∧ ClaimedBy s₀ (before ++ mid) c g

theorem Kept.snoc {s₀ : Scene α} {before back : List (Event α)} {r r' : Registry α}
    {owned : Registration} (h : Kept s₀ before back r owned) (e : Event α)
    (ho : r'.owner owned.scooter = r.owner owned.scooter) :
    Kept s₀ before (back ++ [e]) r' owned := by
  intro g hg
  rw [ho] at hg
  rcases h g hg with rfl | ⟨mid, c, rest, rfl, claim⟩
  · exact .inl rfl
  · exact .inr ⟨mid, c, rest ++ [e], by simp, claim⟩

/-- What is known of a connection. -/
inductive Story (s₀ : Scene α) (events : List (Event α)) (s : Scene α) : Prop
  /-- It holds no slot, and only others have called. -/
  | outside (free : s.owned? = none) (unserved : ∀ id, s.gateway.result? ≠ some (.ok id))
      (registry : s.registry = s₀.registry.run (others events))
  | inside (owned : Registration) (holds : s.owned? = some owned) (before : List (Event α))
      (choice : Choice) (back : List (Event α)) (split : events = before ++ .step choice :: back)
      (claims : Claims s₀ before choice owned)
      (kept : Kept s₀ (before ++ [.step choice]) back s.registry owned)
  | ended (result : Except DeviceFault ScooterId) (finished : s.gateway = .finished result)

/-- The own calls of a connection leave all slots as they are. -/
theorem owner_perform_of_own {r : Registry α} {c : Call α} {owned : Registration}
    (own : c.IsOwn owned) (id : ScooterId) : (r.perform c).owner id = r.owner id := by
  cases turnover_perform r c with
  | kept grant stays fresh owners => exact owners id
  | claimed g grant free number fresh owners =>
    cases c <;> first | exact own.elim | cases grant
  | freed id' grant removes fresh owners =>
    cases c <;> first | exact own.elim | exact removes.elim

/-- One step of the connection, from a state without a slot. -/
theorem story_of_outside {s₀ s s' : Scene α} {events : List (Event α)} {choice : Choice}
    {calls : List (Call α)} (hrun : s₀.run events = some s) (hstep : s.step (.step choice) = some s')
    (free : s.owned? = none) (registry : s.registry = s₀.registry.run (others events))
    (h : Conducts s.registry s.gateway s'.gateway calls s'.registry) :
    Story s₀ (events ++ [.step choice]) s' := by
  have hothers : others (events ++ [.step choice]) = others events := by
    rw [others_append]
    exact List.append_nil _
  obtain ⟨conduct, hregistry⟩ := h
  generalize hg : s.gateway = g at conduct
  generalize hg' : s'.gateway = g' at conduct
  have hfree : g.owned? = none := hg ▸ free
  cases conduct with
  | outside before after unserved =>
    refine .outside ?_ (hg' ▸ unserved) ?_
    · show s'.gateway.owned? = none
      rw [hg', after]
    · rw [hothers, ← registry, hregistry, run_nil]
  | @claims _ _ c owned before grant after =>
    refine .inside owned ?_ events choice [] rfl ?_ ?_
    · show s'.gateway.owned? = some owned
      rw [hg', after]
    · exact ⟨s, s', c, hrun, free, hstep, grant, hregistry⟩
    · intro g ho
      have hgrant : (s.registry.perform c).owner owned.scooter = some owned :=
        owner_perform_iff.mpr (.inl ⟨grant, rfl⟩)
      rw [hregistry, run_cons, run_nil, hgrant] at ho
      exact .inl (Option.some.inj ho).symm
  | idles before after =>
    rw [hfree] at before
    cases before
  | serves before after own =>
    rw [hfree] at before
    cases before
  | frees => cases hfree

/-- One step of the connection, from a state with a slot. -/
theorem story_of_inside {s₀ s s' : Scene α} {events before back : List (Event α)}
    {choice choice' : Choice} {owned : Registration} {calls : List (Call α)}
    (holds : s.owned? = some owned) (split : events = before ++ .step choice :: back)
    (claims : Claims s₀ before choice owned)
    (kept : Kept s₀ (before ++ [.step choice]) back s.registry owned)
    (h : Conducts s.registry s.gateway s'.gateway calls s'.registry) :
    Story s₀ (events ++ [.step choice']) s' := by
  have hsplit : events ++ [.step choice'] = before ++ .step choice :: (back ++ [.step choice']) := by
    rw [split, List.append_assoc, List.cons_append]
  obtain ⟨conduct, hregistry⟩ := h
  generalize hg : s.gateway = g at conduct
  generalize hg' : s'.gateway = g' at conduct
  have hholds : g.owned? = some owned := hg ▸ holds
  cases conduct with
  | outside free after =>
    rw [hholds] at free
    cases free
  | claims free grant after =>
    rw [hholds] at free
    cases free
  | idles same after =>
    rw [hholds] at same
    cases same
    refine .inside owned ?_ before choice _ hsplit claims (kept.snoc _ ?_)
    · show s'.gateway.owned? = some owned
      rw [hg', after]
    · rw [hregistry, run_nil]
  | serves same after own =>
    rw [hholds] at same
    cases same
    refine .inside owned ?_ before choice _ hsplit claims (kept.snoc _ ?_)
    · show s'.gateway.owned? = some owned
      rw [hg', after]
    · rw [hregistry, run_cons, run_nil, owner_perform_of_own own]
  | @frees owned' result => exact .ended _ hg'

/-- A call of anybody else. -/
theorem story_of_call {s₀ s : Scene α} {events : List (Event α)} {c : Call α}
    (hrun : s₀.run events = some s) (story : Story s₀ events s) :
    Story s₀ (events ++ [.call c])
      { s with site := s.site.withRegistry (s.registry.perform c) } := by
  cases story with
  | outside free unserved registry =>
    refine .outside free unserved ?_
    rw [others_append, run_append, ← registry]
    rfl
  | inside owned holds before choice back split claims kept =>
    refine .inside owned holds before choice (back ++ [.call c]) (by rw [split]; simp) claims ?_
    intro g ho
    -- a new owner was granted the slot by this very call
    rcases owner_perform_iff.mp ho with ⟨grant, -⟩ | ⟨hold, -, -⟩
    · refine .inr ⟨back, c, [], rfl, s, ?_, grant⟩
      rw [List.append_assoc]
      exact split ▸ hrun
    · exact kept.snoc (.call c) rfl g hold
  | ended result finished => exact .ended result finished

/-- **One event continues the story.** -/
theorem story_step {s₀ s s' : Scene α} {events : List (Event α)} {e : Event α}
    (hrun : s₀.run events = some s) (story : Story s₀ events s) (h : s.step e = some s') :
    Story s₀ (events ++ [e]) s' := by
  cases e with
  | step choice =>
    have hstep := h
    simp only [Scene.step, Option.map_eq_some_iff, Prod.exists] at h
    obtain ⟨g', site, hg, rfl⟩ := h
    obtain ⟨calls, hc⟩ := conduct_of_step hg
    cases story with
    | outside free unserved registry => exact story_of_outside hrun hstep free registry hc
    | inside owned holds before choice back split claims kept =>
      exact story_of_inside holds split claims kept hc
    | ended result finished =>
      rw [finished] at hg
      cases choice <;> cases hg
  | call c =>
    cases h
    exact story_of_call hrun story
  | world now wall store link =>
    cases h
    cases story with
    | outside free unserved registry =>
      refine .outside free unserved ?_
      rw [others_append]
      exact registry.trans (congrArg _ (List.append_nil _).symm)
    | inside owned holds before choice back split claims kept =>
      refine .inside owned holds before choice (back ++ [.world now wall store link]) ?_ claims
        (kept.snoc _ rfl)
      rw [split, List.append_assoc, List.cons_append]
    | ended result finished => exact .ended result finished

/-- **What is known of a connection at any time.**  By induction over the run, from its end. -/
theorem story_run {s₀ s : Scene α} (free : s₀.owned? = none)
    (unserved : ∀ id, s₀.gateway.result? ≠ some (.ok id)) {events : List (Event α)}
    (hrun : s₀.run events = some s) : Story s₀ events s := by
  induction events using List.reverseRecOn generalizing s with
  | nil =>
    cases hrun
    exact .outside free unserved rfl
  | append_singleton events e ih =>
    rw [Scene.run_snoc] at hrun
    obtain ⟨s', hs', hstep⟩ := Option.bind_eq_some_iff.mp hrun
    exact story_step hs' (ih hs') hstep

/-! ### The end -/

/-- What a connection leaves when it frees its slot. -/
structure Vacates (r : Registry α) (owned : Registration) (r' : Registry α) : Prop where
  freed : r'.owner owned.scooter ≠ some owned
  /-- What was still its own is free, and the trip that was pending there is interrupted. -/
  interrupted : r.owns owned = true → r'.sessions.get? owned.scooter = none ∧
    r'.trips.get? owned.scooter = none ∧
    ∀ p, r.trips.get? owned.scooter = some p → r'.resolutions.get? p.trip =
      some ⟨p.ticks, .interrupted p.ticks (r.lastPosition owned.scooter)⟩
  /-- What was no longer its own stays, with the newer session and its trip. -/
  newer : r.owns owned = false → r'.sessions = r.sessions ∧ r'.trips = r.trips ∧
    r'.resolutions = r.resolutions
  elsewhere : ∀ id, id ≠ owned.scooter →
    r'.sessions.get? id = r.sessions.get? id ∧ r'.trips.get? id = r.trips.get? id
  /-- No other waiter is told anything. -/
  signals : ∀ trip,
    (∀ p, r.owns owned = true → r.trips.get? owned.scooter = some p → p.trip ≠ trip) →
    r'.resolutions.get? trip = r.resolutions.get? trip
  commands : ∀ n, n ≠ owned.connection → r'.queues.get? n = r.queues.get? n
  seen : r'.live = r.live
  shown : r'.hub = r.hub

/-- The connection frees a slot that is no longer its own. -/
theorem vacates_of_not_owns {r : Registry α} {owned : Registration} (ho : r.owns owned = false) :
    Vacates r owned (r.dropQueue owned.connection) where
  freed := fun h => by
    have howns : r.owns owned = true := owns_iff.mpr h
    rw [ho] at howns
    cases howns
  interrupted := fun h => by
    rw [ho] at h
    cases h
  newer := fun _ => ⟨rfl, rfl, rfl⟩
  elsewhere := fun _ _ => ⟨rfl, rfl⟩
  signals := fun _ _ => rfl
  commands := fun _ hn => Table.get?_erase_of_ne r.queues hn.symm
  seen := rfl
  shown := rfl

/-- The registration that owns a slot is the slot's. -/
theorem session_of_owns {r : Registry α} {owned : Registration} (ho : r.owns owned = true) :
    ∃ slot, r.sessions.get? owned.scooter = some slot ∧ slot.connection = owned.connection := by
  obtain ⟨slot, hs, hg⟩ := Option.map_eq_some_iff.mp (owns_iff.mp ho)
  exact ⟨slot, hs, congrArg Registration.connection hg⟩

/-- What an interruption leaves of the trips and for the waiters. -/
theorem interrupt_leaves (r : Registry α) (id : ScooterId) :
    (r.interrupt id).trips.get? id = none ∧
      (∀ p, r.trips.get? id = some p → (r.interrupt id).resolutions.get? p.trip =
        some ⟨p.ticks, .interrupted p.ticks (r.lastPosition id)⟩) ∧
      (∀ id', id' ≠ id → (r.interrupt id).trips.get? id' = r.trips.get? id') ∧
      (∀ trip, (∀ p, r.trips.get? id = some p → p.trip ≠ trip) →
        (r.interrupt id).resolutions.get? trip = r.resolutions.get? trip) ∧
      (r.interrupt id).queues = r.queues ∧ (r.interrupt id).hub = r.hub := by
  cases hp : r.trips.get? id with
  | none =>
    rw [interrupt_of_none hp]
    exact ⟨hp, nofun, fun _ _ => rfl, fun _ _ => rfl, rfl, rfl⟩
  | some p =>
    rw [interrupt_of_pending hp]
    refine ⟨Table.get?_erase_self r.trips id, ?_, ?_, ?_, rfl, rfl⟩
    · intro p' hp'
      cases hp'
      exact Table.get?_insert_self r.resolutions p.trip _
    · intro id' hid
      exact Table.get?_erase_of_ne r.trips hid.symm
    · intro trip ht
      exact Table.get?_insert_of_ne r.resolutions _ (ht p rfl)

/-- The connection frees a slot that is its own. -/
theorem vacates_of_owns {r : Registry α} {owned : Registration} (ho : r.owns owned = true) :
    Vacates r owned ((r.unregister owned.scooter).dropQueue owned.connection) := by
  obtain ⟨slot, hs, hn⟩ := session_of_owns ho
  have hseat := unregister_of_session hs
  obtain ⟨hgone, htold, htrips, hsignals, hqueues, hhub⟩ :=
    interrupt_leaves (r.unseat owned.scooter slot) owned.scooter
  have hsessions : (r.unregister owned.scooter).sessions = r.sessions.erase owned.scooter := by
    rw [hseat, interrupt_sessions]
    rfl
  rw [← hseat] at hgone htold htrips hsignals hqueues hhub
  refine ⟨?_, fun _ => ⟨?_, hgone, htold⟩, ?_, ?_, ?_, ?_, live_unregister r owned.scooter, hhub⟩
  · show (r.unregister owned.scooter).owner owned.scooter ≠ some owned
    rw [owner_unregister, if_pos rfl]
    exact nofun
  · show (r.unregister owned.scooter).sessions.get? owned.scooter = none
    rw [hsessions]
    exact Table.get?_erase_self r.sessions owned.scooter
  · intro hno
    rw [ho] at hno
    cases hno
  · intro id hid
    refine ⟨?_, htrips id hid⟩
    show (r.unregister owned.scooter).sessions.get? id = r.sessions.get? id
    rw [hsessions]
    exact Table.get?_erase_of_ne r.sessions hid.symm
  · exact fun trip ht => hsignals trip fun p hp => ht p ho hp
  · intro n hne
    show ((r.unregister owned.scooter).queues.erase owned.connection).get? n = r.queues.get? n
    rw [Table.get?_erase_of_ne _ hne.symm, hqueues]
    show (r.queues.modify slot.connection Channel.finish).get? n = r.queues.get? n
    rw [Table.get?_modify, if_neg fun he => hne (he.symm.trans hn)]

/-- **A connection frees its own slot and nothing else.** -/
theorem vacates_free (r : Registry α) (owned : Registration) :
    Vacates r owned (r.run [.release owned, .dropQueue owned.connection]) := by
  show Vacates r owned ((r.release owned).dropQueue owned.connection)
  cases ho : r.owns owned with
  | true => exact release_of_owns ho ▸ vacates_of_owns ho
  | false => exact (release_of_not_owns ho).symm ▸ vacates_of_not_owns ho

/-- Whoever has the slot when it was freed is somebody else, who claimed it. -/
theorem Kept.vacated {s₀ : Scene α} {before back : List (Event α)} {r r' : Registry α}
    {owned g : Registration} (kept : Kept s₀ before back r owned) (h : Vacates r owned r')
    (hg : r'.owner owned.scooter = some g) :
    g ≠ owned ∧ ∃ mid c rest, back = mid ++ .call c :: rest ∧ ClaimedBy s₀ (before ++ mid) c g := by
  have hne : g ≠ owned := fun he => h.freed (he ▸ hg)
  have hold : r.owner owned.scooter = some g := by
    cases ho : r.owns owned with
    | true =>
      rw [owner, (h.interrupted ho).1] at hg
      cases hg
    | false =>
      rw [owner, (h.newer ho).1] at hg
      exact hg
  rcases kept g hold with he | claimed
  · exact absurd he hne
  · exact ⟨hne, claimed⟩

/-- Nothing ends twice. -/
theorem Ends.ne_finished {s : Scene α} {answer : Option (Except DeviceFault ScooterId)}
    {r' : Registry α} (h : Ends s answer r') (result : Except DeviceFault ScooterId) :
    s.gateway ≠ .finished result := by
  intro finished
  cases h with
  | returns choice last =>
    rw [finished] at last
    cases choice <;> cases last
  | dropped unfinished =>
    rw [finished] at unfinished
    cases unfinished

/-- The registry at the end: a slot that is held is freed, and otherwise nothing is called. -/
theorem Ends.registry {s : Scene α} {answer : Option (Except DeviceFault ScooterId)}
    {r' : Registry α} (h : Ends s answer r') :
    (s.owned? = none → r' = s.registry ∧ ∀ id, answer ≠ some (.ok id)) ∧
      ∀ owned, s.owned? = some owned →
        r' = s.registry.run [.release owned, .dropQueue owned.connection] ∧
          ∀ id, answer = some (.ok id) → id = owned.scooter := by
  cases h with
  | @returns choice result site last =>
    obtain ⟨calls, conduct, hregistry⟩ := conduct_of_step last
    generalize hg : s.gateway = g at conduct
    generalize hg' : Gateway.finished result = g' at conduct
    have howned : s.owned? = g.owned? := congrArg owned? hg
    rw [howned]
    cases conduct with
    | outside before after unserved =>
      subst hg'
      rw [before]
      refine ⟨fun _ => ⟨hregistry, fun id he => ?_⟩, nofun⟩
      exact unserved id (congrArg some (Option.some.inj he))
    | claims before grant after => subst hg'; cases after
    | idles before after => subst hg'; cases after
    | serves before after own => subst hg'; cases after
    | @frees owned result' =>
      cases hg'
      refine ⟨nofun, fun owned' he => ?_⟩
      cases he
      refine ⟨hregistry, fun id hid => ?_⟩
      cases result' with
      | ok => cases hid; rfl
      | error fault => cases hid
  | dropped unfinished =>
    rw [registry_cancel]
    show (s.gateway.owned? = none → _) ∧ ∀ owned, s.gateway.owned? = some owned → _
    cases s.gateway.owned? with
    | none => exact ⟨fun _ => ⟨rfl, nofun⟩, nofun⟩
    | some owned =>
      refine ⟨nofun, fun owned' he => ?_⟩
      cases he
      exact ⟨rfl, nofun⟩

/-- **However a connection ends, it frees its own slot and nothing else.**  Whatever has come up before,
whatever the others called, and whatever became of the clocks, the store and the link in between: when
the connection returns, or its task is dropped,

* and it has claimed nothing, then the registry has what the others called for, nothing else has
  changed, and no scooter was served;
* and it has claimed a slot, by the one claim at this place of the run, then the slot is free, unless
  somebody else has claimed it behind that place; a trip that was pending on its own slot is gone, and its
  waiter finds how many positions were counted and where the scooter was seen last; and whatever belongs
  to other scooters, to other connections or to a newer session of the same scooter stays as it was. -/
theorem farewell (now : Millis) (wall : Timestamp) (site : Site α) (events : List (Event α))
    (s : Scene α) (run : (Scene.start now wall site).run events = some s)
    (answer : Option (Except DeviceFault ScooterId)) (r' : Registry α) (ends : Ends s answer r') :
    (s.owned? = none →
      r' = site.kernel.registry.run (others events) ∧ ∀ id, answer ≠ some (.ok id)) ∧
    ∀ owned, s.owned? = some owned →
      (∃ before choice back, events = before ++ .step choice :: back ∧
        Claims (.start now wall site) before choice owned ∧
        ∀ g, r'.owner owned.scooter = some g → g ≠ owned ∧
          ∃ mid c rest, back = mid ++ .call c :: rest ∧
            ClaimedBy (.start now wall site) (before ++ .step choice :: mid) c g) ∧
      Vacates s.registry owned r' ∧ ∀ id, answer = some (.ok id) → id = owned.scooter := by
  have unserved : ∀ id, (Scene.start now wall site).gateway.result? ≠ some (.ok id) := fun _ => nofun
  have story : Story (.start now wall site) events s := story_run rfl unserved run
  obtain ⟨hnone, hsome⟩ := ends.registry
  constructor
  · intro free
    obtain ⟨hregistry, hanswer⟩ := hnone free
    refine ⟨?_, hanswer⟩
    cases story with
    | outside _ _ registry => exact hregistry.trans registry
    | inside owned holds => rw [free] at holds; cases holds
    | ended result finished => exact absurd finished (ends.ne_finished result)
  · intro owned holds
    obtain ⟨hregistry, hanswer⟩ := hsome owned holds
    have hvacates : Vacates s.registry owned r' := hregistry ▸ vacates_free s.registry owned
    refine ⟨?_, hvacates, hanswer⟩
    cases story with
    | outside free => rw [free] at holds; cases holds
    | ended result finished => exact absurd finished (ends.ne_finished result)
    | inside owned' holds' before choice back split claims kept =>
      rw [holds] at holds'
      cases holds'
      refine ⟨before, choice, back, split, claims, fun g hg => ?_⟩
      obtain ⟨hne, mid, c, rest, hback, claim⟩ := kept.vacated hvacates hg
      rw [List.append_assoc] at claim
      exact ⟨hne, mid, c, rest, hback, claim⟩

/-- A device that says hello, reports one position and hangs up. -/
def briefVisit : Site Int where
  kernel := ⟨.create (.create 8), .seeded [⟨1, "Segway", ⟨0, 0⟩, 80, none⟩] []⟩
  link := ⟨⟨[.ok (.hello (some 1)), .ok (.telemetry ⟨1, ⟨3, 4⟩⟩)], none, true, false, none⟩, .unbounded⟩

/-- While it is connected, a trip begins. -/
def visit : List (Event Int) :=
  [.step .inbound, .step .proceed, .step .proceed, .step .proceed, .step .proceed, .step .proceed,
    .call (.begin 1 (.ofNat 7)), .step .inbound, .step .proceed, .step .inbound]

theorem farewell_briefVisit :
    let noon : Timestamp := ⟨2024, 5, 1, 12, 0, 0, 0, 0⟩
    ∃ s r', (Scene.start 0 noon briefVisit).run visit = some s ∧ Ends s (some (.ok 1)) r' ∧
      s.owned? = some ⟨1, 0⟩ ∧ r'.isConnected 1 = false ∧ r'.trips.get? 1 = none ∧
      r'.resolutions.get? (.ofNat 7) = some ⟨1, .interrupted 1 (some ⟨3, 4⟩)⟩ := by
  intro noon
  obtain ⟨s, run, hgateway, howns, htrip, hlast⟩ : ∃ s, (Scene.start 0 noon briefVisit).run visit =
      some s ∧ s.gateway = .leaving ⟨1, 0⟩ (.ok ()) ∧ s.registry.owns ⟨1, 0⟩ = true ∧
      s.registry.trips.get? 1 = some ⟨.ofNat 7, 1⟩ ∧ s.registry.lastPosition 1 = some ⟨3, 4⟩ := by
    refine ⟨_, rfl, ?_⟩
    exact ⟨rfl, rfl, rfl, rfl⟩
  have last : s.gateway.step s.now s.wall s.site .proceed =
      some (finish (s.site.free ⟨1, 0⟩) (.ok 1)) := by rw [hgateway]; rfl
  have holds : s.owned? = some ⟨1, 0⟩ := congrArg owned? hgateway
  have ends := Ends.returns .proceed last
  have vacates := ((farewell 0 noon briefVisit visit s run _ _ ends).2 ⟨1, 0⟩ holds).2.1
  obtain ⟨hfree, hgone, htold⟩ := vacates.interrupted howns
  refine ⟨s, _, run, ends, holds, ?_, hgone, hlast ▸ htold ⟨.ofNat 7, 1⟩ htrip⟩
  rw [isConnected, Table.contains, hfree]
  rfl

end Gateway
end ScooterFleet
