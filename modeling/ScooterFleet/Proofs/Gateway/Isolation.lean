import ScooterFleet.Link.Socket
import ScooterFleet.Proofs.Gateway.Intake

/-!
# What does not matter to a connection

What neither ends a connection nor counts for its scooter is noise: reports under other numbers, frames
that are no reports, and what is no frame.

* `Input.isNoise` / `Input.essence` — what comes up, without noise;
* `SocketEvent.matters` / `essence_filterMap` — the same of what comes over a websocket;
* `intake_essence`, `intake_padded` — noise can be taken out of what comes up, and put in anywhere;
* `own_scooter_only` — **a connection influences its own scooter only, and noise does not matter.**
-/

namespace ScooterFleet

open Registry Input Gateway

variable {α : Type}

/-! ### Noise -/

namespace Input

/-- It neither ends the connection nor counts for it. -/
def isNoise (owned : Registration) (x : Input α) : Bool := (verdict? x).isNone && (own? owned x).isNone

/-- What is left without noise. -/
def essence (owned : Registration) (xs : List (Input α)) : List (Input α) :=
  xs.filter fun x => !isNoise owned x

end Input

/-- What comes over a websocket: messages, until it is finished or breaks. -/
inductive SocketEvent where
  | message (m : SocketMessage)
  | broken (detail : String)
  | finished

/-- What a source of frames makes of it; nothing, if it goes over it. -/
def SocketEvent.input? (decode : String → Except Json.Fault (DeviceFrame α)) :
    SocketEvent → Option (Input α)
  | .message m =>
    match m.reception decode with
    | .frame frame => some (some frame)
    | .nothing => none
    | .ended => some none
  | .broken detail => some (some (.error (.transport detail)))
  | .finished => some none

/-- It ends the connection, or counts for it. -/
def SocketEvent.matters (decode : String → Except Json.Fault (DeviceFrame α)) (owned : Registration)
    (e : SocketEvent) : Bool :=
  (e.input? decode).any fun x => !isNoise owned x

theorem essence_filterMap (decode : String → Except Json.Fault (DeviceFrame α)) (owned : Registration)
    (es : List SocketEvent) : essence owned (es.filterMap (SocketEvent.input? decode)) =
      (es.filter (SocketEvent.matters decode owned)).filterMap (SocketEvent.input? decode) := by
  induction es with
  | nil => rfl
  | cons e es ih =>
    unfold essence at ih ⊢
    cases hx : e.input? decode with
    | none =>
      have hm : e.matters decode owned = false := by rw [SocketEvent.matters, hx]; rfl
      rw [List.filterMap_cons_none hx, List.filter_cons_of_neg (by simp [hm]), ih]
    | some x =>
      have hm : e.matters decode owned = !isNoise owned x := by rw [SocketEvent.matters, hx]; rfl
      rw [List.filterMap_cons_some hx]
      cases hn : isNoise owned x with
      | true =>
        rw [List.filter_cons_of_neg (by simp [hn]), List.filter_cons_of_neg (by simp [hm, hn]), ih]
      | false =>
        rw [List.filter_cons_of_pos (by simp [hn]), List.filter_cons_of_pos (by simp [hm, hn]),
          List.filterMap_cons_some hx, ih]

/-! ### Without noise -/

section Noise

variable {owned : Registration} {r₀ r : Registry α} {xs : List (Input α)} {acts : List (Act α)}
  {g : Gateway α}

/-- Where a connection is if it did not listen to noise. -/
def calm (owned : Registration) : Gateway α → Gateway α
  | .hearing _ frame =>
    if isNoise owned (some (.ok frame)) then .serving owned else .hearing owned frame
  | g => g

theorem calm_reaction (owned : Registration) (x : Input α) :
    calm owned (reaction owned x) = if isNoise owned x then .serving owned else reaction owned x := by
  match x with
  | none | some (.error .closed) | some (.error (.transport _)) => rfl
  | some (.ok frame) => rfl
  | some (.error (.encoding _)) => rfl

theorem serves_calm (work : g.Serves owned) : (calm owned g).Serves owned := by
  rcases serves_iff.mp work with rfl | ⟨command, rfl⟩ | ⟨frame, rfl⟩
  · rfl
  · rfl
  · simp only [calm]
    split <;> rfl

theorem essence_snoc (owned : Registration) (xs : List (Input α)) (x : Input α) :
    essence owned (xs ++ [x]) =
      if isNoise owned x then essence owned xs else essence owned xs ++ [x] := by
  unfold essence
  rw [List.filter_append]
  cases hx : isNoise owned x <;> simp [hx]

theorem report?_of_noise {wall : Timestamp} {frame : DeviceFrame α}
    (h : isNoise owned (some (.ok frame)) = true) : report? wall owned frame = none := by
  cases frame with
  | hello scooter => rfl
  | telemetry m =>
    simp only [report?]
    split
    · next hm => simp [isNoise, verdict?, own?, hm] at h
    · rfl
  | tripEnded report =>
    simp only [report?]
    split
    · next hm => simp [isNoise, verdict?, own?, hm] at h
    · rfl

/-- **Noise can be taken out of what comes up.** -/
theorem intake_essence (h : Intake owned r₀ xs acts g r) :
    Intake owned r₀ (essence owned xs) acts (calm owned g) r := by
  induction h with
  | start => exact .start
  | others c run work spares ih => exact .others c ih (serves_calm work) spares
  | views change run work ih => exact .views change ih (serves_calm work)
  | @goes xs acts g r now wall store link choice next run work step ih =>
    have move := works_of_step work step
    obtain ⟨g', s'⟩ := next
    dsimp only at move ⊢
    -- wherever noise makes no difference, the step can be taken without it
    have same : calm owned g = g → Intake owned r₀ (essence owned xs ++ taken link choice)
        (acts ++ g.acts wall g') g' s'.kernel.registry := by
      intro hg
      rw [hg] at ih
      exact .goes ih work step
    generalize taken link choice = ys at move same ⊢
    generalize g.acts wall g' = new at move same ⊢
    generalize s'.kernel.registry = r' at move same ⊢
    cases move with
    | hears x =>
      rw [essence_snoc, calm_reaction]
      split
      · rwa [List.append_nil]
      · exact same rfl
    | takes | removed | sends | fails => simpa only [List.append_nil, calm] using same rfl
    | applies wall' frame =>
      rw [List.append_nil]
      simp only [calm] at ih same
      split at ih
      · next hn =>
        rw [apply_eq, report?_of_noise hn]
        simpa [enactAll, calm] using ih
      · next hn => simpa only [List.append_nil, calm] using same (if_neg hn)

/-! ### Any input can come -/

/-- A link over which this comes next. -/
def Link.offering : Input α → Link α
  | some m => ⟨⟨[m], none, false, false, none⟩, .unbounded⟩
  | none => ⟨Channel.unbounded.finish, .unbounded⟩

theorem Link.input?_offering (x : Input α) : (Link.offering x).input? = some x := by
  cases x <;> rfl

/-- Whatever comes up, it is heard. -/
theorem Intake.hear (run : Intake owned r₀ xs acts (.serving owned) r) (x : Input α) :
    Intake owned r₀ (xs ++ [x]) acts (reaction owned x) r := by
  have wall : Timestamp := ⟨0, 0, 0, 0, 0, 0, 0, 0⟩
  have hstep : ∃ site : Gateway.Site α, site.kernel.registry = r ∧
      (Gateway.serving owned).step 0 wall ⟨⟨r, .seeded [] []⟩, Link.offering x⟩ .inbound =
        some (reaction owned x, site) := by
    cases x with
    | none => exact ⟨_, rfl, rfl⟩
    | some m => exact ⟨_, rfl, congrArg some (hear_eq owned _ m)⟩
  obtain ⟨site, hsite, hstep⟩ := hstep
  have next := Intake.goes run rfl hstep
  simpa [taken, Link.input?_offering, acts_reaction, hsite] using next

/-- What is heard is done with. -/
theorem Intake.answer {frame : DeviceFrame α} (run : Intake owned r₀ xs acts (.hearing owned frame) r)
    (wall : Timestamp) :
    Intake owned r₀ xs (acts ++ ((report? wall owned frame).map Act.own).toList) (.serving owned)
      (apply wall owned r frame) := by
  have hstep : (Gateway.hearing owned frame).step 0 wall ⟨⟨r, .seeded [] []⟩, Link.offering none⟩
      .proceed = some (.serving owned, _) := rfl
  have next := Intake.goes run rfl hstep
  rwa [taken, if_neg (by decide), List.append_nil] at next

/-- Noise leaves everything as it is. -/
theorem Intake.pass (run : Intake owned r₀ xs acts (.serving owned) r) {noise : List (Input α)}
    (h : ∀ y ∈ noise, isNoise owned y = true) :
    Intake owned r₀ (xs ++ noise) acts (.serving owned) r := by
  induction noise using List.reverseRecOn with
  | nil => rwa [List.append_nil]
  | append_singleton noise y ih =>
    have before := ih fun z hz => h z (List.mem_append_left _ hz)
    have hy : isNoise owned y = true := h y (by simp)
    have next := before.hear y
    rw [← List.append_assoc]
    match y with
    | some (.ok frame) =>
      have done := next.answer ⟨0, 0, 0, 0, 0, 0, 0, 0⟩
      rwa [apply_eq, report?_of_noise hy, Option.map_none, Option.toList_none, List.append_nil] at done
    | some (.error (.encoding _)) => exact next
    | none | some (.error .closed) | some (.error (.transport _)) => cases hy

theorem isNoise_of_essence_eq_nil {noise : List (Input α)} (h : essence owned noise = []) :
    ∀ y ∈ noise, isNoise owned y = true := by
  intro y hy
  simpa using List.filter_eq_nil_iff.mp h y hy

/-- What comes last of what matters, and the noise around it. -/
theorem essence_eq_snoc {ys : List (Input α)} {x : Input α} (h : essence owned ys = xs ++ [x]) :
    ∃ front noise noise', ys = front ++ noise ++ x :: noise' ∧ essence owned front = xs ∧
      (∀ y ∈ noise, isNoise owned y = true) ∧ ∀ y ∈ noise', isNoise owned y = true := by
  obtain ⟨front, back, rfl, hfront, hback⟩ := List.filter_eq_append_iff.mp h
  obtain ⟨noise, noise', rfl, hnoise, -, hnoise'⟩ := List.filter_eq_cons_iff.mp hback
  refine ⟨front, noise, noise', by simp, hfront, ?_, isNoise_of_essence_eq_nil hnoise'⟩
  intro y hy
  simpa using hnoise y hy

/-- **Noise can come anywhere.** -/
theorem intake_padded (h : Intake owned r₀ xs acts g r) {ys : List (Input α)}
    (hys : essence owned ys = xs) :
    ∃ front noise, ys = front ++ noise ∧ (∀ y ∈ noise, isNoise owned y = true) ∧
      Intake owned r₀ front acts g r := by
  induction h generalizing ys with
  | start => exact ⟨[], ys, rfl, isNoise_of_essence_eq_nil hys, .start⟩
  | others c run work spares ih =>
    obtain ⟨front, noise, rfl, hnoise, hrun⟩ := ih hys
    exact ⟨front, noise, rfl, hnoise, .others c hrun work spares⟩
  | views change run work ih =>
    obtain ⟨front, noise, rfl, hnoise, hrun⟩ := ih hys
    exact ⟨front, noise, rfl, hnoise, .views change hrun work⟩
  | @goes xs acts g r now wall store link choice next run work step ih =>
    have move := works_of_step work step
    obtain ⟨g', s'⟩ := next
    dsimp only at move ⊢
    have same : ∀ {front}, Intake owned r₀ front acts g r →
        Intake owned r₀ (front ++ taken link choice) (acts ++ g.acts wall g') g' s'.kernel.registry :=
      fun run => .goes run work step
    generalize taken link choice = zs at hys move same
    generalize g.acts wall g' = new at move same ⊢
    generalize s'.kernel.registry = r' at move same ⊢
    cases move with
    | hears x =>
      obtain ⟨front, noise, noise', rfl, hfront, hnoise, hnoise'⟩ := essence_eq_snoc hys
      obtain ⟨front, between, rfl, hbetween, hrun⟩ := ih hfront
      have reach := same ((hrun.pass hbetween).pass hnoise)
      exact ⟨_, noise', by simp, hnoise', reach⟩
    | takes | removed | sends | fails | applies =>
      rw [List.append_nil] at hys
      obtain ⟨front, noise, rfl, hnoise, hrun⟩ := ih hys
      have reach := same hrun
      rw [List.append_nil] at reach
      exact ⟨front, noise, rfl, hnoise, reach⟩

end Noise

/-! ### The result -/

/-- A connection that is given this ends in this way: it hears all of it, or as much as comes before a
command that it cannot send. -/
def Concludes (owned : Registration) (r₀ : Registry α) (xs : List (Input α)) (acts : List (Act α))
    (result : Except DeviceFault Unit) (r : Registry α) : Prop :=
  ∃ heard, heard <+: xs ∧ Intake owned r₀ heard acts (.leaving owned result) r

section Result

variable {owned : Registration} {r₀ r : Registry α} {xs ys : List (Input α)} {acts : List (Act α)}
  {result : Except DeviceFault Unit}

theorem Concludes.of_essence (h : essence owned xs = essence owned ys)
    (run : Concludes owned r₀ xs acts result r) : Concludes owned r₀ ys acts result r := by
  obtain ⟨heard, ⟨rest, rfl⟩, run⟩ := run
  have hys : essence owned ys = essence owned heard ++ essence owned rest := by
    rw [← h]
    exact List.filter_append heard rest
  obtain ⟨heard', rest', rfl, hheard, -⟩ := List.filter_eq_append_iff.mp hys
  obtain ⟨front, noise, rfl, -, hrun⟩ := intake_padded (intake_essence run) hheard
  exact ⟨front, ⟨noise ++ rest', (List.append_assoc front noise rest').symm⟩, hrun⟩

/-- Whatever comes before the end can be heard, even if nobody else does anything. -/
theorem exists_intake (wall : Timestamp) (owned : Registration) (r₀ : Registry α)
    {xs : List (Input α)} (open_ : ∀ y ∈ xs, verdict? y = none) :
    ∃ acts r, Intake owned r₀ xs acts (.serving owned) r ∧ ∀ a ∈ acts, a.isOwn = true := by
  induction xs using List.reverseRecOn with
  | nil => exact ⟨[], r₀, .start, nofun⟩
  | append_singleton xs x ih =>
    obtain ⟨acts, r, run, quiet⟩ := ih fun y hy => open_ y (List.mem_append_left _ hy)
    have next := run.hear x
    have hx : verdict? x = none := open_ x (by simp)
    match x with
    | some (.ok frame) =>
      refine ⟨_, _, next.answer wall, fun a ha => ?_⟩
      rcases List.mem_append.mp ha with ha | ha
      · exact quiet a ha
      · obtain ⟨c, -, rfl⟩ : ∃ c, report? wall owned frame = some c ∧ .own c = a := by
          simpa using ha
        rfl
    | some (.error (.encoding _)) => exact ⟨_, _, next, quiet⟩
    | none | some (.error .closed) | some (.error (.transport _)) => cases hx

theorem own?_of_verdict {x : Input α} (h : verdict? x = some result) : own? owned x = none := by
  match x with
  | none | some (.error _) => rfl
  | some (.ok _) => cases h

/-- A connection that could send its commands has heard all and ended by what came last. -/
theorem EndedBy.of_input {heard front : List (Input α)} {x : Input α}
    {result' : Except DeviceFault Unit} (ended : EndedBy heard acts result')
    (part : heard <+: front ++ [x]) (before : ∀ y ∈ front, verdict? y = none)
    (last : verdict? x = some result) (sent : ∀ fault, .unsent fault ∉ acts) :
    heard = front ++ [x] ∧ result' = result := by
  cases ended with
  | @input front' x' _ came before' last' _ =>
    rcases List.prefix_concat_iff.mp part with hall | hpart
    · obtain ⟨-, hx⟩ := List.append_inj' (came.symm.trans hall) rfl
      cases hx
      rw [last'] at last
      exact ⟨hall, Option.some.inj last⟩
    · have hx' : x' ∈ front := hpart.subset (by simp [came])
      rw [before x' hx'] at last'
      cases last'
  | @unsent front' fault done before' open_ =>
    have hmem : .unsent fault ∈ acts := by simp [done]
    exact absurd hmem (sent fault)

/-- **A connection influences its own scooter only, and noise does not matter.**  A registered connection
serves until it ends, while others do whatever leaves it its session.

* It calls for its own scooter only: the registry has what the others did and, in their order, the
  reports of this scooter that came up; that commands were received shows in the waiting commands only.
  What is known of all other scooters, their trips and all sessions are as if only the others had acted.
* Whatever comes up can be heard to its end, and then the connection ends by it, unless a command cannot
  be sent before.
* What comes up with more or less noise leads to the same ends and the same registries, as frames or over
  a websocket. -/
theorem own_scooter_only (registered : Registered r₀ owned) :
    (∀ (xs : List (Input α)) acts result r, Concludes owned r₀ xs acts result r →
      (∃ heard, heard <+: xs ∧ EndedBy heard acts result ∧
        acts.filterMap Act.report? = heard.filterMap (own? owned)) ∧
      (∀ c, .own c ∈ acts → c.IsOwn owned) ∧
      r = r₀.enactAll acts ∧
      r.sansQueues = (r₀.enactAll (acts.filter fun a => !a.isTake)).sansQueues ∧
      Elsewhere owned.scooter (r₀.enactAll (acts.filter fun a => !a.isOwn)) r ∧
      Registered r owned) ∧
    (∀ (front : List (Input α)) x result, (∀ y ∈ front, verdict? y = none) → verdict? x = some result →
      (∃ acts r, Concludes owned r₀ (front ++ [x]) acts result r ∧ ∀ a ∈ acts, a.isOwn = true) ∧
      ∀ acts result' r, Concludes owned r₀ (front ++ [x]) acts result' r →
        (∀ fault, .unsent fault ∉ acts) →
        result' = result ∧ acts.filterMap Act.report? = front.filterMap (own? owned)) ∧
    (∀ (xs ys : List (Input α)) acts result r, essence owned xs = essence owned ys →
      (Concludes owned r₀ xs acts result r ↔ Concludes owned r₀ ys acts result r)) ∧
    ∀ (decode : String → Except Json.Fault (DeviceFrame α)) (es es' : List SocketEvent) acts result r,
      es.filter (SocketEvent.matters decode owned) = es'.filter (SocketEvent.matters decode owned) →
      (Concludes owned r₀ (es.filterMap (SocketEvent.input? decode)) acts result r ↔
        Concludes owned r₀ (es'.filterMap (SocketEvent.input? decode)) acts result r) := by
  have noise : ∀ (xs ys : List (Input α)) acts result r, essence owned xs = essence owned ys →
      (Concludes owned r₀ xs acts result r ↔ Concludes owned r₀ ys acts result r) :=
    fun xs ys acts result r h => ⟨.of_essence h, .of_essence h.symm⟩
  refine ⟨?_, ?_, noise, ?_⟩
  · rintro xs acts result r ⟨heard, part, run⟩
    have h := account_of_intake registered run
    refine ⟨⟨heard, part, h.ended⟩, h.own, h.registry, ?_, ?_, h.registered⟩
    · rw [h.registry, sansQueues_enactAll]
    · rw [h.registry]
      exact elsewhere_of_own r₀ h.own
  · intro front x result before last
    constructor
    · obtain ⟨acts, r, run, quiet⟩ :=
        exists_intake ⟨0, 0, 0, 0, 0, 0, 0, 0⟩ owned r₀ before
      exact ⟨acts, r, ⟨_, List.prefix_rfl, reaction_of_verdict last ▸ run.hear x⟩, quiet⟩
    · rintro acts result' r ⟨heard, part, run⟩ sent
      obtain ⟨ended, passed⟩ := (account_of_intake registered run).ended
      obtain ⟨rfl, rfl⟩ := ended.of_input part before last sent
      refine ⟨rfl, ?_⟩
      rw [passed, filterMap_snoc, own?_of_verdict last]
      exact List.append_nil _
  · intro decode es es' acts result r h
    refine noise _ _ acts result r ?_
    rw [essence_filterMap, essence_filterMap, h]

end Result

section Forged

/-- Scooter 2 is on trip 7 when scooter 1 connects. -/
def beforeForged : List (Call Int) :=
  [.register ⟨2024, 5, 1, 9, 0, 0, 0, 0⟩ 2, .begin 2 ⟨7⟩]

def connectForged : Call Int := .register ⟨2024, 5, 1, 9, 1, 0, 0, 0⟩ 1

/-- The device of scooter 1 reports one position of its own.  It also reports a position of scooter 2 and
the end of its trip, says hello again, and sends what is no frame. -/
def forged : List (Input Int) :=
  [some (.ok (.telemetry ⟨2, ⟨5, 5⟩⟩)), some (.error (.encoding "no frame")),
    some (.ok (.telemetry ⟨1, ⟨3, 4⟩⟩)), some (.ok (.tripEnded ⟨2, ⟨5, 5⟩, 80, .arrived, some ⟨7⟩⟩)),
    some (.ok (.hello (some 2)))]

/-- Its connection ends well, the trip of scooter 2 goes on without a tick, and it makes no difference if
the device had told its own position only. -/
theorem own_scooter_only_forged :
    ∃ acts r, Concludes ⟨1, 1⟩ ((after (.create 4) beforeForged).perform connectForged)
        [some (.ok (.telemetry ⟨1, ⟨3, 4⟩⟩)), none] acts (.ok ()) r ∧
      acts.filterMap Act.report? = [.telemetry ⟨1, ⟨3, 4⟩⟩] ∧
      r.trips.get? 2 = some ⟨⟨7⟩, 0⟩ ∧ r.live.get? 2 = none := by
  have grant : (after (.create 4) beforeForged).granted? connectForged = some ⟨1, 1⟩ := by decide
  obtain ⟨confined, ends, noise, -⟩ := own_scooter_only (registered_of_grant grant)
  have open_ : ∀ y ∈ forged, verdict? y = none := by simp [forged, verdict?]
  obtain ⟨⟨acts, r, concludes, quiet⟩, only⟩ := ends forged none (.ok ()) open_ rfl
  have sent : ∀ fault, .unsent fault ∉ acts := fun fault hf => by cases quiet _ hf
  obtain ⟨-, -, -, -, elsewhere, -⟩ := confined _ acts _ r concludes
  have alone : acts.filter (fun a => !a.isOwn) = [] := by
    rw [List.filter_eq_nil_iff]
    intro a ha
    simp [quiet a ha]
  rw [alone] at elsewhere
  refine ⟨acts, r, ?_, ?_, ?_, ?_⟩
  · exact (noise _ _ acts _ r (by decide)).mp concludes
  · rw [(only acts _ r concludes sent).2]
    decide
  · rw [elsewhere.trips 2 (by decide)]
    decide
  · rw [elsewhere.live 2 (by decide)]
    decide

end Forged

end ScooterFleet
