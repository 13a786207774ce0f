import Mathlib.Data.List.Basic
import ScooterFleet.Proofs.Registry.Trip

/-!
# Who owns a slot

A connection claims the slot of a scooter and gets a registration, which it drops when it goes.  In
between the slot may have been freed by force and claimed by a newer connection, so a registration can
outlive what it registered.

* `granted?` — the registration that a call hands out;
* `Turnover` / `turnover_perform` — **the only changes of the slots**: one is claimed, one is freed, or
  all stay with their owners;
* `LastClaim` — the latest successful claim on a scooter, with the calls behind it;
* `owner_after_iff` — a slot belongs to its latest claim until a call takes it away, and to nobody
  afterwards;
* `slot_ownership` — the run: any history of calls, in any order, by anybody.

Connections are numbered in the order of their claims, and that is what keeps an old registration from
standing for a newer one.
-/

namespace ScooterFleet
namespace Registry

variable {α : Type}

/-! ### Claims and owners -/

/-- The registration that a call hands out; none if it claims nothing. -/
def granted? (r : Registry α) : Call α → Option Registration
  | .register time id => (r.register time id).toOption.map (·.1)
  | .registerFirstFree time candidates => (r.registerFirstFree time candidates).toOption.map (·.1)
  | _ => none

/-- The registration that owns the slot of a scooter. -/
def owner (r : Registry α) (id : ScooterId) : Option Registration :=
  (r.sessions.get? id).map fun slot => ⟨id, slot.connection⟩

theorem owns_iff {r : Registry α} {g : Registration} :
    r.owns g = true ↔ r.owner g.scooter = some g := by
  obtain ⟨id, n⟩ := g
  unfold owns owner
  cases r.sessions.get? id <;> simp

theorem isConnected_iff_owner {r : Registry α} {id : ScooterId} :
    r.isConnected id = true ↔ ∃ g, r.owner id = some g := by
  rw [isConnected_iff]
  simp [owner]

theorem scooter_of_owner {r : Registry α} {id : ScooterId} {g : Registration}
    (h : r.owner id = some g) : g.scooter = id := by
  obtain ⟨slot, -, rfl⟩ := Option.map_eq_some_iff.mp h
  rfl

theorem owner_claim (r : Registry α) (time : Timestamp) (id id' : ScooterId) :
    (r.claim time id).2.owner id' =
      if (r.claim time id).1.scooter = id' then some (r.claim time id).1 else r.owner id' := by
  have hsessions : (r.claim time id).2.sessions = r.sessions.insert id ⟨r.fresh, time⟩ := rfl
  have hgrant : (r.claim time id).1 = ⟨id, r.fresh⟩ := rfl
  rw [owner, hsessions, hgrant, Table.get?_insert]
  split
  · next hid => subst hid; rfl
  · rfl

theorem owner_unregister (r : Registry α) (id id' : ScooterId) :
    (r.unregister id).owner id' = if id = id' then none else r.owner id' := by
  cases hs : r.sessions.get? id with
  | none =>
    rw [unregister_of_free hs]
    split
    · next hid => rw [← hid, owner, hs]; rfl
    · rfl
  | some slot =>
    have hsessions : (r.unregister id).sessions = r.sessions.erase id := by
      rw [unregister_of_session hs, interrupt_sessions]
      rfl
    rw [owner, hsessions, Table.get?_erase]
    split <;> rfl

theorem fresh_unregister (r : Registry α) (id : ScooterId) : (r.unregister id).fresh = r.fresh := by
  cases hs : r.sessions.get? id with
  | none => rw [unregister_of_free hs]
  | some slot =>
    rw [unregister_of_session hs]
    unfold interrupt
    split <;> rfl

/-! ### The answers to a claim -/

theorem register_of_taken {r : Registry α} {id : ScooterId} (time : Timestamp)
    (h : r.isConnected id = true) : r.register time id = .error (.alreadyRegistered id) := by
  simp [register, h]

theorem register_of_free {r : Registry α} {id : ScooterId} (time : Timestamp)
    (h : r.isConnected id = false) : r.register time id = .ok (r.claim time id) := by
  simp [register, h]

theorem registerFirstFree_of_none {r : Registry α} {ids : List ScooterId} (time : Timestamp)
    (h : ids.find? (fun id => !r.isConnected id) = none) :
    r.registerFirstFree time ids = .error .noFreeSlot := by
  simp only [registerFirstFree, h]

theorem registerFirstFree_of_some {r : Registry α} {ids : List ScooterId} {id : ScooterId}
    (time : Timestamp) (h : ids.find? (fun id => !r.isConnected id) = some id) :
    r.registerFirstFree time ids = .ok (r.claim time id) := by
  simp only [registerFirstFree, h]

/-! ### One call -/

/-- What a call does to the slots. -/
inductive Turnover (r : Registry α) (c : Call α) : Prop
  /-- A free slot goes to a connection that is newer than all before it. -/
  | claimed (g : Registration) (grant : r.granted? c = some g) (free : r.owner g.scooter = none)
      (number : g.connection = r.fresh) (fresh : (r.perform c).fresh = r.fresh + 1)
      (owners : ∀ id, (r.perform c).owner id = if g.scooter = id then some g else r.owner id)
  | freed (id : ScooterId) (grant : r.granted? c = none) (removes : c.Removes r id)
      (fresh : (r.perform c).fresh = r.fresh)
      (owners : ∀ id', (r.perform c).owner id' = if id = id' then none else r.owner id')
  | kept (grant : r.granted? c = none) (stays : ∀ id, ¬ c.Removes r id)
      (fresh : (r.perform c).fresh = r.fresh)
      (owners : ∀ id, (r.perform c).owner id = r.owner id)

theorem turnover_of_claim {r : Registry α} {c : Call α} {time : Timestamp} {id : ScooterId}
    (grant : r.granted? c = some (r.claim time id).1) (free : r.isConnected id = false)
    (h : r.perform c = (r.claim time id).2) : Turnover r c := by
  have hnone : r.owner (r.claim time id).1.scooter = none := by
    rw [Option.eq_none_iff_forall_ne_some]
    intro g hg
    have hc : r.isConnected id = true := isConnected_iff_owner.mpr ⟨g, hg⟩
    rw [free] at hc
    cases hc
  exact .claimed _ grant hnone rfl (by rw [h]; rfl) (by rw [h]; exact owner_claim r time id)

theorem turnover_of_same {r : Registry α} {c : Call α} (grant : r.granted? c = none)
    (stays : ∀ id, ¬ c.Removes r id) (h : r.perform c = r) : Turnover r c :=
  .kept grant stays (by rw [h]) (by rw [h]; exact fun _ => rfl)

theorem turnover_of_removes {r : Registry α} {c : Call α} {id : ScooterId}
    (grant : r.granted? c = none) (removes : c.Removes r id) (h : r.perform c = r.unregister id) :
    Turnover r c :=
  .freed id grant removes (by rw [h, fresh_unregister]) (by rw [h]; exact owner_unregister r id)

/-- **Every call changes the slots in one of these ways.** -/
theorem turnover_perform (r : Registry α) (c : Call α) : Turnover r c := by
  cases c with
  | register time id =>
    cases hc : r.isConnected id with
    | true =>
      have hr := register_of_taken time hc
      exact turnover_of_same (by simp only [granted?, hr]; rfl) (fun _ h => h)
        (by simp only [perform, hr])
    | false =>
      have hr := register_of_free time hc
      exact turnover_of_claim (by simp only [granted?, hr]; rfl) hc (by simp only [perform, hr])
  | registerFirstFree time ids =>
    cases hf : ids.find? fun id => !r.isConnected id with
    | none =>
      have hr := registerFirstFree_of_none time hf
      exact turnover_of_same (by simp only [granted?, hr]; rfl) (fun _ h => h)
        (by simp only [perform, hr])
    | some id =>
      have hr := registerFirstFree_of_some time hf
      have hfree := List.find?_some hf
      exact turnover_of_claim (by simp only [granted?, hr]; rfl) (by simpa using hfree)
        (by simp only [perform, hr])
  | unregister id =>
    have hr : (Call.unregister id).Removes r id := rfl
    exact turnover_of_removes rfl hr rfl
  | release g =>
    by_cases ho : r.owns g = true
    · have hr : (Call.release g).Removes r g.scooter := ⟨rfl, ho⟩
      exact turnover_of_removes rfl hr (release_of_owns ho)
    · have hn : r.owns g = false := by simpa using ho
      exact turnover_of_same rfl (fun _ h => ho h.2) (release_of_not_owns hn)
  | dispatch id destination trip =>
    have hs : ∀ id', ¬ (Call.dispatch id destination trip).Removes r id' := fun _ h => h
    rcases perform_dispatch r id destination trip with h | ⟨slot, queue, queue', -, -, -, h⟩
    · exact turnover_of_same rfl hs h
    · exact .kept rfl hs (by rw [h]) (by rw [h]; exact fun _ => rfl)
  | tripEnded time report =>
    have hs : ∀ id, ¬ (Call.tripEnded time report).Removes r id := fun _ h => h
    rcases perform_tripEnded r time report with ⟨h, -⟩ | ⟨p, -, -, h⟩ <;>
      exact .kept rfl hs (by rw [h]; rfl) (by rw [h]; exact fun _ => rfl)
  | begin id trip =>
    have hs : ∀ id', ¬ (Call.begin id trip : Call α).Removes r id' := fun _ h => h
    rcases perform_begin r id trip with h | ⟨-, -, h⟩
    · exact turnover_of_same rfl hs h
    · exact .kept rfl hs (by rw [h]) (by rw [h]; exact fun _ => rfl)
  | giveUp t | abandon t =>
    rcases abandon_cases r t with h | ⟨-, h⟩
    · exact turnover_of_same rfl (fun _ h => h) h
    · refine .kept rfl (fun _ h => h) ?_ ?_
      · show (r.abandon t).fresh = r.fresh
        rw [h]
      · intro id
        show (r.abandon t).owner id = r.owner id
        rw [h]
        rfl
  | take n =>
    have hs : ∀ id, ¬ (Call.take n : Call α).Removes r id := fun _ h => h
    rcases perform_take r n with h | ⟨queue, command, rest, -, -, h⟩
    · exact turnover_of_same rfl hs h
    · exact .kept rfl hs (by rw [h]; rfl) (by rw [h]; exact fun _ => rfl)
  | telemetry time m => exact .kept rfl (fun _ h => h) rfl fun _ => rfl
  | deafen n => exact .kept rfl (fun _ h => h) rfl fun _ => rfl
  | dropQueue n => exact .kept rfl (fun _ h => h) rfl fun _ => rfl

/-! ### Connections are new -/

theorem fresh_le_perform (r : Registry α) (c : Call α) : r.fresh ≤ (r.perform c).fresh := by
  cases turnover_perform r c with
  | claimed g grant free number fresh owners => exact fresh ▸ Nat.le_succ r.fresh
  | freed id grant removes fresh owners => exact Nat.le_of_eq fresh.symm
  | kept grant stays fresh owners => exact Nat.le_of_eq fresh.symm

theorem fresh_le_run (r : Registry α) (h : List (Call α)) : r.fresh ≤ (r.run h).fresh := by
  induction h generalizing r with
  | nil => exact Nat.le_refl _
  | cons c h ih => exact Nat.le_trans (fresh_le_perform r c) (ih (r.perform c))

/-- A grant takes the next number, and what comes behind it takes later ones. -/
theorem connection_of_grant {r : Registry α} {c : Call α} {g : Registration}
    (h : r.granted? c = some g) :
    g.connection = r.fresh ∧ g.connection < (r.perform c).fresh := by
  cases turnover_perform r c with
  | claimed g' grant free number fresh owners =>
    rw [grant] at h
    cases h
    exact ⟨number, by rw [number, fresh]; exact Nat.lt_succ_self r.fresh⟩
  | freed id grant removes fresh owners =>
    rw [grant] at h
    cases h
  | kept grant stays fresh owners =>
    rw [grant] at h
    cases h

theorem after_append (hub : Hub α) (h h' : List (Call α)) :
    after hub (h ++ h') = (after hub h).run h' :=
  run_append _ h h'

/-- Of two grants in one history, the later one has the greater number. -/
theorem connection_lt_of_later {hub : Hub α} {before mid : List (Call α)} {c c' : Call α}
    {g g' : Registration} (grant : (after hub before).granted? c = some g)
    (grant' : (after hub (before ++ [c] ++ mid)).granted? c' = some g') :
    g.connection < g'.connection := by
  have hnumber : g.connection < (after hub (before ++ [c])).fresh := by
    rw [after_snoc]
    exact (connection_of_grant grant).2
  have hlater : (after hub (before ++ [c])).fresh ≤ g'.connection := by
    rw [(connection_of_grant grant').1, after_append hub (before ++ [c])]
    exact fresh_le_run _ mid
  exact Nat.lt_of_lt_of_le hnumber hlater

/-- **No registration is handed out twice.** -/
theorem grant_unique {hub : Hub α} {before before' since since' : List (Call α)} {c c' : Call α}
    {g : Registration} (same : before ++ c :: since = before' ++ c' :: since')
    (grant : (after hub before).granted? c = some g)
    (grant' : (after hub before').granted? c' = some g) : before = before' ∧ since = since' := by
  have order : ∀ {b b' s s' : List (Call α)} {d d' : Call α}, b ++ d :: s = b' ++ d' :: s' →
      (after hub b).granted? d = some g → (after hub b').granted? d' = some g →
      b'.length ≤ b.length := by
    intro b b' s s' d d' he hg hg'
    rcases Nat.lt_or_ge b.length b'.length with hlt | hge
    · have hprefix : b ++ [d] <+: b' ++ d' :: s' := ⟨s, by rw [← he]; simp⟩
      have hlength : (b ++ [d]).length ≤ b'.length := by
        rw [List.length_append, List.length_singleton]
        exact hlt
      obtain ⟨mid, rfl⟩ :=
        List.prefix_of_prefix_length_le hprefix (List.prefix_append _ _) hlength
      exact absurd (connection_lt_of_later hg hg') (Nat.lt_irrefl _)
    · exact hge
  have hlength : before.length = before'.length :=
    Nat.le_antisymm (order same.symm grant' grant) (order same grant grant')
  obtain ⟨hbefore, hrest⟩ := List.append_inj same hlength
  exact ⟨hbefore, (List.cons.inj hrest).2⟩

/-! ### Histories -/

/-- The latest successful claim on a scooter handed out this registration, and these calls came
behind it. -/
def LastClaim (hub : Hub α) (h : List (Call α)) (id : ScooterId) (g : Registration)
    (since : List (Call α)) : Prop :=
  ∃ before c, h = before ++ c :: since ∧ (after hub before).granted? c = some g ∧ g.scooter = id ∧
    ∀ mid c' rest g', since = mid ++ c' :: rest →
      (after hub (before ++ c :: mid)).granted? c' = some g' → g'.scooter ≠ id

/-- A call that takes the slot away from a registration, if it owns one. -/
def Call.Ends (g : Registration) (c : Call α) : Prop := c = .unregister g.scooter ∨ c = .release g

theorem LastClaim.snoc {hub : Hub α} {h since : List (Call α)} {id : ScooterId} {g : Registration}
    {c : Call α} (claim : LastClaim hub h id g since)
    (hc : ∀ g', (after hub h).granted? c = some g' → g'.scooter ≠ id) :
    LastClaim hub (h ++ [c]) id g (since ++ [c]) := by
  obtain ⟨before, c₀, rfl, grant, hid, last⟩ := claim
  refine ⟨before, c₀, by simp, grant, hid, ?_⟩
  intro mid c' rest g' hsplit grant'
  rcases List.eq_nil_or_concat' rest with rfl | ⟨rest', c'', rfl⟩
  · -- the last call
    obtain ⟨rfl, rfl⟩ := List.append_inj' hsplit rfl |>.imp_right fun h => (List.cons.inj h).1
    exact hc g' grant'
  · refine last mid c' rest' g' ?_ grant'
    have hsplit' : since ++ [c] = (mid ++ c' :: rest') ++ [c''] := by simpa using hsplit
    exact (List.append_inj' hsplit' rfl).1

/-- What is the latest claim behind one more call was it before, unless the call is it. -/
theorem LastClaim.of_snoc {hub : Hub α} {h since : List (Call α)} {id : ScooterId}
    {g : Registration} {c : Call α} (claim : LastClaim hub (h ++ [c]) id g since) :
    (since = [] ∧ (after hub h).granted? c = some g ∧ g.scooter = id) ∨
      ∃ since', since = since' ++ [c] ∧ LastClaim hub h id g since' ∧
        ∀ g', (after hub h).granted? c = some g' → g'.scooter ≠ id := by
  obtain ⟨before, c₀, hsplit, grant, hid, last⟩ := claim
  rcases List.eq_nil_or_concat' since with rfl | ⟨since', c', rfl⟩
  · obtain ⟨rfl, hc⟩ := List.append_inj' hsplit rfl
    cases hc
    exact .inl ⟨rfl, grant, hid⟩
  · have hsplit' : h ++ [c] = (before ++ c₀ :: since') ++ [c'] := by simpa using hsplit
    obtain ⟨rfl, hc⟩ := List.append_inj' hsplit' rfl
    cases hc
    refine .inr ⟨since', rfl, ⟨before, c₀, rfl, grant, hid, ?_⟩, ?_⟩
    · intro mid c' rest g' hs grant'
      exact last mid c' (rest ++ [c]) g' (by rw [hs]; simp) grant'
    · intro g' grant'
      exact last since' c [] g' rfl grant'

theorem LastClaim.scooter {hub : Hub α} {h since : List (Call α)} {id : ScooterId}
    {g : Registration} (claim : LastClaim hub h id g since) : g.scooter = id := by
  obtain ⟨-, -, -, -, hid, -⟩ := claim
  exact hid

theorem LastClaim.of_grant {hub : Hub α} {h : List (Call α)} {id : ScooterId} {g : Registration}
    {c : Call α} (grant : (after hub h).granted? c = some g) (hid : g.scooter = id) :
    LastClaim hub (h ++ [c]) id g [] := by
  refine ⟨h, c, rfl, grant, hid, ?_⟩
  intro mid c' rest g' hs
  cases mid <;> cases hs

/-- A call that frees the slot of an owner ends its ownership, and only such a call frees it. -/
theorem removes_iff_ends {r : Registry α} {id : ScooterId} {g : Registration} {c : Call α}
    (h : r.owner id = some g) : c.Removes r id ↔ c.Ends g := by
  have hid : g.scooter = id := scooter_of_owner h
  constructor
  · intro hr
    cases c with
    | unregister id' =>
      have he : id' = id := hr
      exact .inl (by rw [he, hid])
    | release g' =>
      obtain ⟨hscooter, howns⟩ := hr
      rw [owns_iff, hscooter, h] at howns
      cases howns
      exact .inr rfl
    | _ => exact hr.elim
  · intro he
    rcases he with rfl | rfl
    · exact hid
    · exact ⟨hid, owns_iff.mpr (by rw [hid, h])⟩

/-- **Who owns a slot after a call** was handed it by the call, or owned it before and was not ended; a
call that claims the slot leaves no older owner. -/
theorem owner_perform_iff {r : Registry α} {c : Call α} {id : ScooterId} {g : Registration} :
    (r.perform c).owner id = some g ↔
      (r.granted? c = some g ∧ g.scooter = id) ∨
        (r.owner id = some g ∧ ¬ c.Ends g ∧ ∀ g', r.granted? c = some g' → g'.scooter ≠ id) := by
  cases turnover_perform r c with
  | claimed g' grant free number fresh owners =>
    rw [owners, grant]
    by_cases hid : g'.scooter = id
    · rw [if_pos hid]
      constructor
      · intro h
        cases h
        exact .inl ⟨rfl, hid⟩
      · intro h
        rcases h with ⟨h, -⟩ | ⟨-, -, hother⟩
        · exact h
        · exact absurd hid (hother g' rfl)
    · rw [if_neg hid]
      constructor
      · intro h
        refine .inr ⟨h, ?_, fun g'' hg => Option.some.inj hg ▸ hid⟩
        intro he
        rcases he with rfl | rfl <;> cases grant
      · intro h
        rcases h with ⟨h, hscooter⟩ | ⟨h, -, -⟩
        · cases h
          exact absurd hscooter hid
        · exact h
  | freed id' grant removes fresh owners =>
    rw [owners, grant]
    by_cases hid : id' = id
    · subst hid
      rw [if_pos rfl]
      constructor
      · intro h
        cases h
      · intro h
        rcases h with ⟨h, -⟩ | ⟨h, hends, -⟩
        · cases h
        · exact absurd ((removes_iff_ends h).mp removes) hends
    · rw [if_neg hid]
      constructor
      · intro h
        refine .inr ⟨h, ?_, nofun⟩
        intro he
        have hscooter : g.scooter = id := scooter_of_owner h
        rcases he with rfl | rfl
        · exact hid (removes.symm.trans hscooter)
        · exact hid (removes.1.symm.trans hscooter)
      · intro h
        rcases h with ⟨h, -⟩ | ⟨h, -, -⟩
        · cases h
        · exact h
  | kept grant stays fresh owners =>
    rw [owners, grant]
    constructor
    · intro h
      exact .inr ⟨h, fun he => stays id ((removes_iff_ends h).mpr he), nofun⟩
    · intro h
      rcases h with ⟨h, -⟩ | ⟨h, -, -⟩
      · cases h
      · exact h

/-- **A slot belongs to its latest claim until a call takes it away, and to nobody afterwards.**  By
induction over the history, from its end. -/
theorem owner_after_iff (hub : Hub α) (h : List (Call α)) (id : ScooterId) (g : Registration) :
    (after hub h).owner id = some g ↔
      ∃ since, LastClaim hub h id g since ∧ ∀ c ∈ since, ¬ c.Ends g := by
  induction h using List.reverseRecOn with
  | nil =>
    constructor
    · intro ho
      cases ho
    · intro ho
      obtain ⟨since, ⟨before, c, hsplit, -⟩, -⟩ := ho
      cases before <;> cases hsplit
  | append_singleton h c ih =>
    rw [after_snoc, owner_perform_iff, ih]
    constructor
    · intro ho
      rcases ho with ⟨grant, hid⟩ | ⟨⟨since, claim, hsince⟩, hends, hother⟩
      · exact ⟨[], .of_grant grant hid, by simp⟩
      · refine ⟨since ++ [c], claim.snoc hother, ?_⟩
        intro c' hc'
        rcases List.mem_append.mp hc' with hc' | hc'
        · exact hsince c' hc'
        · exact List.mem_singleton.mp hc' ▸ hends
    · intro ho
      obtain ⟨since, claim, hsince⟩ := ho
      rcases claim.of_snoc with ⟨-, grant, hid⟩ | ⟨since', rfl, claim', hother⟩
      · exact .inl ⟨grant, hid⟩
      · refine .inr ⟨⟨since', claim', ?_⟩, ?_, hother⟩
        · exact fun c' hc' => hsince c' (List.mem_append_left _ hc')
        · exact hsince c (List.mem_append_right _ (List.mem_singleton.mpr rfl))

/-- A scooter is connected as long as its slot belongs to its latest claim. -/
theorem isConnected_after_iff (hub : Hub α) (h : List (Call α)) (id : ScooterId) :
    (after hub h).isConnected id = true ↔
      ∃ g since, LastClaim hub h id g since ∧
        ∀ c ∈ since, c ≠ .unregister id ∧ c ≠ .release g := by
  rw [isConnected_iff_owner]
  constructor
  · intro hc
    obtain ⟨g, hg⟩ := hc
    obtain ⟨since, claim, clean⟩ := (owner_after_iff hub h id g).mp hg
    have hid : g.scooter = id := scooter_of_owner hg
    refine ⟨g, since, claim, fun c hc => ⟨?_, fun he => clean c hc (.inr he)⟩⟩
    exact fun he => clean c hc (.inl (by rw [he, hid]))
  · intro hc
    obtain ⟨g, since, claim, clean⟩ := hc
    have hid : g.scooter = id := claim.scooter
    refine ⟨g, (owner_after_iff hub h id g).mpr ⟨since, claim, ?_⟩⟩
    intro c hc he
    rcases he with he | he
    · exact (clean c hc).1 (by rw [he, hid])
    · exact (clean c hc).2 he

theorem eq_of_owns {r : Registry α} {g g' : Registration} (hg : r.owns g = true)
    (hg' : r.owns g' = true) (hid : g.scooter = g'.scooter) : g = g' := by
  rw [owns_iff] at hg hg'
  rw [hid, hg'] at hg
  exact (Option.some.inj hg).symm

/-- A registration whose slot was taken away never owns it again, whoever claims it. -/
theorem not_owns_of_ended {hub : Hub α} {h before since : List (Call α)} {c e : Call α}
    {g : Registration} (split : h = before ++ c :: since)
    (grant : (after hub before).granted? c = some g) (he : e ∈ since) (ends : e.Ends g) :
    (after hub h).owns g = false := by
  rw [Bool.eq_false_iff]
  intro howns
  obtain ⟨since', ⟨before', c', split', grant', -, -⟩, clean⟩ :=
    (owner_after_iff hub h g.scooter g).mp (owns_iff.mp howns)
  obtain ⟨-, rfl⟩ := grant_unique (split.symm.trans split') grant grant'
  exact clean e he ends

/-! ### Claims and their registrations -/

/-- A claim on one scooter: refused exactly if somebody is connected, and otherwise it hands out the
registration that owns the slot from now on. -/
theorem register_answers (r : Registry α) (time : Timestamp) (id : ScooterId) :
    (r.register time id = .error (.alreadyRegistered id) ↔ r.isConnected id = true) ∧
      (r.isConnected id = false →
        ∃ g, r.register time id = .ok (g, r.perform (.register time id)) ∧ g.scooter = id ∧
          (r.perform (.register time id)).owns g = true) := by
  cases hc : r.isConnected id with
  | true => simp [register_of_taken time hc]
  | false =>
    have hr := register_of_free time hc
    have hp : r.perform (.register time id) = (r.claim time id).2 := by simp only [perform, hr]
    refine ⟨by simp [hr], fun _ => ⟨(r.claim time id).1, by rw [hr, hp], rfl, ?_⟩⟩
    rw [owns_iff, hp, owner_claim, if_pos rfl]

/-- A claim on one of some scooters takes the first that is free, and is refused exactly if none is. -/
theorem registerFirstFree_answers (r : Registry α) (time : Timestamp) (ids : List ScooterId) :
    (r.registerFirstFree time ids = .error .noFreeSlot ↔ ∀ id ∈ ids, r.isConnected id = true) ∧
      ((∃ id ∈ ids, r.isConnected id = false) →
        ∃ g front back, r.registerFirstFree time ids =
            .ok (g, r.perform (.registerFirstFree time ids)) ∧
          ids = front ++ g.scooter :: back ∧ (∀ id ∈ front, r.isConnected id = true) ∧
          r.isConnected g.scooter = false ∧
          (r.perform (.registerFirstFree time ids)).owns g = true) := by
  cases hf : ids.find? fun id => !r.isConnected id with
  | none =>
    have hall : ∀ id ∈ ids, r.isConnected id = true := by
      intro id hid
      have hn := List.find?_eq_none.mp hf id hid
      simpa using hn
    have hr := registerFirstFree_of_none time hf
    refine ⟨⟨fun _ => hall, fun _ => hr⟩, ?_⟩
    intro h
    obtain ⟨id, hid, hfree⟩ := h
    rw [hall id hid] at hfree
    cases hfree
  | some id =>
    obtain ⟨hfree, front, back, hsplit, hfront⟩ := List.find?_eq_some_iff_append.mp hf
    have hfree : r.isConnected id = false := by simpa using hfree
    have hr := registerFirstFree_of_some time hf
    have hp : r.perform (.registerFirstFree time ids) = (r.claim time id).2 := by
      simp only [perform, hr]
    refine ⟨⟨?_, ?_⟩, fun _ => ⟨(r.claim time id).1, front, back, by rw [hr, hp], hsplit, ?_, hfree, ?_⟩⟩
    · intro h
      rw [hr] at h
      cases h
    · intro h
      have hc := h id (by rw [hsplit]; simp)
      rw [hfree] at hc
      cases hc
    · intro id' hid'
      simpa using hfront id' hid'
    · rw [owns_iff, hp, owner_claim, if_pos rfl]

/-- A call that asks for a slot. -/
def Call.IsClaim : Call α → Prop
  | .register _ _ | .registerFirstFree _ _ => True
  | _ => False

/-- A claim that is refused leaves the registry. -/
theorem perform_of_refused {r : Registry α} {c : Call α} (hc : c.IsClaim)
    (refused : r.granted? c = none) : r.perform c = r := by
  cases c with
  | register time id =>
    simp only [granted?] at refused
    unfold perform
    cases hr : r.register time id with
    | ok x =>
      rw [hr] at refused
      cases refused
    | error fault => simp [hr]
  | registerFirstFree time ids =>
    simp only [granted?] at refused
    unfold perform
    cases hr : r.registerFirstFree time ids with
    | ok x =>
      rw [hr] at refused
      cases refused
    | error fault => simp [hr]
  | _ => exact hc.elim

/-- **A slot has one owner, the connection that claimed it last, until it is freed.**  After every
history of calls:

* a scooter is connected exactly if neither its removal nor the drop of that registration came behind
  the latest successful claim on it;
* two registrations that own a slot of one scooter are the same, and no registration is handed out
  twice;
* a registration whose slot was freed, by force or by its own drop, owns nothing any more, and to drop
  it changes nothing, whatever has been claimed since;
* a claim is refused exactly if its slot, or each of its slots, is taken; it takes the first free one;
  a refused claim changes nothing. -/
theorem slot_ownership (hub : Hub α) (h : List (Call α)) :
    (∀ id, (after hub h).isConnected id = true ↔
      ∃ g since, LastClaim hub h id g since ∧ ∀ c ∈ since, c ≠ .unregister id ∧ c ≠ .release g) ∧
    (∀ g g', (after hub h).owns g = true → (after hub h).owns g' = true →
      g.scooter = g'.scooter → g = g') ∧
    (∀ before before' since since' c c' g, h = before ++ c :: since → h = before' ++ c' :: since' →
      (after hub before).granted? c = some g → (after hub before').granted? c' = some g →
      before = before') ∧
    (∀ before since c g, h = before ++ c :: since → (after hub before).granted? c = some g →
      (.unregister g.scooter ∈ since ∨ .release g ∈ since) →
      (after hub h).owns g = false ∧ (after hub h).release g = after hub h) ∧
    (∀ time id,
      ((after hub h).register time id = .error (.alreadyRegistered id) ↔
        (after hub h).isConnected id = true) ∧
      ((after hub h).isConnected id = false →
        ∃ g, (after hub h).register time id = .ok (g, after hub (h ++ [.register time id])) ∧
          g.scooter = id ∧ (after hub (h ++ [.register time id])).owns g = true)) ∧
    (∀ time ids,
      ((after hub h).registerFirstFree time ids = .error .noFreeSlot ↔
        ∀ id ∈ ids, (after hub h).isConnected id = true) ∧
      ((∃ id ∈ ids, (after hub h).isConnected id = false) →
        ∃ g front back, (after hub h).registerFirstFree time ids =
            .ok (g, after hub (h ++ [.registerFirstFree time ids])) ∧
          ids = front ++ g.scooter :: back ∧
          (∀ id ∈ front, (after hub h).isConnected id = true) ∧
          (after hub h).isConnected g.scooter = false ∧
          (after hub (h ++ [.registerFirstFree time ids])).owns g = true)) ∧
    ∀ c : Call α, c.IsClaim → (after hub h).granted? c = none → after hub (h ++ [c]) = after hub h := by
  simp only [after_snoc]
  refine ⟨isConnected_after_iff hub h, fun g g' => eq_of_owns, ?_, ?_, register_answers _,
    registerFirstFree_answers _, fun c hc => perform_of_refused hc⟩
  · intro before before' since since' c c' g split split' grant grant'
    exact (grant_unique (split.symm.trans split') grant grant').1
  · intro before since c g split grant hended
    have hno : (after hub h).owns g = false := by
      rcases hended with he | he
      · exact not_owns_of_ended split grant he (.inl rfl)
      · exact not_owns_of_ended split grant he (.inr rfl)
    exact ⟨hno, release_of_not_owns hno⟩

/-- A device comes back behind a forced removal, and only then its old connection goes. -/
example :
    let noon : Timestamp := ⟨2024, 5, 1, 12, 0, 0, 0, 0⟩
    let back : List (Call Int) := [.register noon 1, .unregister 1, .register noon 1]
    (after (.create 8) back).owner 1 = some ⟨1, 1⟩ ∧
      (after (.create 8) (back ++ [.release ⟨1, 0⟩])).owner 1 = some ⟨1, 1⟩ ∧
      (after (.create 8) (back ++ [.release ⟨1, 1⟩])).owner 1 = none :=
  ⟨rfl, rfl, rfl⟩

end Registry
end ScooterFleet
